import MarkupAudit.Proofs.Faults.Wording

/-!
# What the violations of a rule refer to

The result of a rule shows the findings of its check one by one, so what is found by judging single
places is told of these places in their order, and the rule is satisfied exactly if nothing is
found.

Main statements: `Rule.exists_run` and `Rule.exists_run_passed_iff` (a check that succeeds leads to
a result, which is satisfied if nothing was found), `Finding.judgeOrFail_eq_nil_iff` (nothing is
found exactly if no place is objected to) and `RuleResult.positions_eq` (which elements the
violations refer to).
-/

namespace MarkupAudit

/-! ## Findings -/

namespace Finding

variable {ps : List Place}

theorem judge_eq_nil_iff {judgement : Place → Option String} :
    judge judgement ps = [] ↔ ∀ p ∈ ps, judgement p = none := by
  simp [judge, List.filterMap_eq_nil_iff]

/-- Judgements that all succeed are those of a judgement that cannot fail. -/
theorem judgeOrFail_eq_judge {judgement : Place → Except Fault (Option String)}
    {verdict : Place → Option String} (h : ∀ p ∈ ps, judgement p = .ok (verdict p)) :
    judgeOrFail judgement ps = .ok (judge verdict ps) := by
  induction ps with
  | nil => rfl
  | cons p rest ih =>
    have hrest := ih fun q hq => h q (List.mem_cons_of_mem p hq)
    rw [judgeOrFail, h p List.mem_cons_self, hrest]
    cases hverdict : verdict p <;> simp [judge, hverdict, bind, Except.bind, pure, Except.pure]

/-- A run that succeeds has asked every place, so it finds what a judgement that cannot fail
does. -/
theorem exists_judge_of_judgeOrFail {judgement : Place → Except Fault (Option String)}
    {found : List Finding} (h : judgeOrFail judgement ps = .ok found) :
    ∃ verdict, (∀ p ∈ ps, judgement p = .ok (verdict p)) ∧ found = judge verdict ps := by
  let verdict : Place → Option String := fun q => (judgement q).toOption.join
  have hverdict : ∀ q ∈ ps, judgement q = .ok (verdict q) := by
    intro q hq
    rcases succeeds_judgeOrFail_iff.1 ⟨found, h⟩ q hq with ⟨said, hsaid⟩
    simp [verdict, hsaid, Except.toOption]
  exact ⟨verdict, hverdict, Except.ok.inj (h.symm.trans (judgeOrFail_eq_judge hverdict))⟩

/-- Nothing is found exactly if no place is objected to. -/
theorem judgeOrFail_eq_nil_iff {judgement : Place → Except Fault (Option String)} :
    judgeOrFail judgement ps = .ok [] ↔ ∀ p ∈ ps, judgement p = .ok none := by
  constructor
  · intro h p hp
    rcases exists_judge_of_judgeOrFail h with ⟨verdict, hverdict, hnothing⟩
    rw [hverdict p hp, judge_eq_nil_iff.1 hnothing.symm p hp]
  · intro h
    rw [judgeOrFail_eq_judge h, judge_eq_nil_iff.2 fun _ _ => rfl]

end Finding

/-! ## Results -/

namespace RuleResult

/-- The positions of the elements that the violations refer to, one for each violation that refers
to an element. -/
def positions (result : RuleResult) : List Nat :=
  result.violations.filterMap fun v => v.subject.map (·.position)

variable {result : RuleResult} {name : String} {findings : List Finding}

theorem positions_eq {reported : List Place}
    (hviolations : result.violations = findings.map (Violation.ofFinding name))
    (hsubjects : findings.map Finding.subject = reported.map some) :
    result.positions = reported.map (·.position) := by
  calc
    result.positions = findings.filterMap fun f => f.subject.map (·.position) := by
      simp [positions, hviolations, List.filterMap_map, Violation.ofFinding, Function.comp_def]
    _ = (findings.map Finding.subject).filterMap fun p? => p?.map (·.position) := by
      rw [List.filterMap_map]
      rfl
    _ = reported.map (·.position) := by
      rw [hsubjects, List.filterMap_map]
      exact congrFun List.filterMap_eq_map' reported

theorem passed_iff (hviolations : result.violations = findings.map (Violation.ofFinding name)) :
    result.passed = true ↔ findings = [] := by
  simp [passed, hviolations]

end RuleResult

/-- A check that succeeds leads to a result if the header, should it be needed, can be filled in. -/
theorem Rule.exists_run {rule : Rule} {s : Settings} {d : Document} {findings : List Finding}
    (hplain : rule.HasPlainHeader) (hcheck : rule.check s d = .ok findings) :
    ∃ result, rule.run s d = .ok result ∧
      Wording.tell rule.style rule.summary rule.name (findings.map Finding.message) =
        .ok result.message ∧
      result.violations = findings.map (Violation.ofFinding rule.name) := by
  have hrefuses : RefusesIf False (rule.check s d) := Succeeds.refusesIf ⟨findings, hcheck⟩ id
  rcases (Rule.refusesIf_run hplain hrefuses).succeeds id with ⟨result, hrun⟩
  rcases Rule.exists_of_run_eq_ok hrun with ⟨found, hfound, htold, -, -, hviolations⟩
  rcases Except.ok.inj (hcheck.symm.trans hfound) with rfl
  exact ⟨result, hrun, htold, hviolations⟩

/-- The result of a check that succeeds says whether something was found. -/
theorem Rule.exists_run_passed_iff {rule : Rule} {s : Settings} {d : Document}
    {findings : List Finding} (hplain : rule.HasPlainHeader)
    (hcheck : rule.check s d = .ok findings) :
    ∃ result, rule.run s d = .ok result ∧ (result.passed = true ↔ findings = []) := by
  rcases Rule.exists_run hplain hcheck with ⟨result, hrun, -, hviolations⟩
  exact ⟨result, hrun, RuleResult.passed_iff hviolations⟩

end MarkupAudit
