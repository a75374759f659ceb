import MarkupAudit.Proofs.Audit.Findings
import MarkupAudit.Proofs.Rule.Order
import MarkupAudit.Proofs.Rules.MailLinks

/-!
# The order of violations

Most rules tell of the elements of a document one after another. So the sentence of a rule that
reports one finding is about the first element it objects to, and the lines of a rule that lists its
findings come in the order of the document. The rules that go through the document more than once,
or into elements that may be nested in each other, are listed by name. Of these only the rule about
mail links is spoken of here: it never goes back.

Main statement: `violations_follow_document`.
-/

namespace MarkupAudit

/-! ## Results -/

/-- Several messages are listed under a header, line by line. -/
theorem Wording.exists_header {header : Option String} {rule told : String} {messages : List String}
    (htold : tell .collect header rule messages = .ok told) (hseveral : 2 ≤ messages.length) :
    ∃ line, told = Text.join "\n" (line :: messages.map ("- " ++ ·)) := by
  match messages with
  | [] => cases hseveral
  | [_] => exact absurd hseveral (by simp)
  | message :: other :: rest =>
    have hlisted : list header rule (message :: other :: rest) = .ok told := htold
    rw [list] at hlisted
    split at hlisted
    · next line _ => exact ⟨line, (Except.ok.inj hlisted).symm⟩
    · cases hlisted

namespace Rule

variable {rule : Rule} {s : Settings} {d : Document} {result : RuleResult}

theorem sublist_places (hordered : rule.InDocumentOrder) (hrun : rule.run s d = .ok result) :
    result.places.Sublist d.places := by
  rcases exists_of_run_eq_ok hrun with ⟨findings, hcheck, -, -, -, hviolations⟩
  rw [RuleResult.places_eq hviolations]
  exact hordered s d findings hcheck

/-- A rule that reports one finding reports the first. -/
theorem message_of_firstMatch {first : Violation} {others : List Violation}
    (hrun : rule.run s d = .ok result) (hstyle : rule.style = .firstMatch)
    (hviolations : result.violations = first :: others) : result.message = first.message := by
  rcases exists_of_run_eq_ok hrun with ⟨findings, -, htold, -, -, hfound⟩
  rcases List.map_eq_cons_iff.1 (hfound.symm.trans hviolations) with ⟨f, rest, rfl, rfl, -⟩
  rw [hstyle] at htold
  cases rest <;> exact (Except.ok.inj htold).symm

/-- A rule that lists its findings lists them in their order. -/
theorem message_of_collect (hrun : rule.run s d = .ok result) (hstyle : rule.style = .collect)
    (hseveral : 2 ≤ result.violations.length) :
    ∃ header, result.message =
      Text.join "\n" (header :: result.violations.map fun v => "- " ++ v.message) := by
  rcases exists_of_run_eq_ok hrun with ⟨findings, -, htold, -, -, hviolations⟩
  have hlines : findings.map Finding.message = result.violations.map (·.message) := by
    rw [hviolations, List.map_map]
    rfl
  rw [hlines, hstyle] at htold
  simpa [Function.comp_def] using Wording.exists_header htold (by simpa using hseveral)

end Rule

/-- When every violation refers to an element, these elements are told in their order. -/
theorem RuleResult.subjects_eq {result : RuleResult}
    (hsome : ∀ v ∈ result.violations, ∃ p, v.subject = some p) :
    result.violations.map (·.subject) = result.places.map some := by
  rw [places]
  generalize result.violations = violations at hsome
  induction violations with
  | nil => rfl
  | cons v rest ih =>
    rcases hsome v List.mem_cons_self with ⟨p, hp⟩
    rw [List.map_cons, List.filterMap_cons_some hp, List.map_cons, hp,
      ih fun w hw => hsome w (List.mem_cons_of_mem v hw)]

namespace Catalogue

open Rules Rule

/-- Rules that do not go through the document once. -/
def unordered : List String :=
  ["mailto_links_are_valid", "unique_landmark_roles", "presentation_tables_have_no_semantics",
    "radio_checkbox_inputs_have_name", "list_items_have_valid_parent",
    "definition_list_structure_is_valid", "definition_list_items_have_valid_parent",
    "no_invalid_nesting", "legend_is_first_child", "summary_is_first_child", "tables_have_caption",
    "table_structure_is_ordered", "dir_matches_lang"]

theorem inDocumentOrder_advice :
    ∀ rule ∈ advice.rules, rule.name ∈ unordered ∨ rule.InDocumentOrder := by
  simp only [advice, List.forall_mem_cons, List.not_mem_nil, false_imp_iff, implies_true, and_true]
  and_intros
  · exact Or.inr (.listing .onTags)
  · exact Or.inr (.listing .onEvery)
  · exact Or.inr (.listing .onEvery)
  · exact Or.inr inDocumentOrder_onlyOneVisibleMain
  · exact Or.inr (.judgeOrFail (fun _ _ => rfl) fun d => d.placesOf_sublist _)
  · exact Or.inr (.judgeOrFail (fun _ _ => rfl) fun d => d.placesOf_sublist _)
  · exact Or.inl (by decide)
  · exact Or.inr (inDocumentOrder_numberLinks _ _ _)
  · exact Or.inr (inDocumentOrder_numberLinks _ _ _)
  · exact Or.inr (inDocumentOrder_numberLinks _ _ _)
  · exact Or.inr (.listing .onTags)
  · exact Or.inl (by decide)
  · exact Or.inr (.listing fun d => InDocumentOrder.onTags d)
  · exact Or.inr (.listing .onTags)
  · exact Or.inr (.listing .onEvery)

theorem inDocumentOrder_errors :
    ∀ rule ∈ errors.rules, rule.name ∈ unordered ∨ rule.InDocumentOrder := by
  simp only [errors, List.forall_mem_cons, List.not_mem_nil, false_imp_iff, implies_true,
    and_true]
  and_intros
  · exact Or.inr (.listing .onEvery)
  · exact Or.inr (.judgeOrFail (fun _ _ => rfl) fun _ => List.Sublist.refl _)
  · exact Or.inr (.listing .onTags)
  · exact Or.inr (.listing .onTags)
  · exact Or.inr (.listing .onTags)
  · exact Or.inr (.listing .onEvery)
  · exact Or.inr (.listing .onTags)
  · exact Or.inr (.listing .onTags)
  · exact Or.inr (.listing fun d => InDocumentOrder.onTags d)
  · exact Or.inr (.listing .onTags)
  · exact Or.inr (.listing .onTags)
  · exact Or.inr (.listing .onTags)
  · exact Or.inr (.listing .onTags)
  · exact Or.inr (.listing .onTags)
  · exact Or.inr (.listing .onTags)
  · exact Or.inr (.listing .onTags)
  · exact Or.inr (.listing .onTags)
  · exact Or.inr (.listing .onTags)
  · exact Or.inr (.listing .onTags)
  · exact Or.inr (.listing .onTags)
  · exact Or.inl (by decide)
  · exact Or.inr (.listing .onEvery)
  · exact Or.inr (.listing .onEvery)
  · exact Or.inr (.listing .onEvery)
  · exact Or.inr inDocumentOrder_titleNotEmpty
  · exact Or.inr (.judgeOrFail (fun _ _ => rfl) fun d => d.placesOf_sublist _)
  · exact Or.inr (.listing .onTags)
  · exact Or.inr inDocumentOrder_charsetIsFirst
  · exact Or.inr (.listing .onEvery)
  · exact Or.inr (.listing .onEvery)
  · exact Or.inl (by decide)
  · exact Or.inr inDocumentOrder_radiosInsideFieldset
  · exact Or.inr (inDocumentOrder_roleRequires _ _ _ _)
  · exact Or.inr (inDocumentOrder_roleRequires _ _ _ _)
  · exact Or.inr (inDocumentOrder_roleRequires _ _ _ _)
  · exact Or.inr (inDocumentOrder_roleRequires _ _ _ _)
  · exact Or.inr (inDocumentOrder_roleRequires _ _ _ _)
  · exact Or.inr (.judgeOrFail (fun _ _ => rfl) fun _ => List.Sublist.refl _)

theorem inDocumentOrder_obsoletes :
    ∀ rule ∈ obsoletes.rules, rule.name ∈ unordered ∨ rule.InDocumentOrder := by
  simp only [obsoletes, List.forall_mem_cons, List.not_mem_nil, false_imp_iff, implies_true,
    and_true]
  and_intros
  · exact Or.inr (.listing .onEvery)
  · exact Or.inr (.listing .onEvery)

theorem inDocumentOrder_warnings :
    ∀ rule ∈ warnings.rules, rule.name ∈ unordered ∨ rule.InDocumentOrder := by
  simp only [warnings, List.forall_mem_cons, List.not_mem_nil, false_imp_iff, implies_true,
    and_true]
  and_intros
  · exact Or.inl (by decide)
  · exact Or.inl (by decide)
  · exact Or.inl (by decide)
  · exact Or.inr (.listing .onTags)
  · exact Or.inl (by decide)
  · exact Or.inr (.listing .onTags)
  · exact Or.inr (.listing .onEvery)
  · exact Or.inl (by decide)
  · exact Or.inl (by decide)
  · exact Or.inr (.listing .onTags)
  · exact Or.inr (.listing .onEvery)
  · exact Or.inr (.listing .onEvery)
  · exact Or.inr (.telling .onTags)
  · exact Or.inr (.telling .onTags)
  · exact Or.inr (.telling .onTags)
  · exact Or.inr (.telling .onTags)
  · exact Or.inr inDocumentOrder_noEmptyElements
  · exact Or.inr (.telling .onTags)
  · exact Or.inl (by decide)
  · exact Or.inl (by decide)
  · exact Or.inr inDocumentOrder_tablesHaveThead
  · exact Or.inr (.telling .onTags)
  · exact Or.inr (.telling .onTags)
  · exact Or.inr (.telling .onEvery)
  · exact Or.inr inDocumentOrder_labelsHaveControl
  · exact Or.inl (by decide)

theorem inDocumentOrder_of_mem {rule : Rule} (hrule : rule ∈ registry.rules)
    (hname : rule.name ∉ unordered) : rule.InDocumentOrder := by
  rcases mem_rules_registry_iff.1 hrule with hadvice | herrors | hobsoletes | hwarnings
  · exact (inDocumentOrder_advice rule hadvice).resolve_left hname
  · exact (inDocumentOrder_errors rule herrors).resolve_left hname
  · exact (inDocumentOrder_obsoletes rule hobsoletes).resolve_left hname
  · exact (inDocumentOrder_warnings rule hwarnings).resolve_left hname

theorem length_ordered :
    (registry.rules.filter fun rule => !unordered.contains rule.name).length = 68 := by
  rw [rules_registry]
  decide +kernel

theorem mailtoLinksAreValid_mem : mailtoLinksAreValid ∈ registry.rules := by
  simp [mem_rules_registry_iff, advice]

/-- Only of a document without titles a rule speaks as a whole, and says nothing else then. -/
theorem subjects_of_mem {rule : Rule} (hrule : rule ∈ registry.rules) {s : Settings} {d : Document}
    {result : RuleResult} (hrun : rule.run s d = .ok result)
    (hmany : rule.style = .firstMatch ∨ 2 ≤ result.violations.length) :
    result.violations.map (·.subject) = result.places.map some := by
  rcases exists_of_run_eq_ok hrun with ⟨findings, hcheck, -, -, -, hviolations⟩
  rcases grounded_or_untitled hrule hcheck with ⟨-, hgrounded⟩ | ⟨hname, -, f, rfl, -⟩
  · refine RuleResult.subjects_eq fun v hv => ?_
    rcases List.mem_map.1 (hviolations ▸ hv) with ⟨f, hf, rfl⟩
    rcases (hgrounded f hf).exists_subject with ⟨p, -, hsubject⟩
    exact ⟨p, hsubject⟩
  · rcases eq_titleNotEmpty hrule hname with rfl
    rcases hmany with hstyle | hseveral
    · cases hstyle
    · simp [hviolations] at hseveral

end Catalogue

/-! ## Mail links -/

namespace Rules

theorem places_mailComplaints (d : Document) :
    Finding.places (d.places.flatMap mailComplaints) ⊆ d.places ∧
      (Finding.places (d.places.flatMap mailComplaints)).Pairwise
        fun p q => p.position ≤ q.position := by
  have hown : ∀ p, ∀ q ∈ Finding.places (mailComplaints p), q = p := by
    intro p q hq
    rcases List.mem_filterMap.1 hq with ⟨f, hf, hsubject⟩
    rw [subject_of_mem_mailComplaints hf] at hsubject
    exact (Option.some.inj hsubject).symm
  rw [Finding.places_flatMap]
  constructor
  · intro q hq
    rcases List.mem_flatMap.1 hq with ⟨p, hp, hq⟩
    rcases hown p q hq with rfl
    exact hp
  · refine List.pairwise_flatMap.2 ⟨fun p _ => ?_, (Document.pairwise_places d).imp ?_⟩
    -- What one element is told of is all at one position.
    · refine List.pairwise_of_forall_mem_list fun q hq q' hq' => ?_
      rw [hown p q hq, hown p q' hq']
    · intro p p' hlt q hq q' hq'
      rw [hown p q hq, hown p' q' hq']
      exact Nat.le_of_lt hlt

end Rules

open Rules

/-- The violations of all rules of the catalogue but thirteen refer to elements in document order,
to each at most once. So what such a rule says when it reports one finding is said of the first
element that it objects to, and when it lists its findings the lines follow the document. The rule
about mail links never goes back in the document, but may tell of one link several times. -/
theorem violations_follow_document (s : Settings) (d : Document) :
    (Catalogue.registry.rules.filter fun rule =>
      !Catalogue.unordered.contains rule.name).length = 68 ∧
      ∀ rule ∈ Catalogue.registry.rules, ∀ result, rule.run s d = .ok result →
        (rule.name ∉ Catalogue.unordered →
          result.places.Sublist d.places ∧
          (result.places.Pairwise fun p q => p.position < q.position) ∧
          (rule.style = .firstMatch → ∀ first others, result.violations = first :: others →
            result.message = first.message ∧
              ∃ p, first.subject = some p ∧ ∀ q ∈ result.places, p.position ≤ q.position) ∧
          (rule.style = .collect → 2 ≤ result.violations.length →
            result.violations.map (·.subject) = result.places.map some ∧
              ∃ header, result.message =
                Text.join "\n" (header :: result.violations.map fun v => "- " ++ v.message))) ∧
        (rule.name = "mailto_links_are_valid" → result.places ⊆ d.places ∧
          result.places.Pairwise fun p q => p.position ≤ q.position) := by
  refine ⟨Catalogue.length_ordered, ?_⟩
  intro rule hrule result hrun
  constructor
  · intro hname
    have hplaces := Rule.sublist_places (Catalogue.inDocumentOrder_of_mem hrule hname) hrun
    have hincreasing := (Document.pairwise_places d).sublist hplaces
    refine ⟨hplaces, hincreasing, ?_, ?_⟩
    · intro hstyle first others hviolations
      refine ⟨Rule.message_of_firstMatch hrun hstyle hviolations, ?_⟩
      have hsubjects := Catalogue.subjects_of_mem hrule hrun (Or.inl hstyle)
      rw [hviolations, List.map_cons] at hsubjects
      rcases List.map_eq_cons_iff.1 hsubjects.symm with ⟨p, rest, hfirst, hsubject, -⟩
      rw [hfirst] at hincreasing ⊢
      refine ⟨p, hsubject.symm, fun q hq => ?_⟩
      rcases List.mem_cons.1 hq with rfl | hrest
      · exact Nat.le_refl _
      · exact Nat.le_of_lt (List.rel_of_pairwise_cons hincreasing hrest)
    · intro hstyle hseveral
      exact ⟨Catalogue.subjects_of_mem hrule hrun (Or.inr hseveral),
        Rule.message_of_collect hrun hstyle hseveral⟩
  · intro hname
    rcases Registry.eq_of_name_eq hrule Catalogue.mailtoLinksAreValid_mem hname with rfl
    rcases Rule.exists_of_run_eq_ok hrun with ⟨findings, hcheck, -, -, -, hviolations⟩
    rcases Except.ok.inj ((check_mailtoLinksAreValid s d).symm.trans hcheck) with rfl
    rw [RuleResult.places_eq hviolations]
    exact places_mailComplaints d

/-- One head inside another, and a link with two addresses that are refused. -/
theorem violations_follow_document_nested_heads :
    let d : Document := .ofNodes "" [
      .element "head" .empty [.element "head" .empty [.element "p" .empty []]],
      .element "a" (.ofList [("href", "mailto:x,y")]) [.text "Write"], .element "p" .empty []]
    ∃ charset empty mail : RuleResult,
      charsetIsFirst.run .packaged d = .ok charset ∧ charset.positions = [2, 3] ∧
      charset.places.Sublist d.places ∧
      (∃ header, charset.message =
        Text.join "\n" (header :: charset.violations.map fun v => "- " ++ v.message)) ∧
      noEmptyElements.run .packaged d = .ok empty ∧ empty.positions = [3, 5] ∧
      (∃ first ∈ empty.violations, empty.message = first.message ∧
        ∃ p, first.subject = some p ∧ ∀ q ∈ empty.places, p.position ≤ q.position) ∧
      mailtoLinksAreValid.run .packaged d = .ok mail ∧ mail.positions = [4, 4] ∧
      mail.places.Pairwise fun p q => p.position ≤ q.position := by
  intro d
  rcases violations_follow_document .packaged d with ⟨-, hrules⟩
  have hcharset : ((charsetIsFirst.run .packaged d).map RuleResult.positions).toOption =
      some [2, 3] := by decide +kernel
  have hempty : ((noEmptyElements.run .packaged d).map RuleResult.positions).toOption =
      some [3, 5] := by decide +kernel
  have hmail : ((mailtoLinksAreValid.run .packaged d).map RuleResult.positions).toOption =
      some [4, 4] := by decide +kernel
  rcases exists_of_toOption_map hcharset with ⟨charset, hcharsetRun, hcharset⟩
  rcases exists_of_toOption_map hempty with ⟨empty, hemptyRun, hempty⟩
  rcases exists_of_toOption_map hmail with ⟨mail, hmailRun, hmail⟩
  have hcharsetMem : charsetIsFirst ∈ Catalogue.registry.rules := by
    simp [Catalogue.mem_rules_registry_iff, Catalogue.errors]
  have hemptyMem : noEmptyElements ∈ Catalogue.registry.rules := by
    simp [Catalogue.mem_rules_registry_iff, Catalogue.warnings]
  rcases (hrules _ hcharsetMem charset hcharsetRun).1 (by decide) with ⟨hsublist, -, -, hlisted⟩
  rcases (hrules _ hemptyMem empty hemptyRun).1 (by decide) with ⟨-, -, hfirst, -⟩
  have hordered := (hrules _ Catalogue.mailtoLinksAreValid_mem mail hmailRun).2 rfl
  have hseveral : 2 ≤ charset.violations.length := by
    have hlength : charset.positions.length ≤ charset.violations.length :=
      List.length_filterMap_le _ _
    simpa [hcharset] using hlength
  refine ⟨charset, empty, mail, hcharsetRun, hcharset, hsublist, (hlisted rfl hseveral).2,
    hemptyRun, hempty, ?_, hmailRun, hmail, hordered.2⟩
  cases hviolations : empty.violations with
  | nil => simp [RuleResult.positions, hviolations] at hempty
  | cons first others => exact ⟨first, List.mem_cons_self, hfirst rfl first others hviolations⟩

end MarkupAudit
