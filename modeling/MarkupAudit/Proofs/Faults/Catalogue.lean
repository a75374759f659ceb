import MarkupAudit.Proofs.Faults.Checks
import MarkupAudit.Proofs.Faults.TabIndex
import MarkupAudit.Proofs.Faults.Wording
import MarkupAudit.Proofs.Rule.Registry

/-!
# What can keep the catalogue from judging a document

Under the packaged settings nothing that a document holds keeps a rule of the catalogue from giving
a result, except for a tab index that cannot be read: the rule about tab indices refuses it, and so
does every scan that runs this rule.

Main statement: `catalogue_refuses_only_tab_indices`.
-/

namespace MarkupAudit

namespace Catalogue

open Rules Rule

/-! ## Headers -/

theorem hasPlainHeader_of_mem {rule : Rule} (hrule : rule ∈ registry.rules) :
    rule.HasPlainHeader := by
  revert rule
  rw [rules_registry]
  simp only [List.flatMap_cons, List.flatMap_nil, advice, errors, obsoletes, warnings,
    List.cons_append, List.nil_append, List.forall_mem_cons, List.not_mem_nil, false_imp_iff,
    implies_true, and_true]
  and_intros
  -- A rule gives no header, or one that is written as a whole or in two parts.
  all_goals
    first
    | exact hasPlainHeader_of_none rfl
    | exact hasPlainHeader_of_ofList rfl (by decide +kernel)
    | exact hasPlainHeader_of_append rfl (by decide +kernel)

/-! ## Checks -/

theorem eq_or_succeeds_check {rule : Rule} (hrule : rule ∈ registry.rules) (d : Document) :
    rule = tabindexNotPositive ∨ Succeeds (rule.check .packaged d) := by
  revert rule
  rw [rules_registry]
  simp only [List.flatMap_cons, List.flatMap_nil, advice, errors, obsoletes, warnings,
    List.cons_append, List.nil_append, List.forall_mem_cons, List.not_mem_nil, false_imp_iff,
    implies_true, and_true]
  and_intros
  all_goals try exact Or.inr ⟨_, rfl⟩
  -- What is left has steps that could fail, and each check has its own reason why they do not.
  · exact Or.inr (succeeds_onlyOneFigcaption _)
  · exact Or.inr (succeeds_figcaptionIsFirstOrLastChild _)
  · exact Or.inr (succeeds_mailtoLinksAreValid _)
  · exact Or.inr (succeeds_numberLinks _ _ _)
  · exact Or.inr (succeeds_numberLinks _ _ _)
  · exact Or.inr (succeeds_numberLinks _ _ _)
  · exact Or.inl trivial
  · exact Or.inr succeeds_viewportAllowsZoom
  · exact Or.inr (succeeds_noNestedInteractiveElements _)
  · exact Or.inr (succeeds_definitionListStructureIsValid _)
  · exact Or.inr (succeeds_definitionListItemsHaveValidParent _)
  · exact Or.inr succeeds_dirMatchesLang

/-! ## Runs of the rules -/

theorem tabindexNotPositive_mem : tabindexNotPositive ∈ registry.rules := by
  rw [rules_registry]
  exact List.mem_flatMap.2 ⟨errors, by simp, List.mem_cons_of_mem _ List.mem_cons_self⟩

theorem eq_tabindexNotPositive {rule : Rule} (hrule : rule ∈ registry.rules)
    (hname : rule.name = "tabindex_not_positive") : rule = tabindexNotPositive :=
  Registry.eq_of_name_eq hrule tabindexNotPositive_mem hname

theorem refusesIf_run {rule : Rule} (hrule : rule ∈ registry.rules) (d : Document) :
    RefusesIf (rule.name = "tabindex_not_positive" ∧ d.HasUnreadableTabIndex)
      (rule.run .packaged d) := by
  refine Rule.refusesIf_run (hasPlainHeader_of_mem hrule) ?_
  by_cases hname : rule.name = "tabindex_not_positive"
  · rcases eq_tabindexNotPositive hrule hname with rfl
    exact (refusesIf_tabindexNotPositive _ d).congr (by simp [hname])
  · rcases eq_or_succeeds_check hrule d with rfl | hsucceeds
    · exact absurd rfl hname
    · exact hsucceeds.refusesIf fun hcondition => hname hcondition.1

theorem refusesIf_runAll (categories : List Category) (d : Document) :
    RefusesIf (.errors ∈ categories ∧ d.HasUnreadableTabIndex)
      (Audit.runAll .packaged d (registry.ofCategories categories)) := by
  have hrun := RefusesIf.mapM fun rule hrule =>
    refusesIf_run (@Registry.mem_ofCategories registry rule categories |>.1 hrule).1 d
  refine hrun.congr ⟨?_, ?_⟩
  · rintro ⟨rule, hrule, hname, hunreadable⟩
    rcases Registry.mem_ofCategories.1 hrule with ⟨hmem, hcategory⟩
    rcases eq_tabindexNotPositive hmem hname with rfl
    exact ⟨hcategory, hunreadable⟩
  · rintro ⟨herrors, hunreadable⟩
    exact ⟨tabindexNotPositive, Registry.mem_ofCategories.2 ⟨tabindexNotPositive_mem, herrors⟩, rfl,
      hunreadable⟩

end Catalogue

/-- Each of the 81 rules of the catalogue gives a result for every document, except that the rule
about tab indices refuses those that have one that cannot be read. So a scan is refused if the
errors are among its categories and there is such a tab index, and every other scan gives a
report. -/
theorem catalogue_refuses_only_tab_indices (d : Document) :
    Catalogue.registry.rules.length = 81 ∧
      (∀ rule ∈ Catalogue.registry.rules,
        RefusesIf (rule.name = "tabindex_not_positive" ∧ d.HasUnreadableTabIndex)
          (Audit.check Catalogue.registry .packaged rule.name (.document d))) ∧
      ∀ choices categories, Choice.select choices = .ok categories →
        RefusesIf (.errors ∈ categories ∧ d.HasUnreadableTabIndex)
          (Audit.scan Catalogue.registry .packaged (.document d) (.ok choices)) := by
  refine ⟨Catalogue.length_rules_registry, ?_, ?_⟩
  · intro rule hrule
    have hget : Catalogue.registry.get rule.name = .ok rule := by
      rw [Registry.get, Registry.find?_of_mem hrule]
    rw [Audit.check, hget]
    exact Catalogue.refusesIf_run hrule d
  · intro choices categories hselect
    have hscan : Audit.scan Catalogue.registry .packaged (.document d) (.ok choices) =
        Audit.scanDocument Catalogue.registry .packaged d categories := by
      simp only [Audit.scan, Audit.Input.read, bind, Except.bind, hselect]
    rw [hscan]
    exact (Catalogue.refusesIf_runAll categories d).bind fun _ => succeeds_ok _

/-- A tab index with a raised two looks like a number, and no other rule cares. -/
theorem catalogue_refuses_raised_digit :
    let link : Node := .element "a" (.ofList [("tabindex", " +²")]) [.text "next"]
    let d : Document := .ofNodes "" [link]
    d.HasUnreadableTabIndex ∧
      (∃ fault, Audit.check Catalogue.registry .packaged "tabindex_not_positive" (.document d) =
        .error fault) ∧
      (∃ result, Audit.check Catalogue.registry .packaged "no_accesskey" (.document d) =
        .ok result) ∧
      (∃ fault, Audit.scan Catalogue.registry .packaged (.document d)
        (.ok [.exact .advice, .exact .errors]) = .error fault) ∧
      ∃ report, Audit.scan Catalogue.registry .packaged (.document d) (.ok [.exact .advice]) =
        .ok report := by
  intro link d
  have hdigits : (Rules.tabIndexDigits " +²").toList = ['²'] := by decide +kernel
  have hvalue : Rules.IsUnreadableTabIndex " +²" := by
    simp only [Rules.IsUnreadableTabIndex, hdigits]
    exact ⟨by decide, List.forall_mem_singleton.2 (by decide),
      Or.inl ⟨'²', List.mem_singleton_self _, by decide⟩⟩
  have hunreadable : d.HasUnreadableTabIndex :=
    ⟨_, List.mem_cons_self, " +²", by decide, hvalue⟩
  rcases catalogue_refuses_only_tab_indices d with ⟨-, hcheck, hscan⟩
  have haccesskey : Rules.noAccesskey ∈ Catalogue.registry.rules := by
    rw [Catalogue.rules_registry]
    refine List.mem_flatMap.2 ⟨Catalogue.errors, by simp, ?_⟩
    simp [Catalogue.errors]
  have hboth : Choice.select [.exact .advice, .exact .errors] = .ok [.advice, .errors] := rfl
  have hadvice : Choice.select [.exact .advice] = .ok [.advice] := rfl
  refine ⟨hunreadable, ?_, ?_, ?_, ?_⟩
  · rcases (hcheck _ Catalogue.tabindexNotPositive_mem).refuses ⟨rfl, hunreadable⟩ with
      ⟨cause, hrefused, -⟩
    exact ⟨.number cause, hrefused⟩
  · exact (hcheck _ haccesskey).succeeds fun hcondition => absurd hcondition.1 (by decide)
  · rcases (hscan _ _ hboth).refuses ⟨by decide, hunreadable⟩ with ⟨cause, hrefused, -⟩
    exact ⟨.number cause, hrefused⟩
  · exact (hscan _ _ hadvice).succeeds fun hcondition => absurd hcondition.1 (by decide)

end MarkupAudit
