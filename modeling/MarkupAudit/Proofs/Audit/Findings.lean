import MarkupAudit.Audit.Basic
import MarkupAudit.Proofs.Rule.Grounded
import MarkupAudit.Proofs.Rule.Registry

/-!
# What the results of the catalogue speak of

All that the rules of the catalogue find is grounded in the document, with one exception: that a
document has no title is said of no element. So every violation is told of an element of the
document, or it is the only one of the rule about titles, and nothing is told without words. A
result is then silent exactly if the rule is satisfied.

Main statement: `findings_are_well_formed`.
-/

namespace MarkupAudit

/-! ## Violations and their elements -/

/-- What the violation shows is taken from the element at the place. -/
structure Violation.ShowsPlace (v : Violation) (p : Place) : Prop where
  subject : v.subject = some p
  tagName : v.tagName = Text.upper p.element.tag
  identifier : v.identifier = Text.trim p.element.identifier

/-- The violation shows no element. -/
structure Violation.ShowsNothing (v : Violation) : Prop where
  subject : v.subject = none
  tagName : v.tagName = ""
  identifier : v.identifier = ""

namespace Violation

theorem showsPlace_ofFinding (rule : String) {f : Finding} {p : Place} (hp : f.subject = some p) :
    (ofFinding rule f).ShowsPlace p where
  subject := hp
  tagName := by simp [ofFinding, hp, Element.upperTag]
  identifier := by simp [ofFinding, hp]

theorem showsNothing_ofFinding (rule : String) {f : Finding} (hnone : f.subject = none) :
    (ofFinding rule f).ShowsNothing where
  subject := hnone
  tagName := by simp [ofFinding, hnone]
  identifier := by simp [ofFinding, hnone]

end Violation

/-! ## Wording -/

namespace Wording

theorem list_ne_ok_empty (header : Option String) (rule message : String) (others : List String) :
    list header rule (message :: others) ≠ .ok "" := by
  -- The header stands on a line of its own, so the break behind it is there even if it is empty.
  rw [list]
  split <;> simp [Text.join]

/-- What is told about findings that all say something says something. -/
theorem tell_ne_ok_empty (style : ReportStyle) (header : Option String) (rule : String)
    {messages : List String} (hsome : messages ≠ [])
    (hspeaks : ∀ message ∈ messages, message ≠ "") :
    tell style header rule messages ≠ .ok "" := by
  have hfirst {message : String} (hmem : message ∈ messages) :
      (.ok message : Except Fault String) ≠ .ok "" := by
    simpa using hspeaks message hmem
  match messages, style with
  | [], _ => exact absurd rfl hsome
  | [_], _ => exact hfirst List.mem_cons_self
  | _ :: _ :: _, .firstMatch => exact hfirst List.mem_cons_self
  | message :: other :: rest, .collect => exact list_ne_ok_empty header rule message (other :: rest)

end Wording

/-- The result of a rule that says something with each finding is silent exactly if the rule is
satisfied. -/
theorem Rule.message_eq_empty_iff {rule : Rule} {s : Settings} {d : Document} {result : RuleResult}
    (h : rule.run s d = .ok result) (hspeaks : ∀ v ∈ result.violations, v.message ≠ "") :
    result.message = "" ↔ result.passed = true := by
  refine ⟨?_, Rule.message_of_passed h⟩
  rcases Rule.exists_of_run_eq_ok h with ⟨findings, -, htold, -, -, hviolations⟩
  intro hsilent
  rw [hsilent] at htold
  by_cases hnone : findings = []
  · simp [RuleResult.passed, hviolations, hnone]
  · have hmessages : ∀ message ∈ findings.map Finding.message, message ≠ "" := by
      intro message hmessage
      rcases List.mem_map.1 hmessage with ⟨f, hf, rfl⟩
      exact hspeaks (Violation.ofFinding rule.name f) (hviolations ▸ List.mem_map_of_mem hf)
    exact absurd htold (Wording.tell_ne_ok_empty _ _ _ (by simpa using hnone) hmessages)

/-! ## The catalogue -/

namespace Catalogue

open Rules Rule

theorem grounded_advice : ∀ rule ∈ advice.rules, rule.Grounded := by
  simp only [advice, List.forall_mem_cons, List.not_mem_nil, false_imp_iff, implies_true, and_true]
  and_intros
  -- In the order of the catalogue. A sentence is not empty because it begins with a fixed part.
  · refine .listing (.onTags fun p => ?_)
    split
    · split
      · split <;> simp
      · simp
    · simp
  · refine .listing (.onEvery fun p => ?_)
    split <;> simp
  · refine .listing (.onEvery fun p => ?_)
    split <;> simp
  · exact grounded_onlyOneVisibleMain
  · exact grounded_onlyOneFigcaption
  · exact grounded_figcaptionIsFirstOrLastChild
  · exact grounded_mailtoLinksAreValid
  · exact grounded_numberLinks _ _ _
  · exact grounded_numberLinks _ _ _
  · exact grounded_numberLinks _ _ _
  · exact .listing (.onTags fun p => by simp)
  · exact grounded_uniqueLandmarkRoles
  · exact grounded_noPlaceholderAsLabel
  · refine .listing (.onTags fun p => ?_)
    split <;> simp
  · exact .listing (.onEvery fun p => by simp)

theorem grounded_errors :
    ∀ rule ∈ errors.rules, rule = titleNotEmpty ∨ rule.Grounded := by
  simp only [errors, List.forall_mem_cons, List.not_mem_nil, false_imp_iff, implies_true, and_true]
  and_intros
  -- In the order of the catalogue, where the rule about titles comes among the others.
  · exact Or.inr (.listing (.onEvery fun p => by simp))
  · exact Or.inr grounded_tabindexNotPositive
  · refine Or.inr (.listing (.onTags fun p => ?_))
    split <;> simp
  · exact Or.inr (.listing (.onTags fun p => by simp))
  · exact Or.inr (.listing (.onTags fun p => by simp))
  · exact Or.inr (.listing (.onEvery fun p => by simp))
  · exact Or.inr (.listing (.onTags fun p => by simp))
  · refine Or.inr (.listing (.onTags fun p => ?_))
    split <;> simp
  · exact Or.inr grounded_formFieldsHaveLabel
  · exact Or.inr (.listing (.onTags fun p => by simp))
  · exact Or.inr (.listing (.onTags fun p => by simp))
  · exact Or.inr (.listing (.onTags fun p => by simp))
  · exact Or.inr (.listing (.onTags fun p => by simp))
  · refine Or.inr (.listing (.onTags fun p => ?_))
    split
    · split <;> simp
    · simp
  · exact Or.inr (.listing (.onTags fun p => by simp))
  · exact Or.inr (.listing (.onTags fun p => by simp))
  · exact Or.inr (.listing (.onTags fun p => by simp))
  · exact Or.inr (.listing (.onTags fun p => by simp))
  · exact Or.inr (.listing (.onTags fun p => by simp))
  · refine Or.inr (.listing (.onTags fun p => ?_))
    rw [languageIssue?.eq_def]
    split
    · simp
    · split
      · simp
      · simp
  · exact Or.inr grounded_presentationTablesHaveNoSemantics
  · exact Or.inr (.listing (.onEvery fun p => by simp))
  · refine Or.inr (.listing (.onEvery fun p => ?_))
    split <;> simp
  · refine Or.inr (.listing (.onEvery fun p => ?_))
    split <;> simp
  · exact Or.inl trivial
  · exact Or.inr grounded_viewportAllowsZoom
  · refine Or.inr (.listing (.onTags fun p => ?_))
    split <;> simp
  · exact Or.inr grounded_charsetIsFirst
  · refine Or.inr (.listing (.onEvery fun p => ?_))
    split <;> simp
  · exact Or.inr (.listing (.onEvery fun p => by simp))
  · exact Or.inr grounded_radioCheckboxInputsHaveName
  · exact Or.inr grounded_radiosInsideFieldset
  · exact Or.inr (grounded_roleRequires _ _ _ _)
  · exact Or.inr (grounded_roleRequires _ _ _ _)
  · exact Or.inr (grounded_roleRequires _ _ _ _)
  · exact Or.inr (grounded_roleRequires _ _ _ _)
  · exact Or.inr (grounded_roleRequires _ _ _ _)
  · exact Or.inr grounded_noNestedInteractiveElements

theorem grounded_obsoletes : ∀ rule ∈ obsoletes.rules, rule.Grounded := by
  simp only [obsoletes, List.forall_mem_cons, List.not_mem_nil, false_imp_iff, implies_true,
    and_true]
  and_intros
  · exact .listing (.onEvery fun p => by simp)
  · refine .listing (.onEvery fun p => ?_)
    split <;> simp

theorem grounded_warnings : ∀ rule ∈ warnings.rules, rule.Grounded := by
  simp only [warnings, List.forall_mem_cons, List.not_mem_nil, false_imp_iff, implies_true,
    and_true]
  and_intros
  · exact grounded_listItemsHaveValidParent
  · exact grounded_definitionListStructureIsValid
  · exact grounded_definitionListItemsHaveValidParent
  · exact .listing (.onTags fun p => by simp)
  · exact grounded_noInvalidNesting
  · exact .listing (.onTags fun p => by simp)
  · refine .listing (.onEvery fun p => ?_)
    split <;> simp
  · exact .listing (grounded_firstChildFindings _ _)
  · exact .listing (grounded_firstChildFindings _ _)
  · exact .listing (.onTags fun p => by simp)
  · refine .listing (.onEvery fun p => ?_)
    split <;> simp
  · refine .listing (.onEvery fun p => ?_)
    split <;> simp
  · exact .telling (.onTags fun p => by simp)
  · exact .telling (.onTags fun p => by simp)
  · exact .telling (.onTags fun p => by simp)
  · exact .telling (.onTags fun p => by simp)
  · exact grounded_noEmptyElements
  · exact .telling (.onTags fun p => by simp)
  · exact grounded_tablesHaveCaption
  · exact grounded_tableStructureIsOrdered
  · exact grounded_tablesHaveThead
  · exact .telling (.onTags fun p => by simp)
  · exact .telling (.onTags fun p => by simp)
  · exact .telling (.onEvery fun p => by simp)
  · exact grounded_labelsHaveControl
  · exact grounded_dirMatchesLang

theorem eq_or_grounded_of_mem {rule : Rule} (hrule : rule ∈ registry.rules) :
    rule = titleNotEmpty ∨ rule.Grounded := by
  rcases mem_rules_registry_iff.1 hrule with hadvice | herrors | hobsoletes | hwarnings
  · exact Or.inr (grounded_advice rule hadvice)
  · exact grounded_errors rule herrors
  · exact Or.inr (grounded_obsoletes rule hobsoletes)
  · exact Or.inr (grounded_warnings rule hwarnings)

theorem titleNotEmpty_mem : titleNotEmpty ∈ registry.rules := by
  simp [mem_rules_registry_iff, errors]

theorem eq_titleNotEmpty {rule : Rule} (hrule : rule ∈ registry.rules)
    (hname : rule.name = "title_not_empty") : rule = titleNotEmpty :=
  Registry.eq_of_name_eq hrule titleNotEmpty_mem hname

/-- What a rule finds is grounded in the document, or the rule is the one about titles and says that
there is none. -/
theorem grounded_or_untitled {rule : Rule} (hrule : rule ∈ registry.rules) {s : Settings}
    {d : Document} {findings : List Finding} (hcheck : rule.check s d = .ok findings) :
    ((rule.name = "title_not_empty" → ∃ p ∈ d.places, p.element.tag = "title") ∧
        ∀ f ∈ findings, f.Grounded d) ∨
      rule.name = "title_not_empty" ∧ (∀ p ∈ d.places, p.element.tag ≠ "title") ∧
        ∃ f, findings = [f] ∧ f.message ≠ "" ∧ f.subject = none := by
  by_cases hname : rule.name = "title_not_empty"
  · rcases eq_titleNotEmpty hrule hname with rfl
    rcases findings_titleNotEmpty hcheck with ⟨htitled, hgrounded⟩ | huntitled
    · exact Or.inl ⟨fun _ => htitled, hgrounded⟩
    · exact Or.inr ⟨hname, huntitled⟩
  · rcases eq_or_grounded_of_mem hrule with rfl | hgrounded
    · exact absurd rfl hname
    · exact Or.inl ⟨fun heq => absurd heq hname, hgrounded s d findings hcheck⟩

end Catalogue

/-- The violations of a rule of the catalogue are well formed. Each says something, and says it of
an element of the document, whose tag and identifier it shows; the document itself is not among
them. The only other violation is that of the rule about titles in a document without a title, which
is told of no element, and there it is the only one. So a result is silent exactly if the rule is
satisfied. -/
theorem findings_are_well_formed (s : Settings) (d : Document) :
    Catalogue.registry.rules.length = 81 ∧
      ∀ rule ∈ Catalogue.registry.rules, ∀ result, rule.run s d = .ok result →
        (∀ v ∈ result.violations, v.message ≠ "" ∧
          ((∃ p ∈ d.places, p.same d.rootPlace = false ∧ v.ShowsPlace p) ∨
            v.ShowsNothing ∧ rule.name = "title_not_empty" ∧
              (∀ p ∈ d.places, p.element.tag ≠ "title") ∧ result.violations = [v])) ∧
        (rule.name = "title_not_empty" → (∀ p ∈ d.places, p.element.tag ≠ "title") →
          ∃ v, result.violations = [v] ∧ v.ShowsNothing) ∧
        (result.message = "" ↔ result.passed = true) := by
  refine ⟨Catalogue.length_rules_registry, ?_⟩
  intro rule hrule result hrun
  rcases Rule.exists_of_run_eq_ok hrun with ⟨findings, hcheck, -, -, -, hviolations⟩
  rcases Catalogue.grounded_or_untitled hrule hcheck with
    ⟨htitled, hgrounded⟩ | ⟨hname, huntitled, f, rfl, hmessage, hsubject⟩
  · have hshown : ∀ v ∈ result.violations, v.message ≠ "" ∧
        ∃ p ∈ d.places, p.same d.rootPlace = false ∧ v.ShowsPlace p := by
      intro v hv
      rcases List.mem_map.1 (hviolations ▸ hv) with ⟨f, hf, rfl⟩
      rcases (hgrounded f hf).exists_subject with ⟨p, hp, hsubject⟩
      exact ⟨(hgrounded f hf).message_ne, p, hp, Document.not_same_rootPlace hp,
        Violation.showsPlace_ofFinding rule.name hsubject⟩
    refine ⟨?_, ?_, Rule.message_eq_empty_iff hrun fun v hv => (hshown v hv).1⟩
    · intro v hv
      exact ⟨(hshown v hv).1, Or.inl (hshown v hv).2⟩
    · intro hname huntitled
      rcases htitled hname with ⟨p, hp, htag⟩
      exact absurd htag (huntitled p hp)
  · have hone : result.violations = [Violation.ofFinding rule.name f] := by
      simpa using hviolations
    have hnothing : (Violation.ofFinding rule.name f).ShowsNothing :=
      Violation.showsNothing_ofFinding rule.name hsubject
    have hall : ∀ v ∈ result.violations, v = Violation.ofFinding rule.name f := by
      simp [hone]
    refine ⟨?_, fun _ _ => ⟨_, hone, hnothing⟩, Rule.message_eq_empty_iff hrun ?_⟩
    · intro v hv
      rcases hall v hv with rfl
      exact ⟨hmessage, Or.inr ⟨hnothing, hname, huntitled, hone⟩⟩
    · intro v hv
      rcases hall v hv with rfl
      exact hmessage

/-- A list of a term without its definition has no title, and what stands in place of the definition
is what the rule about such lists speaks of. -/
theorem findings_are_well_formed_untitled :
    let list : Node :=
      .element "dl" .empty [.element "dt" .empty [.text "go"], .element "p" .empty []]
    let d : Document := .ofNodes "" [list]
    ∃ untitled misplaced, Rules.titleNotEmpty.run .packaged d = .ok untitled ∧
      (∃ v, untitled.violations = [v] ∧ v.ShowsNothing) ∧ untitled.message ≠ "" ∧
      Rules.definitionListStructureIsValid.run .packaged d = .ok misplaced ∧
      ∃ v ∈ misplaced.violations, v.tagName = "P" ∧ ∃ p ∈ d.places, v.ShowsPlace p := by
  intro list d
  rcases findings_are_well_formed .packaged d with ⟨-, hrules⟩
  have huntitled : ∀ p ∈ d.places, p.element.tag ≠ "title" := by decide +kernel
  have hsilent : ((Rules.titleNotEmpty.run .packaged d).map RuleResult.passed).toOption =
      some false := by
    decide +kernel
  have hmember : Rules.definitionListStructureIsValid ∈ Catalogue.registry.rules := by
    simp [Catalogue.mem_rules_registry_iff, Catalogue.warnings]
  have hshown : ((Rules.definitionListStructureIsValid.run .packaged d).map
      fun result => result.violations.map (·.tagName)).toOption = some ["P", "P"] := by
    decide +kernel
  cases hrun : Rules.titleNotEmpty.run .packaged d with
  | error fault => simp [hrun, Except.map, Except.toOption] at hsilent
  | ok untitled =>
    cases hrun' : Rules.definitionListStructureIsValid.run .packaged d with
    | error fault => simp [hrun', Except.map, Except.toOption] at hshown
    | ok misplaced =>
      rcases hrules _ Catalogue.titleNotEmpty_mem untitled hrun with ⟨-, hwithout, hmessage⟩
      rcases hrules _ hmember misplaced hrun' with ⟨hviolations, -, -⟩
      have hfailed : untitled.passed = false := by
        simpa [hrun, Except.map, Except.toOption] using hsilent
      have htags : misplaced.violations.map (·.tagName) = ["P", "P"] := by
        simpa [hrun', Except.map, Except.toOption] using hshown
      have hmem : "P" ∈ misplaced.violations.map (·.tagName) := by simp [htags]
      rcases List.mem_map.1 hmem with ⟨v, hv, htag⟩
      refine ⟨untitled, misplaced, rfl, hwithout rfl huntitled, by simp [hmessage, hfailed], rfl, v,
        hv, htag, ?_⟩
      rcases (hviolations v hv).2 with ⟨p, hp, -, hplace⟩ | ⟨-, hname, -⟩
      · exact ⟨p, hp, hplace⟩
      · exact absurd hname (by decide)

end MarkupAudit
