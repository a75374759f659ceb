import MarkupAudit.Audit.Basic
import MarkupAudit.Proofs.Build.Joined
import MarkupAudit.Proofs.Rule.Joined
import MarkupAudit.Proofs.Rule.Registry

/-!
# Audits and the chunking of texts

Every rule of the catalogue respects joining, so a run gives for the joined document what it gives
for the document, and so does a scan. Documents that are joined to one document are therefore shown
in one report: this holds of trees that differ in the chunking of their texts, and of documents that
are built from forests that differ in comments and the like besides.

Main statement: `chunking_never_influences_findings`.
-/

namespace MarkupAudit

/-! ## Results of the joined document -/

def Violation.joined (v : Violation) : Violation :=
  { v with subject := v.subject.map Place.joined }

def RuleResult.joined (result : RuleResult) : RuleResult :=
  { result with violations := result.violations.map Violation.joined }

def ScanReport.joined (report : ScanReport) : ScanReport :=
  { report with results := report.results.map RuleResult.joined }

/-- What a result shows: all but the elements it is about, and the positions of these. -/
def RuleResult.shown (result : RuleResult) : RuleResult × List (Option Nat) :=
  (result.detached, result.violations.map fun v => v.subject.map Place.position)

/-- What a report shows: all but the elements it is about, and the positions of these. -/
def ScanReport.shown (report : ScanReport) : ScanReport × List (Option Nat) :=
  (report.detached, report.violations.map fun v => v.subject.map Place.position)

theorem Violation.position_joined (v : Violation) :
    v.joined.subject.map Place.position = v.subject.map Place.position := by
  rcases v with ⟨rule, message, subject, tagName, identifier⟩
  cases subject <;> rfl

theorem RuleResult.detached_joined (result : RuleResult) :
    result.joined.detached = result.detached := by
  simp [joined, detached, Violation.joined, Violation.detached, Function.comp_def]

theorem RuleResult.shown_joined (result : RuleResult) : result.joined.shown = result.shown := by
  have hpositions : result.joined.violations.map (fun v => v.subject.map Place.position) =
      result.violations.map fun v => v.subject.map Place.position := by
    simp [joined, Function.comp_def, Violation.position_joined]
  rw [shown, detached_joined, hpositions, shown]

theorem ScanReport.shown_joined (report : ScanReport) : report.joined.shown = report.shown := by
  have hdetached : report.joined.detached = report.detached := by
    simp [joined, detached, Keyed.map, RuleResult.detached_joined, Function.comp_def]
  have hpositions : report.joined.violations.map (fun v => v.subject.map Place.position) =
      report.violations.map fun v => v.subject.map Place.position := by
    simp [joined, violations, Keyed.values, Keyed.map, RuleResult.joined, List.map_flatMap,
      List.flatMap_map, Function.comp_def, Violation.position_joined]
  rw [shown, hdetached, hpositions, shown]

/-! ## Runs -/

theorem Violation.ofFinding_joined (rule : String) (finding : Finding) :
    ofFinding rule finding.joined = (ofFinding rule finding).joined := by
  rcases finding with ⟨subject, message⟩
  cases subject <;> rfl

theorem Rule.run_joined {rule : Rule} (h : rule.RespectsJoining) (s : Settings) (d : Document) :
    rule.run s d.joined = (rule.run s d).map RuleResult.joined := by
  rw [run, run, h s d]
  cases rule.check s d with
  | error fault => rfl
  | ok findings =>
    have hviolations : (findings.map Finding.joined).map (Violation.ofFinding rule.name) =
        (findings.map (Violation.ofFinding rule.name)).map Violation.joined := by
      simp [Violation.ofFinding_joined, Function.comp_def]
    have hmessages : ((findings.map (Violation.ofFinding rule.name)).map Violation.joined).map
        (fun v => v.message) = (findings.map (Violation.ofFinding rule.name)).map fun v =>
          v.message := by
      simp [Violation.joined, Function.comp_def]
    simp only [Except.map, bind, Except.bind, pure, Except.pure, hviolations, hmessages]
    cases Wording.tell rule.style rule.summary rule.name
      ((findings.map (Violation.ofFinding rule.name)).map fun v => v.message) <;> rfl

namespace Audit

theorem report_joined (source : String) (categories : List Category) (results : List RuleResult) :
    report source categories (results.map RuleResult.joined) =
      (report source categories results).joined := by
  have hentries : ((results.map RuleResult.joined).filter fun r => !r.passed).map
      (fun r => (r.rule, r)) =
        ((results.filter fun r => !r.passed).map fun r => (r.rule, r)).map fun entry =>
          (entry.1, entry.2.joined) := by
    simp [List.filter_map, RuleResult.passed, RuleResult.joined, Function.comp_def]
  simp only [report, hentries, Keyed.ofList_map, List.length_map]
  rfl

/-- A scan gives for the joined document what it gives for the document. -/
theorem scan_joined {registry : Registry} (h : ∀ rule ∈ registry.rules, rule.RespectsJoining)
    (s : Settings) (d : Document) (choices : Except Fault (List Choice)) :
    scan registry s (.document d.joined) choices =
      (scan registry s (.document d) choices).map ScanReport.joined := by
  have hrun : ∀ categories, runAll s d.joined (registry.ofCategories categories) =
      (runAll s d (registry.ofCategories categories)).map (List.map RuleResult.joined) := by
    intro categories
    refine mapM_eq_map ?_
    intro rule hrule
    exact Rule.run_joined (h rule (Registry.mem_ofCategories.1 hrule).1) s d
  simp only [scan, Input.read, scanDocument, hrun, bind, Except.bind, pure, Except.pure]
  cases choices with
  | error fault => rfl
  | ok wanted =>
    cases hselect : Choice.select wanted with
    | error fault => simp [hselect, Except.map]
    | ok categories =>
      simp only [hselect]
      cases runAll s d (registry.ofCategories categories) with
      | error fault => rfl
      | ok results => exact congrArg Except.ok (report_joined d.source categories results)

end Audit

/-! ## The catalogue -/

namespace Catalogue

open Rules Rule

theorem respectsJoining_advice : ∀ rule ∈ advice.rules, rule.RespectsJoining := by
  simp only [advice, List.forall_mem_cons, List.not_mem_nil, false_imp_iff, implies_true, and_true]
  and_intros
  -- In the order of the catalogue. Tags and attributes are the same after joining by definition;
  -- what is read off the content has to be rewritten first.
  · exact respectsJoining_requiredSelectHasEmptyFirstOption
  · exact .listing (.onEvery fun _ => rfl)
  · exact .listing (.onEvery fun _ => rfl)
  · exact respectsJoining_onlyOneVisibleMain
  · exact respectsJoining_onlyOneFigcaption
  · exact respectsJoining_figcaptionIsFirstOrLastChild
  · exact respectsJoining_mailtoLinksAreValid
  · exact respectsJoining_numberLinks _ _ _
  · exact respectsJoining_numberLinks _ _ _
  · exact respectsJoining_numberLinks _ _ _
  · exact .listing (.onTags fun _ => rfl)
  · exact respectsJoining_uniqueLandmarkRoles
  · exact respectsJoining_noPlaceholderAsLabel
  · exact .listing (.onTags fun _ => rfl)
  · exact .listing (.onEvery fun _ => rfl)

theorem respectsJoining_errors : ∀ rule ∈ errors.rules, rule.RespectsJoining := by
  simp only [errors, List.forall_mem_cons, List.not_mem_nil, false_imp_iff, implies_true, and_true]
  and_intros
  · exact .listing (.onEvery fun _ => rfl)
  · exact respectsJoining_tabindexNotPositive
  · refine .listing (.onTags fun p => ?_)
    simp only [Place.element_joined, Element.textOrDots_joined]
    rfl
  · refine .listing (.onTags fun p => ?_)
    simp only [Place.element_joined, Element.isEmpty_joined]
    rfl
  · exact .listing (.onTags fun _ => rfl)
  · exact .listing (.onEvery fun _ => rfl)
  · exact .listing (.onTags fun _ => rfl)
  · refine .listing (.onTags fun p => ?_)
    simp only [Place.element_joined, Element.textOrDots_joined]
    rfl
  · exact respectsJoining_formFieldsHaveLabel
  · exact .listing (.onTags fun _ => rfl)
  · refine .listing (.onTags fun p => ?_)
    simp only [Place.element_joined, Element.isEmpty_joined]
    rfl
  · refine .listing (.onTags fun p => ?_)
    simp only [Place.element_joined, Element.textOrDots_joined]
    rfl
  · refine .listing (.onTags fun p => ?_)
    simp only [Place.element_joined, Element.textOrDots_joined]
    rfl
  · refine .listing (.onTags fun p => ?_)
    simp only [Place.element_joined, Element.snippet_joined]
    rfl
  · refine .listing (.onTags fun p => ?_)
    simp only [Place.element_joined, Element.snippet_joined]
    rfl
  · refine .listing (.onTags fun p => ?_)
    simp only [Place.element_joined, Element.snippet_joined]
    rfl
  · refine .listing (.onTags fun p => ?_)
    simp only [Place.element_joined, Element.snippet_joined]
    rfl
  · refine .listing (.onTags fun p => ?_)
    simp only [Place.element_joined, Element.snippet_joined]
    rfl
  · refine .listing (.onTags fun p => ?_)
    simp only [Place.element_joined, Element.snippet_joined]
    rfl
  · exact .listing (.onTags fun _ => rfl)
  · exact respectsJoining_presentationTablesHaveNoSemantics
  · exact respectsJoining_widthHeightOnAllowedElements
  · refine .listing (.onEvery fun p => ?_)
    simp only [Place.element_joined, Element.snippet_joined]
    rfl
  · refine .listing (.onEvery fun p => ?_)
    simp only [Place.element_joined, Element.snippet_joined]
    rfl
  · exact respectsJoining_titleNotEmpty
  · exact respectsJoining_viewportAllowsZoom
  · refine .listing (.onTags fun p => ?_)
    simp only [Place.element_joined, Element.snippet_joined]
    rfl
  · exact respectsJoining_charsetIsFirst
  · exact .listing (.onEvery fun _ => rfl)
  · exact .listing (.onEvery fun _ => rfl)
  · exact respectsJoining_radioCheckboxInputsHaveName
  · exact respectsJoining_radiosInsideFieldset
  · exact .listing (.onEvery fun _ => rfl)
  · exact .listing (.onEvery fun _ => rfl)
  · exact .listing (.onEvery fun _ => rfl)
  · exact .listing (.onEvery fun _ => rfl)
  · exact .listing (.onEvery fun _ => rfl)
  · exact respectsJoining_noNestedInteractiveElements

theorem respectsJoining_obsoletes : ∀ rule ∈ obsoletes.rules, rule.RespectsJoining := by
  simp only [obsoletes, List.forall_mem_cons, List.not_mem_nil, false_imp_iff, implies_true,
    and_true]
  and_intros
  · exact .listing (.onEvery fun _ => rfl)
  · exact .listing (.onEvery fun _ => rfl)

theorem respectsJoining_warnings : ∀ rule ∈ warnings.rules, rule.RespectsJoining := by
  simp only [warnings, List.forall_mem_cons, List.not_mem_nil, false_imp_iff, implies_true,
    and_true]
  and_intros
  · exact respectsJoining_listItemsHaveValidParent
  · exact respectsJoining_definitionListStructureIsValid
  · exact respectsJoining_definitionListItemsHaveValidParent
  · refine .listing (.onTags fun p => ?_)
    simp only [Place.parentName_joined]
    rfl
  · exact respectsJoining_noInvalidNesting
  · exact respectsJoining_noDivInsideInline
  · exact respectsJoining_noSectioningWrappers
  · exact .listing (respectsJoining_firstChildFindings _ _)
  · exact .listing (respectsJoining_firstChildFindings _ _)
  · refine .listing (.onTags fun p => ?_)
    simp only [Place.element_joined, Element.textContent_joined]
    rfl
  · exact .listing (.onEvery fun _ => rfl)
  · exact .listing (.onEvery fun _ => rfl)
  · exact .telling (.onTags fun _ => rfl)
  · exact .telling (.onTags fun _ => rfl)
  · exact .telling (.onTags fun _ => rfl)
  · exact .telling (.onTags fun _ => rfl)
  · exact respectsJoining_noEmptyElements
  · refine .telling (.onTags fun p => ?_)
    simp only [Place.isInside_joined]
    rfl
  · exact respectsJoining_tablesHaveCaption
  · exact respectsJoining_tableStructureIsOrdered
  · exact respectsJoining_tablesHaveThead
  · exact .telling (.onTags fun _ => rfl)
  · exact .telling (.onTags fun _ => rfl)
  · exact .telling (.onEvery fun _ => rfl)
  · exact .telling (.flatMap (fun d => d.placesOf_joined _) labelFindings_joined)
  · exact respectsJoining_dirMatchesLang

theorem respectsJoining_of_mem {rule : Rule} (hrule : rule ∈ registry.rules) :
    rule.RespectsJoining := by
  rcases mem_rules_registry_iff.1 hrule with hadvice | herrors | hobsoletes | hwarnings
  · exact respectsJoining_advice rule hadvice
  · exact respectsJoining_errors rule herrors
  · exact respectsJoining_obsoletes rule hobsoletes
  · exact respectsJoining_warnings rule hwarnings

end Catalogue

/-- Comments and the like and the chunking of texts never influence what is found. Forests that
differ in no more give documents whose scans show the same report or fail with the same fault, and
on any tree that differs from a document in the chunking of its texts each rule of the catalogue
shows what it shows on the document. -/
theorem chunking_never_influences_findings (s : Settings) :
    (∀ a b : List Markup.RawNode, Markup.RawNode.Alike a b → ∀ source noticed noticed' choices,
      (Audit.scan Catalogue.registry s (.document (.ofForest source noticed a)) choices).map
          ScanReport.shown =
        (Audit.scan Catalogue.registry s (.document (.ofForest source noticed' b)) choices).map
          ScanReport.shown) ∧
      ∀ (d : Document) (nodes : List Node), Node.Rechunked d.nodes nodes →
        ∀ rule ∈ Catalogue.registry.rules,
          (rule.run s d).map RuleResult.shown =
            (rule.run s { d with nodes := nodes }).map RuleResult.shown := by
  constructor
  · intro a b halike source noticed noticed' choices
    have hshown : ∀ d : Document,
        (Audit.scan Catalogue.registry s (.document d) choices).map ScanReport.shown =
          (Audit.scan Catalogue.registry s (.document d.joined) choices).map ScanReport.shown := by
      intro d
      rw [Audit.scan_joined (fun _ => Catalogue.respectsJoining_of_mem) s d choices]
      cases Audit.scan Catalogue.registry s (.document d) choices with
      | error fault => rfl
      | ok report => exact congrArg Except.ok report.shown_joined.symm
    rw [hshown, hshown (.ofForest source noticed' b),
      halike.joined_ofForest source noticed noticed']
  · intro d nodes hrechunked rule hrule
    have hshown : ∀ d : Document,
        (rule.run s d).map RuleResult.shown = (rule.run s d.joined).map RuleResult.shown := by
      intro d
      rw [Rule.run_joined (Catalogue.respectsJoining_of_mem hrule) s d]
      cases rule.run s d with
      | error fault => rfl
      | ok result => exact congrArg Except.ok result.shown_joined.symm
    have hjoined : ({ d with nodes := nodes } : Document).joined = d.joined :=
      congrArg (Document.ofNodes d.source) hrechunked.joinedAll_eq.symm
    rw [hshown d, hshown { d with nodes := nodes }, hjoined]

/-- A comment inside a text and another one in an empty element do not keep an obsolete element from
being found. -/
theorem chunking_never_influences_findings_font :
    let written : List Markup.RawNode :=
      [.text "go ", .aside .comment " or stay ", .text "on",
        .element "font" [] [.aside .comment " big "]]
    let plain : List Markup.RawNode := [.text "go on", .element "font" [] []]
    let tree : List Node := [.text "go ", .text "on", .element "font" .empty []]
    ∃ report result,
      Audit.scan Catalogue.registry .packaged (.document (.ofForest "" [] plain))
          (.ok [.exact .obsoletes]) = .ok report ∧
        report.passed = false ∧
        (Audit.scan Catalogue.registry .packaged (.document (.ofForest "" [] written))
          (.ok [.exact .obsoletes])).map ScanReport.shown = .ok report.shown ∧
        Rules.noObsoleteTags.run .packaged (.ofNodes "" tree) = .ok result ∧
        result.passed = false ∧
        (Rules.noObsoleteTags.run .packaged
          (.ofNodes "" [.text "go on", .element "font" .empty []])).map RuleResult.shown =
            .ok result.shown := by
  intro written plain tree
  have halike : Markup.RawNode.Alike written plain := by
    have hcomment := Markup.RawNode.Alike.behind (.text "go ")
      (.aside .comment " or stay " [.text "on", .element "font" [] [.aside .comment " big "]])
    have hmerged := Markup.RawNode.Alike.merge "go " "on"
      [.element "font" [] [.aside .comment " big "]]
    have hinside := Markup.RawNode.Alike.behind (.text "go on")
      (.inside "font" [] [] (.aside .comment " big " []))
    exact (hcomment.trans hmerged).trans hinside
  have hrechunked : Node.Rechunked tree [.text "go on", .element "font" .empty []] :=
    .merge "go " "on" [.element "font" .empty []]
  rcases chunking_never_influences_findings .packaged with ⟨hscans, hruns⟩
  have hmember : Rules.noObsoleteTags ∈ Catalogue.registry.rules := by
    simp [Catalogue.mem_rules_registry_iff, Catalogue.obsoletes]
  have hreport : ((Audit.scan Catalogue.registry .packaged (.document (.ofForest "" [] plain))
      (.ok [.exact .obsoletes])).map ScanReport.passed).toOption = some false := by
    decide +kernel
  have hresult : ((Rules.noObsoleteTags.run .packaged (.ofNodes "" tree)).map
      RuleResult.passed).toOption = some false := by
    decide +kernel
  cases hscan : Audit.scan Catalogue.registry .packaged (.document (.ofForest "" [] plain))
    (.ok [.exact .obsoletes]) with
  | error fault => simp [hscan, Except.map, Except.toOption] at hreport
  | ok report =>
    cases hrun : Rules.noObsoleteTags.run .packaged (.ofNodes "" tree) with
    | error fault => simp [hrun, Except.map, Except.toOption] at hresult
    | ok result =>
      have hsame := hscans written plain halike "" [] [] (.ok [.exact .obsoletes])
      have hsame' := hruns (.ofNodes "" tree) _ hrechunked Rules.noObsoleteTags hmember
      refine ⟨report, result, rfl, ?_, ?_, rfl, ?_, ?_⟩
      · simpa [hscan, Except.map, Except.toOption] using hreport
      · rw [hsame, hscan]
        rfl
      · simpa [hrun, Except.map, Except.toOption] using hresult
      · rw [hrun] at hsame'
        exact hsame'.symm

end MarkupAudit
