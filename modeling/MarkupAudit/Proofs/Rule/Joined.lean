import MarkupAudit.Proofs.Document.Joined
import MarkupAudit.Proofs.Faults.Success
import MarkupAudit.Rules.Attributes
import MarkupAudit.Rules.Fields
import MarkupAudit.Rules.Head
import MarkupAudit.Rules.Images
import MarkupAudit.Rules.Languages
import MarkupAudit.Rules.Links
import MarkupAudit.Rules.Lists
import MarkupAudit.Rules.Media
import MarkupAudit.Rules.Sections
import MarkupAudit.Rules.Tables

/-!
# Checks and the chunking of texts

A check respects joining if it finds in the joined document what it finds in the document, at the
same places and in the same words. Judgements read tags, attributes, surroundings and the content of
an element as a whole, all of which joining keeps, so a check that is made of judgements respects
joining.

Main statements: how a check that respects joining is made of parts that do
(`Rule.RespectsJoining.listing`, `RespectsJoining.onTags`, `RespectsJoining.judge`), and one lemma
for each check that is more than a judgement on the places of some tags.
-/

namespace MarkupAudit

/-- The finding in the joined document. -/
def Finding.joined (f : Finding) : Finding :=
  { f with subject := f.subject.map Place.joined }

/-- What is found in the joined document is what is found in the document. -/
def RespectsJoining (find : Document → List Finding) : Prop :=
  ∀ d, find d.joined = (find d).map Finding.joined

/-- The check gives for the joined document what it gives for the document, faults included. -/
def Rule.RespectsJoining (rule : Rule) : Prop :=
  ∀ s d, rule.check s d.joined = (rule.check s d).map (List.map Finding.joined)

namespace Element

variable (e : Element)

@[simp] theorem snippet_joined : e.joined.snippet = e.snippet := by
  simp [snippet]

@[simp] theorem textOrDots_joined : e.joined.textOrDots = e.textOrDots := by
  simp [textOrDots]

end Element

/-! ## Judgements -/

namespace Finding

theorem judge_joined {judgement : Place → Option String}
    (h : ∀ p, judgement p.joined = judgement p) (ps : List Place) :
    judge judgement (ps.map Place.joined) = (judge judgement ps).map joined := by
  have heach : ∀ p, (judgement p.joined).map (about p.joined) =
      ((judgement p).map (about p)).map joined := by
    intro p
    rw [h p]
    cases judgement p <;> rfl
  simp [judge, List.filterMap_map, List.map_filterMap, Function.comp_def, heach]

theorem judgeOrFail_joined {judgement : Place → Except Fault (Option String)}
    (h : ∀ p, judgement p.joined = judgement p) (ps : List Place) :
    judgeOrFail judgement (ps.map Place.joined) =
      (judgeOrFail judgement ps).map (List.map joined) := by
  induction ps with
  | nil => rfl
  | cons p rest ih =>
    rw [List.map_cons, judgeOrFail, judgeOrFail, h p, ih]
    cases judgement p with
    | error fault => rfl
    | ok verdict =>
      cases judgeOrFail judgement rest with
      | error fault => rfl
      | ok others => cases verdict <;> rfl

end Finding

namespace RespectsJoining

variable {find find' : Document → List Finding} {judgement : Place → Option String}

theorem judge {select : Document → List Place}
    (hselect : ∀ d, select d.joined = (select d).map Place.joined)
    (h : ∀ p, judgement p.joined = judgement p) :
    RespectsJoining fun d => Finding.judge judgement (select d) := by
  intro d
  calc
    Finding.judge judgement (select d.joined)
      = Finding.judge judgement ((select d).map Place.joined) := by rw [hselect]
    _ = (Finding.judge judgement (select d)).map Finding.joined := Finding.judge_joined h _

theorem onEvery (h : ∀ p, judgement p.joined = judgement p) :
    RespectsJoining (Rule.onEvery judgement) :=
  judge Document.places_joined h

theorem onTags {tags : List String} (h : ∀ p, judgement p.joined = judgement p) :
    RespectsJoining (Rule.onTags tags judgement) :=
  judge (fun d => d.placesOf_joined tags) h

theorem append (h : RespectsJoining find) (h' : RespectsJoining find') :
    RespectsJoining fun d => find d ++ find' d := by
  intro d
  simp only [h d, h' d, List.map_append]

theorem flatMap_of_forall {α : Type} {items : List α} {findFor : α → Document → List Finding}
    (h : ∀ a, RespectsJoining (findFor a)) :
    RespectsJoining fun d => items.flatMap fun a => findFor a d := by
  intro d
  simp only [h _ d, List.map_flatMap]

/-- What is found at places of the document, by looking around them. -/
theorem flatMap {select : Document → List Place} {around : Place → List Finding}
    (hselect : ∀ d, select d.joined = (select d).map Place.joined)
    (h : ∀ p, around p.joined = (around p).map Finding.joined) :
    RespectsJoining fun d => (select d).flatMap around := by
  intro d
  simp [hselect, List.flatMap_map, List.map_flatMap, h]

theorem filterMap {select : Document → List Place} {around : Place → Option Finding}
    (hselect : ∀ d, select d.joined = (select d).map Place.joined)
    (h : ∀ p, around p.joined = (around p).map Finding.joined) :
    RespectsJoining fun d => (select d).filterMap around := by
  intro d
  have hsame : around ∘ Place.joined = fun p => (around p).map Finding.joined := funext h
  simp only [hselect, List.filterMap_map, List.map_filterMap, hsame]

end RespectsJoining

namespace Rule.RespectsJoining

theorem listing {name summary : String} {category : Category} {find : Document → List Finding}
    (h : MarkupAudit.RespectsJoining find) :
    (Rule.listing name category summary find).RespectsJoining :=
  fun _ d => congrArg Except.ok (h d)

theorem telling {name : String} {category : Category} {find : Document → List Finding}
    (h : MarkupAudit.RespectsJoining find) : (Rule.telling name category find).RespectsJoining :=
  fun _ d => congrArg Except.ok (h d)

theorem judgeOrFail {rule : Rule} {judgement : Settings → Place → Except Fault (Option String)}
    {select : Document → List Place}
    (hcheck : ∀ s d, rule.check s d = Finding.judgeOrFail (judgement s) (select d))
    (hselect : ∀ d, select d.joined = (select d).map Place.joined)
    (h : ∀ s p, judgement s p.joined = judgement s p) : rule.RespectsJoining := by
  intro s d
  rw [hcheck, hcheck, hselect, Finding.judgeOrFail_joined (h s)]

end Rule.RespectsJoining

namespace Rules

open Rule

/-! ## Fields -/

theorem isLabelled_joined (targets : List String) (p : Place) :
    isLabelled targets p.joined = isLabelled targets p := by
  rw [isLabelled, Place.isInside_joined]
  rfl

theorem labelTargets_joined (d : Document) : labelTargets d.joined = labelTargets d := by
  rw [labelTargets, Document.placesOf_joined, List.filterMap_map]
  rfl

theorem respectsJoining_noPlaceholderAsLabel : noPlaceholderAsLabel.RespectsJoining := by
  refine .listing fun d => ?_
  rw [labelTargets_joined]
  refine RespectsJoining.onTags (fun p => ?_) d
  simp only [isLabelled_joined]
  rfl

theorem respectsJoining_formFieldsHaveLabel : formFieldsHaveLabel.RespectsJoining := by
  refine .listing fun d => ?_
  rw [labelTargets_joined]
  refine RespectsJoining.onTags (fun p => ?_) d
  simp only [isLabelled_joined]
  rfl

theorem labelFindings_joined (label : Place) :
    labelFindings label.joined = (labelFindings label).map Finding.joined := by
  have hcontrols : controlsIn label.joined = (controlsIn label).map Place.joined := by
    rw [controlsIn, Place.descendants_joined, List.filter_map]
    rfl
  simp only [labelFindings, hcontrols, List.isEmpty_map, List.length_map, List.map_append,
    apply_ite (List.map Finding.joined)]
  rfl

theorem inputsOfType_joined (type : String) (d : Document) :
    inputsOfType d.joined type = (inputsOfType d type).map Place.joined := by
  rw [inputsOfType, Document.placesOf_joined, List.filter_map]
  rfl

theorem respectsJoining_radioCheckboxInputsHaveName :
    radioCheckboxInputsHaveName.RespectsJoining := by
  have hgroup : ∀ type reason p, judgeGroup type reason p.joined = judgeGroup type reason p :=
    fun _ _ _ => rfl
  refine .listing fun d => ?_
  simp only [inputsOfType_joined, List.length_map, Finding.judge_joined (hgroup _ _),
    List.map_append, apply_ite (List.map Finding.joined), List.map_nil]

theorem respectsJoining_radiosInsideFieldset : radiosInsideFieldset.RespectsJoining := by
  refine .listing (.judge (inputsOfType_joined "radio") fun p => ?_)
  simp only [Place.isInside_joined]
  rfl

theorem firstOptionValue?_joined (p : Place) :
    firstOptionValue? p.joined = firstOptionValue? p := by
  rw [firstOptionValue?, Place.descendants_joined, List.find?_map, Option.map_map,
    firstOptionValue?]
  refine Option.map_congr fun q _ => ?_
  simp only [Function.comp, Place.element_joined, Element.textContent_joined]
  rfl

theorem respectsJoining_requiredSelectHasEmptyFirstOption :
    requiredSelectHasEmptyFirstOption.RespectsJoining := by
  have hrequires : ∀ p : Place, requiresChoice p.joined = requiresChoice p := fun _ => rfl
  refine .listing (.onTags fun p => ?_)
  simp only [hrequires, firstOptionValue?_joined]
  rfl

/-! ## Attributes, titles and list items -/

theorem respectsJoining_widthHeightOnAllowedElements :
    widthHeightOnAllowedElements.RespectsJoining := by
  have hmay : ∀ p : Place, maySetSize p.joined = maySetSize p := by
    intro p
    simp only [maySetSize, Place.parentTag?_joined, Place.isInside_joined]
    rfl
  refine .listing (.onEvery fun p => ?_)
  simp only [hmay, Place.element_joined, Element.snippet_joined]
  rfl

theorem respectsJoining_titleNotEmpty : titleNotEmpty.RespectsJoining := by
  refine .listing fun d => ?_
  rw [Document.placesOf_joined]
  cases d.placesOf ["title"] with
  | nil => rfl
  | cons title others =>
    refine Finding.judge_joined (fun p => ?_) (title :: others)
    simp only [Place.element_joined, Element.textContent_joined, Element.snippet_joined]

theorem respectsJoining_listItemsHaveValidParent : listItemsHaveValidParent.RespectsJoining := by
  refine .listing (.append (.onEvery fun p => ?_) (.onTags fun p => ?_))
  · simp only [judgeListChild, Place.parentTag?_joined]
    rfl
  · simp only [judgeItem, Place.parentName_joined]
    rfl

/-! ## Landmarks, figures and nesting -/

theorem visibleWithRole_joined (role : String) (d : Document) :
    visibleWithRole d.joined role = (visibleWithRole d role).map Place.joined := by
  have hrole : ∀ p : Place,
      p.joined.element.normalizedAttr "role" = p.element.normalizedAttr "role" := fun _ => rfl
  have hhidden : ∀ p : Place,
      p.joined.element.hasAttr "hidden" = p.element.hasAttr "hidden" := fun _ => rfl
  simp only [visibleWithRole, Document.places_joined, List.filter_map, Function.comp_def, hrole,
    hhidden]

theorem respectsJoining_onlyOneVisibleMain : onlyOneVisibleMain.RespectsJoining := by
  let select (d : Document) : List Place :=
    ((d.placesOf ["main"]).filter fun p => !p.element.hasAttr "hidden").drop 1
  have hselect : ∀ d, select d.joined = (select d).map Place.joined := by
    intro d
    simp only [select, Document.placesOf_joined, List.filter_map, List.map_drop]
    rfl
  exact .listing (.judge hselect fun _ => rfl)

theorem respectsJoining_uniqueLandmarkRoles : uniqueLandmarkRoles.RespectsJoining := by
  have hselect : ∀ role (d : Document), (visibleWithRole d.joined role).drop 1 =
      ((visibleWithRole d role).drop 1).map Place.joined := by
    intro role d
    rw [visibleWithRole_joined, List.map_drop]
  exact .listing (.flatMap_of_forall fun role => .judge (hselect role) fun _ => rfl)

theorem judgeFurtherFigcaption_joined (p : Place) :
    judgeFurtherFigcaption p.joined = judgeFurtherFigcaption p := by
  have hback := p.searchBack_joined isFigcaption fun _ => rfl
  rw [judgeFurtherFigcaption, judgeFurtherFigcaption, hback, Place.parentFor_joined]
  cases p.searchBack isFigcaption with
  | error fault => rfl
  | ok other =>
    simp only [Except.map, bind, Except.bind, Option.isSome_map]
    cases p.parentFor "tag" <;> rfl

theorem judgeFigcaptionPlace_joined (p : Place) :
    judgeFigcaptionPlace p.joined = judgeFigcaptionPlace p := by
  rw [judgeFigcaptionPlace, judgeFigcaptionPlace, Place.parentFor_joined]
  cases p.parentFor "children" with
  | error fault => rfl
  | ok parent =>
    have houter : isOutermostChildOf p.joined parent.joined = isOutermostChildOf p parent := by
      simp [isOutermostChildOf, Option.any_map]
    simp only [Except.map, bind, Except.bind, houter]
    rfl

theorem isMisnested_joined (p : Place) : isMisnested p.joined = isMisnested p := by
  rw [isMisnested, Place.ancestors_joined, List.any_map]
  rfl

theorem judgeNestedInteractive_joined (p : Place) :
    judgeNestedInteractive p.joined = judgeNestedInteractive p := by
  rw [judgeNestedInteractive, judgeNestedInteractive, interactiveContainer, interactiveContainer,
    isMisnested_joined, Place.ancestorOf?_joined]
  cases p.ancestorOf? (activators ++ sameTagNesting) <;> cases isMisnested p <;> rfl

theorem inspectedScope_joined (d : Document) :
    inspectedScope d.joined = (inspectedScope d).joined := by
  rw [inspectedScope, Document.firstOf?_joined, inspectedScope]
  cases d.firstOf? "body" <;> rfl

theorem respectsJoining_noEmptyElements : noEmptyElements.RespectsJoining := by
  refine .telling (.judge (fun d => ?_) fun p => ?_)
  · rw [inspectedScope_joined, Place.descendants_joined]
  · have hmay : mayBeEmpty p.joined = mayBeEmpty p := by
      simp only [mayBeEmpty, Place.isInside_joined]
      rfl
    simp only [Place.element_joined, Element.isEmpty_joined, hmay]
    rfl

theorem respectsJoining_noInvalidNesting : noInvalidNesting.RespectsJoining := by
  have hmain : ∀ p : Place, judgeMain p.joined = judgeMain p := by
    intro p
    rw [judgeMain, Place.ancestorOf?_joined, Option.map_map]
    rfl
  have haddress : ∀ p : Place, judgeInAddress p.joined = judgeInAddress p := by
    intro p
    simp only [judgeInAddress, Place.isInside_joined]
    rfl
  have hoptgroup : ∀ p : Place, judgeOptgroup p.joined = judgeOptgroup p := by
    intro p
    simp only [judgeOptgroup, Place.parentName_joined]
    rfl
  have hlegend : ∀ p : Place, judgeLegend p.joined = judgeLegend p := by
    intro p
    simp only [judgeLegend, Place.parentName_joined]
    rfl
  have hoption : ∀ p : Place, judgeOption p.joined = judgeOption p := by
    intro p
    simp only [judgeOption, Place.parentName_joined]
    rfl
  exact .listing (((((RespectsJoining.onTags hmain).append (.onTags hoptgroup)).append
    (.onTags hlegend)).append (.onTags hoption)).append (.onEvery haddress))

theorem respectsJoining_noDivInsideInline : noDivInsideInline.RespectsJoining := by
  refine .listing (.onTags fun p => ?_)
  simp only [Place.ancestorOf?_joined, Option.map_map]
  rfl

theorem respectsJoining_noSectioningWrappers : noSectioningWrappers.RespectsJoining := by
  have hfirst : ∀ p : Place,
      p.joined.siblings.head?.any p.joined.same = p.siblings.head?.any p.same := by
    intro p
    simp [Option.any_map]
  refine .listing (.onEvery fun p => ?_)
  simp only [Place.parentTag?_joined, hfirst]
  rfl

/-! ## First children -/

theorem isFirstChildOf_joined (p parent : Place) :
    isFirstChildOf p.joined parent.joined = isFirstChildOf p parent := by
  simp [isFirstChildOf, Option.any_map]

theorem misplaced_joined (tag : String) (parent : Place) :
    parent.joined.children.filter (fun child =>
        child.element.tag == tag && !isFirstChildOf child parent.joined) =
      (parent.children.filter fun child =>
        child.element.tag == tag && !isFirstChildOf child parent).map Place.joined := by
  simp [List.filter_map, Function.comp_def, isFirstChildOf_joined]

theorem respectsJoining_firstChildFindings (container expected : String) :
    RespectsJoining (firstChildFindings container expected) := by
  refine .append (.filterMap (fun d => d.placesOf_joined _) fun parent => ?_)
    (.flatMap (fun d => d.placesOf_joined _) fun parent => ?_)
  · rw [otherFirstChild?, Place.firstChild?_joined, otherFirstChild?]
    cases parent.firstChild? with
    | none => rfl
    | some first =>
      simp only [Option.map_some, Place.element_joined, Element.tag_joined,
        apply_ite (Option.map Finding.joined)]
      rfl
  · rw [misplacedChildren, misplaced_joined, misplacedChildren, List.map_map, List.map_map]
    rfl

theorem respectsJoining_charsetIsFirst : charsetIsFirst.RespectsJoining := by
  refine .listing (.filterMap (fun d => d.placesOf_joined _) fun head => ?_)
  have hdeclares : ∀ e : Element, declaresCharset e.joined = declaresCharset e := fun _ => rfl
  rw [otherFirstDeclaration?, Place.firstChild?_joined, otherFirstDeclaration?]
  cases head.firstChild? with
  | none => rfl
  | some first =>
    simp only [Option.map_some, Place.element_joined, hdeclares, Element.snippet_joined,
      apply_ite (Option.map Finding.joined)]
    rfl

/-! ## Tables -/

theorem dataTables_joined (d : Document) :
    dataTables d.joined = (dataTables d).map Place.joined := by
  rw [dataTables, Document.placesOf_joined, List.filter_map]
  rfl

theorem respectsJoining_tablesHaveCaption : tablesHaveCaption.RespectsJoining := by
  refine .telling (.append (.flatMap dataTables_joined fun table => ?_)
    (.filterMap dataTables_joined fun table => ?_))
  · rw [misplacedCaptions, misplaced_joined, misplacedCaptions, List.map_map, List.map_map]
    rfl
  · rw [missingCaption?, Place.firstChild?_joined, missingCaption?]
    cases table.firstChild? with
    | none => rfl
    | some first =>
      simp only [Option.map_some, Place.element_joined, Element.tag_joined,
        apply_ite (Option.map Finding.joined)]
      rfl

theorem respectsJoining_tablesHaveThead : tablesHaveThead.RespectsJoining := by
  have hsections : ∀ table : Place, (table.joined.children.map fun p => p.element.tag) =
      table.children.map fun p => p.element.tag := by
    intro table
    simp [Function.comp_def]
  refine .telling (.judge dataTables_joined fun table => ?_)
  simp only [hsections]
  rfl

theorem outOfOrder_joined (earlier later : String) (children : List Place) :
    outOfOrder earlier later (children.map Place.joined) =
      (outOfOrder earlier later children).map Place.joined := by
  induction children with
  | nil => rfl
  | cons child rest ih =>
    simp only [List.map_cons, outOfOrder, Place.element_joined, Element.tag_joined, ih,
      List.filter_map, apply_ite (List.map Place.joined)]
    rfl

theorem respectsJoining_tableStructureIsOrdered : tableStructureIsOrdered.RespectsJoining := by
  refine .telling (.flatMap_of_forall fun rule => .flatMap (fun d => d.placesOf_joined _) ?_)
  intro table
  simp only [orderFindings, Place.children_joined, outOfOrder_joined, List.map_map]
  rfl

theorem respectsJoining_presentationTablesHaveNoSemantics :
    presentationTablesHaveNoSemantics.RespectsJoining := by
  let select (d : Document) : List Place :=
    (d.placesOf ["table"]).filter fun p => p.element.hasRole "presentation"
  have hselect : ∀ d, select d.joined = (select d).map Place.joined := by
    intro d
    simp only [select, Document.placesOf_joined, List.filter_map]
    rfl
  have hjudge : ∀ p : Place, judgeSemantics p.joined = judgeSemantics p := by
    intro p
    simp only [judgeSemantics, Place.element_joined, Element.snippet_joined]
    rfl
  refine .listing (.flatMap hselect fun table => ?_)
  rw [Place.descendants_joined, Finding.judge_joined hjudge]

/-! ## Checks that may fail -/

/-- A run over the places of the joined document. -/
theorem mapM_joined {β : Type} {around : Place → Except Fault β} {join : β → β}
    (h : ∀ p, around p.joined = (around p).map join) (ps : List Place) :
    (ps.map Place.joined).mapM around = (ps.mapM around).map (List.map join) := by
  rw [List.mapM_map]
  exact mapM_eq_map fun p _ => h p

/-! ### Figures and nesting -/

theorem respectsJoining_onlyOneFigcaption : onlyOneFigcaption.RespectsJoining :=
  .judgeOrFail (fun _ _ => rfl) (fun d => d.placesOf_joined _)
    fun _ => judgeFurtherFigcaption_joined

theorem respectsJoining_figcaptionIsFirstOrLastChild :
    figcaptionIsFirstOrLastChild.RespectsJoining :=
  .judgeOrFail (fun _ _ => rfl) (fun d => d.placesOf_joined _) fun _ => judgeFigcaptionPlace_joined

theorem respectsJoining_noNestedInteractiveElements :
    noNestedInteractiveElements.RespectsJoining :=
  .judgeOrFail (fun _ _ => rfl) Document.places_joined fun _ => judgeNestedInteractive_joined

/-! ### Definition lists -/

theorem respectsJoining_definitionChildFindings (relation : String) :
    RespectsJoining (definitionChildFindings relation) := by
  refine .flatMap (fun d => d.placesOf_joined _) fun dl => ?_
  simp only [Place.children_joined, List.filter_map, List.map_map]
  rfl

theorem followingTerm_joined (dt : Place) :
    followingTerm dt.joined = (followingTerm dt).map (Option.map Finding.joined) := by
  rw [followingTerm, followingTerm, Place.next_joined]
  cases dt.next with
  | error fault => rfl
  | ok next =>
    cases next with
    | none => rfl
    | some following =>
      simp only [Except.map, bind, Except.bind, pure, Except.pure, Option.map_some,
        Place.element_joined, Element.tag_joined, apply_ite (Option.map Finding.joined)]
      rfl

theorem judgeDefinition_joined (dd : Place) : judgeDefinition dd.joined = judgeDefinition dd := by
  rw [judgeDefinition, judgeDefinition, Place.previous_joined]
  cases dd.previous with
  | error fault => rfl
  | ok previous => cases previous <;> rfl

theorem respectsJoining_definitionListStructureIsValid :
    definitionListStructureIsValid.RespectsJoining := by
  intro _ d
  show definitionListFindings d.joined = (definitionListFindings d).map (List.map Finding.joined)
  simp only [definitionListFindings, Document.placesOf_joined, mapM_joined followingTerm_joined,
    Finding.judgeOrFail_joined judgeDefinition_joined,
    respectsJoining_definitionChildFindings "child" d]
  cases (d.placesOf ["dt"]).mapM followingTerm with
  | error fault => rfl
  | ok terms =>
    cases Finding.judgeOrFail judgeDefinition (d.placesOf ["dd"]) with
    | error fault => rfl
    | ok definitions =>
      simp [Except.map, bind, Except.bind, pure, Except.pure, List.filterMap_map,
        List.map_filterMap]

theorem judgeDefinitionPart_joined (p : Place) :
    judgeDefinitionPart p.joined = judgeDefinitionPart p := by
  have hholds : ∀ parent : Place, holdsDefinitions parent.joined = holdsDefinitions parent := by
    intro parent
    simp only [holdsDefinitions, Place.parentTag?_joined]
    rfl
  rw [judgeDefinitionPart, judgeDefinitionPart, Place.parentFor_joined]
  cases p.parentFor "tag" with
  | error fault => rfl
  | ok parent =>
    simp only [Except.map, bind, Except.bind, hholds]
    rfl

theorem respectsJoining_definitionListItemsHaveValidParent :
    definitionListItemsHaveValidParent.RespectsJoining := by
  intro _ d
  show definitionPartFindings d.joined = (definitionPartFindings d).map (List.map Finding.joined)
  simp only [definitionPartFindings, Document.placesOf_joined,
    Finding.judgeOrFail_joined judgeDefinitionPart_joined,
    respectsJoining_definitionChildFindings "direct child" d]
  cases Finding.judgeOrFail judgeDefinitionPart (d.placesOf ["dt"]) with
  | error fault => rfl
  | ok terms =>
    cases Finding.judgeOrFail judgeDefinitionPart (d.placesOf ["dd"]) with
    | error fault => rfl
    | ok definitions =>
      simp [Except.map, bind, Except.bind, pure, Except.pure]

/-! ### Links and tab indices -/

theorem mailtoFindings_joined (p : Place) :
    mailtoFindings p.joined = (mailtoFindings p).map (List.map Finding.joined) := by
  have haddress : ∀ href email, invalidAddress p.joined href email =
      (invalidAddress p href email).map (Option.map Finding.joined) := by
    intro href email
    rw [invalidAddress, invalidAddress]
    cases Email.isValid email with
    | error fault => rfl
    | ok valid => cases valid <;> rfl
  have hrun : ∀ href (emails : List String),
      emails.mapM (invalidAddress p.joined href) =
        (emails.mapM (invalidAddress p href)).map (List.map (Option.map Finding.joined)) := by
    intro href emails
    exact mapM_eq_map fun email _ => haddress href email
  have hhref : p.joined.element.attr? "href" = p.element.attr? "href" := rfl
  rw [mailtoFindings, mailtoFindings, hhref]
  cases p.element.attr? "href" with
  | none => rfl
  | some href =>
    simp only [hrun]
    split
    · cases (Mailto.addresses href).mapM (invalidAddress p href) with
      | error fault => rfl
      | ok found =>
        simp [Except.map, List.filterMap_map, List.map_filterMap]
    · rfl

theorem respectsJoining_mailtoLinksAreValid : mailtoLinksAreValid.RespectsJoining := by
  intro _ d
  show (d.joined.places.mapM mailtoFindings).map List.flatten =
    ((d.places.mapM mailtoFindings).map List.flatten).map (List.map Finding.joined)
  rw [Document.places_joined, mapM_joined mailtoFindings_joined]
  cases d.places.mapM mailtoFindings <;> simp [Except.map]

theorem respectsJoining_numberLinks (name scheme summary : String) :
    (numberLinks name scheme summary).RespectsJoining := by
  have hjudge : ∀ s p, judgeNumber s scheme p.joined = judgeNumber s scheme p := fun _ _ => rfl
  exact .judgeOrFail (fun _ _ => rfl) Document.places_joined hjudge

theorem respectsJoining_tabindexNotPositive : tabindexNotPositive.RespectsJoining := by
  have hjudge : ∀ p : Place, judgeTabIndex p.joined = judgeTabIndex p := by
    intro p
    have hvalue : p.element.joined.attr? "tabindex" = p.element.attr? "tabindex" := rfl
    have htag : p.element.joined.upperTag = p.element.upperTag := rfl
    simp only [judgeTabIndex, Place.element_joined, hvalue, htag]
  exact .judgeOrFail (fun _ _ => rfl) Document.places_joined fun _ => hjudge

/-! ### Viewports and languages -/

theorem respectsJoining_viewportAllowsZoom : viewportAllowsZoom.RespectsJoining := by
  refine .judgeOrFail (fun _ _ => rfl) (fun d => d.placesOf_joined _) fun s p => ?_
  simp only [judgeViewport, Place.element_joined, Element.snippet_joined]
  rfl

theorem someRightToLeft_joined (s : Settings) (outer : List Located) :
    someRightToLeft s (outer.map Located.joined) = someRightToLeft s outer := by
  induction outer with
  | nil => rfl
  | cons q outer ih =>
    rw [List.map_cons, someRightToLeft, someRightToLeft, ih]
    rfl

theorem respectsJoining_dirMatchesLang : dirMatchesLang.RespectsJoining := by
  have hown : ∀ s p, judgeOwnDirection s p.joined = judgeOwnDirection s p := fun _ _ => rfl
  have hchanged : ∀ s p, judgeChangedLanguage s p.joined = judgeChangedLanguage s p := by
    intro s p
    simp only [judgeChangedLanguage, Place.ancestors_joined, someRightToLeft_joined]
    rfl
  have hlanguage : ∀ p, inheritedLanguage? p.joined = inheritedLanguage? p := by
    intro p
    rw [inheritedLanguage?, Place.ancestors_joined, List.findSome?_map]
    rfl
  have hrunning : ∀ s p, judgeDirection s p.joined = judgeDirection s p := by
    intro s p
    simp only [judgeDirection, hlanguage]
    rfl
  intro s d
  show directionFindings s d.joined = (directionFindings s d).map (List.map Finding.joined)
  simp only [directionFindings, Document.places_joined, Finding.judgeOrFail_joined (hown s),
    Finding.judgeOrFail_joined (hchanged s), Finding.judgeOrFail_joined (hrunning s)]
  cases Finding.judgeOrFail (judgeOwnDirection s) d.places with
  | error fault => rfl
  | ok own =>
    cases Finding.judgeOrFail (judgeChangedLanguage s) d.places with
    | error fault => rfl
    | ok changed =>
      cases Finding.judgeOrFail (judgeDirection s) d.places with
      | error fault => rfl
      | ok running => simp [Except.map, bind, Except.bind, pure, Except.pure]

end Rules

end MarkupAudit
