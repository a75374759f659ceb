import MarkupAudit.Proofs.Document.Descent
import MarkupAudit.Proofs.Faults.Success
import MarkupAudit.Rules.Attributes
import MarkupAudit.Rules.Fields
import MarkupAudit.Rules.Head
import MarkupAudit.Rules.Languages
import MarkupAudit.Rules.Links
import MarkupAudit.Rules.Lists
import MarkupAudit.Rules.Roles
import MarkupAudit.Rules.Sections
import MarkupAudit.Rules.Tables

/-!
# Checks that speak of the elements of the document

A finding is grounded in a document if it says something, and says it of an element of the document.
A check is grounded if all that it finds is. A judgement on elements of the document is grounded as
soon as it never says the empty sentence; a check that looks around an element and speaks of another
one is grounded because children, siblings and everything further in are elements of the document
too.

Main statements: how a grounded check is made of grounded parts (`Rule.Grounded.listing`,
`Grounded.onTags`, `Grounded.judge`), and one lemma for each check that is more than a judgement on
the places of some tags.
-/

namespace MarkupAudit

@[simp] theorem Text.toString_eq (text : String) : toString text = text := rfl

/-- The finding says something of an element of the document. -/
structure Finding.Grounded (d : Document) (f : Finding) : Prop where
  message_ne : f.message ≠ ""
  exists_subject : ∃ p ∈ d.places, f.subject = some p

/-- Whatever is found in a document is grounded in it. -/
def Grounded (find : Document → List Finding) : Prop :=
  ∀ d, ∀ f ∈ find d, f.Grounded d

/-- Whatever the check finds, if it succeeds, is grounded in the document. -/
def Rule.Grounded (rule : Rule) : Prop :=
  ∀ s d findings, rule.check s d = .ok findings → ∀ f ∈ findings, f.Grounded d

namespace Finding

variable {d : Document} {ps : List Place} {f : Finding}

theorem grounded_about {p : Place} {message : String} (hp : p ∈ d.places)
    (hmessage : message ≠ "") : (about p message).Grounded d :=
  ⟨hmessage, p, hp, rfl⟩

theorem grounded_of_mem_judge {judgement : Place → Option String} (hplaces : ps ⊆ d.places)
    (hspeaks : ∀ p, judgement p ≠ some "") (hf : f ∈ judge judgement ps) : f.Grounded d := by
  rcases List.mem_filterMap.1 hf with ⟨p, hp, hsaid⟩
  rcases Option.map_eq_some_iff.1 hsaid with ⟨message, hmessage, rfl⟩
  refine grounded_about (hplaces hp) ?_
  rintro rfl
  exact hspeaks p hmessage

theorem grounded_of_mem_judgeOrFail {judgement : Place → Except Fault (Option String)}
    {found : List Finding} (hplaces : ps ⊆ d.places) (hspeaks : ∀ p, judgement p ≠ .ok (some ""))
    (h : judgeOrFail judgement ps = .ok found) (hf : f ∈ found) : f.Grounded d := by
  rcases exists_of_mem_judgeOrFail h hf with ⟨p, hp, message, hmessage, rfl⟩
  refine grounded_about (hplaces hp) ?_
  rintro rfl
  exact hspeaks p hmessage

end Finding

/-! ## Parts of checks -/

theorem Document.placesOf_subset (d : Document) (tags : List String) : d.placesOf tags ⊆ d.places :=
  List.filter_sublist.subset

namespace Grounded

variable {find find' : Document → List Finding} {judgement : Place → Option String}
  {select : Document → List Place}

theorem judge (hselect : ∀ d, select d ⊆ d.places) (hspeaks : ∀ p, judgement p ≠ some "") :
    Grounded fun d => Finding.judge judgement (select d) :=
  fun d _ hf => Finding.grounded_of_mem_judge (hselect d) hspeaks hf

theorem onEvery (hspeaks : ∀ p, judgement p ≠ some "") : Grounded (Rule.onEvery judgement) :=
  judge (fun _ => List.Subset.refl _) hspeaks

theorem onTags {tags : List String} (hspeaks : ∀ p, judgement p ≠ some "") :
    Grounded (Rule.onTags tags judgement) :=
  judge (fun d => d.placesOf_subset tags) hspeaks

theorem append (h : Grounded find) (h' : Grounded find') :
    Grounded fun d => find d ++ find' d := by
  intro d f hf
  rcases List.mem_append.1 hf with hfound | hfound
  · exact h d f hfound
  · exact h' d f hfound

theorem flatMap_of_forall {α : Type} {items : List α} {findFor : α → Document → List Finding}
    (h : ∀ a ∈ items, Grounded (findFor a)) :
    Grounded fun d => items.flatMap fun a => findFor a d := by
  intro d f hf
  rcases List.mem_flatMap.1 hf with ⟨a, ha, hfound⟩
  exact h a ha d f hfound

/-- What is found at places of the document, by looking around them. -/
theorem flatMap {around : Place → List Finding} (hselect : ∀ d, select d ⊆ d.places)
    (h : ∀ d, ∀ p ∈ d.places, ∀ f ∈ around p, f.Grounded d) :
    Grounded fun d => (select d).flatMap around := by
  intro d f hf
  rcases List.mem_flatMap.1 hf with ⟨p, hp, hfound⟩
  exact h d p (hselect d hp) f hfound

theorem filterMap {around : Place → Option Finding} (hselect : ∀ d, select d ⊆ d.places)
    (h : ∀ d, ∀ p ∈ d.places, ∀ f ∈ around p, f.Grounded d) :
    Grounded fun d => (select d).filterMap around := by
  intro d f hf
  rcases List.mem_filterMap.1 hf with ⟨p, hp, hfound⟩
  exact h d p (hselect d hp) f hfound

end Grounded

namespace Rule.Grounded

theorem listing {name summary : String} {category : Category} {find : Document → List Finding}
    (h : MarkupAudit.Grounded find) : (Rule.listing name category summary find).Grounded := by
  intro _ d findings hcheck
  cases hcheck
  exact h d

theorem telling {name : String} {category : Category} {find : Document → List Finding}
    (h : MarkupAudit.Grounded find) : (Rule.telling name category find).Grounded := by
  intro _ d findings hcheck
  cases hcheck
  exact h d

theorem judgeOrFail {rule : Rule} {judgement : Settings → Place → Except Fault (Option String)}
    {select : Document → List Place}
    (hcheck : ∀ s d, rule.check s d = Finding.judgeOrFail (judgement s) (select d))
    (hselect : ∀ d, select d ⊆ d.places) (hspeaks : ∀ s p, judgement s p ≠ .ok (some "")) :
    rule.Grounded := by
  intro s d findings hfindings f hf
  rw [hcheck] at hfindings
  exact Finding.grounded_of_mem_judgeOrFail (hselect d) (hspeaks s) hfindings hf

end Rule.Grounded

namespace Rules

open Rule

/-! ## Fields -/

theorem grounded_noPlaceholderAsLabel : noPlaceholderAsLabel.Grounded := by
  refine .listing fun d => Grounded.onTags (fun p => ?_) d
  split <;> simp

theorem grounded_formFieldsHaveLabel : formFieldsHaveLabel.Grounded := by
  refine .listing fun d => Grounded.onTags (fun p => ?_) d
  simp

theorem grounded_labelsHaveControl : labelsHaveControl.Grounded := by
  refine .telling (.flatMap (fun d => d.placesOf_subset _) fun d label hlabel f hf => ?_)
  -- The controls are only counted; both findings are about the label.
  rcases List.mem_append.1 hf with hmissing | hseveral
  · split at hmissing
    · rcases List.mem_singleton.1 hmissing with rfl
      exact Finding.grounded_about hlabel (by simp)
    · cases hmissing
  · split at hseveral
    · rcases List.mem_singleton.1 hseveral with rfl
      exact Finding.grounded_about hlabel (by simp)
    · cases hseveral

theorem inputsOfType_subset (d : Document) (type : String) : inputsOfType d type ⊆ d.places :=
  fun _ hp => d.placesOf_subset _ (List.mem_filter.1 hp).1

theorem grounded_radioCheckboxInputsHaveName : radioCheckboxInputsHaveName.Grounded := by
  have hspeaks : ∀ type reason p, judgeGroup type reason p ≠ some "" := by
    intro type reason p
    simp [judgeGroup]
  refine .listing (.append (.judge (inputsOfType_subset · "radio") (hspeaks _ _)) fun d f hf => ?_)
  split at hf
  · exact Finding.grounded_of_mem_judge (inputsOfType_subset d _) (hspeaks _ _) hf
  · cases hf

theorem grounded_radiosInsideFieldset : radiosInsideFieldset.Grounded := by
  refine .listing (.judge (inputsOfType_subset · "radio") fun p => ?_)
  simp

/-! ## Landmarks and nesting -/

theorem grounded_onlyOneVisibleMain : onlyOneVisibleMain.Grounded := by
  refine .listing (.judge (fun d p hp => ?_) fun p => by simp)
  exact d.placesOf_subset _ (List.mem_filter.1 (List.mem_of_mem_drop hp)).1

theorem grounded_uniqueLandmarkRoles : uniqueLandmarkRoles.Grounded := by
  refine .listing (.flatMap_of_forall fun role _ => .judge (fun d p hp => ?_) fun p => by simp)
  exact (List.mem_filter.1 (List.mem_of_mem_drop hp)).1

theorem grounded_listItemsHaveValidParent : listItemsHaveValidParent.Grounded := by
  refine .listing (.append (.onEvery fun p => ?_) (.onTags fun p => ?_))
  · rw [judgeListChild]
    split <;> simp
  · simp [judgeItem]

theorem grounded_noInvalidNesting : noInvalidNesting.Grounded := by
  have hmain : ∀ p, judgeMain p ≠ some "" := by simp [judgeMain]
  have hoptgroup : ∀ p, judgeOptgroup p ≠ some "" := by simp [judgeOptgroup]
  have hlegend : ∀ p, judgeLegend p ≠ some "" := by simp [judgeLegend]
  have hoption : ∀ p, judgeOption p ≠ some "" := by simp [judgeOption]
  have haddress : ∀ p, judgeInAddress p ≠ some "" := by simp [judgeInAddress]
  exact .listing (((((Grounded.onTags hmain).append (.onTags hoptgroup)).append
    (.onTags hlegend)).append (.onTags hoption)).append (.onEvery haddress))

/-- The body and the document hold elements of the document only. -/
theorem descendants_inspectedScope_subset (d : Document) :
    (inspectedScope d).descendants ⊆ d.places := by
  rw [inspectedScope]
  cases hbody : d.firstOf? "body" with
  | none => exact List.Subset.refl _
  | some body =>
    intro p hp
    exact Document.mem_places_of_mem_descendants (List.mem_of_find?_eq_some hbody) hp

theorem grounded_noEmptyElements : noEmptyElements.Grounded :=
  .telling (.judge descendants_inspectedScope_subset fun p => by simp)

theorem grounded_roleRequires (name role summary : String) (required : List String) :
    (roleRequires name role summary required).Grounded := by
  refine .listing (.onEvery fun p => ?_)
  rw [judgeRole]
  split
  · split <;> simp
  · simp

/-! ## Titles -/

/-- A document without a title is the only one in which something is said of no element, and nothing
else is said there. -/
theorem findings_titleNotEmpty {s : Settings} {d : Document} {findings : List Finding}
    (hcheck : titleNotEmpty.check s d = .ok findings) :
    ((∃ p ∈ d.places, p.element.tag = "title") ∧ ∀ f ∈ findings, f.Grounded d) ∨
      (∀ p ∈ d.places, p.element.tag ≠ "title") ∧
        ∃ f, findings = [f] ∧ f.message ≠ "" ∧ f.subject = none := by
  cases hcheck
  dsimp only
  cases htitles : d.placesOf ["title"] with
  | nil =>
    refine Or.inr ⟨?_, ⟨none, "Document is missing a <title> tag"⟩, rfl, by simp, rfl⟩
    intro p hp htag
    have hnone := List.filter_eq_nil_iff.1 htitles p hp
    simp [htag] at hnone
  | cons title others =>
    have hplaces : title :: others ⊆ d.places := htitles ▸ d.placesOf_subset ["title"]
    have htag : title ∈ d.placesOf ["title"] := htitles ▸ List.mem_cons_self
    refine Or.inl ⟨⟨title, hplaces List.mem_cons_self, ?_⟩, fun f hf => ?_⟩
    · simpa using (List.mem_filter.1 htag).2
    · exact Finding.grounded_of_mem_judge hplaces (fun p => by simp) hf

/-! ## First children -/

theorem grounded_firstChildFindings (container expected : String) :
    Grounded (firstChildFindings container expected) := by
  refine .append (.filterMap (fun d => d.placesOf_subset _) fun d parent hparent f hf => ?_)
    (.flatMap (fun d => d.placesOf_subset _) fun d parent hparent f hf => ?_)
  -- Neither speaks of the parent: one of its first child, the other of the children that come late.
  · rw [otherFirstChild?] at hf
    cases hfirst : parent.firstChild? with
    | none => simp [hfirst] at hf
    | some first =>
      have hplace : first ∈ d.places :=
        Document.mem_places_of_mem_children hparent (Place.mem_children_of_firstChild? hfirst)
      simp only [hfirst, Option.mem_def, Option.ite_none_left_eq_some, Option.some.injEq] at hf
      rcases hf with ⟨-, rfl⟩
      exact Finding.grounded_about hplace (by simp)
  · rcases List.mem_map.1 hf with ⟨child, hchild, rfl⟩
    have hplace : child ∈ d.places :=
      Document.mem_places_of_mem_children hparent (List.mem_filter.1 hchild).1
    exact Finding.grounded_about hplace (by simp)

theorem grounded_charsetIsFirst : charsetIsFirst.Grounded := by
  refine .listing (.filterMap (fun d => d.placesOf_subset _) fun d head hhead f hf => ?_)
  rw [otherFirstDeclaration?] at hf
  cases hfirst : head.firstChild? with
  | none => simp [hfirst] at hf
  | some first =>
    have hplace : first ∈ d.places :=
      Document.mem_places_of_mem_children hhead (Place.mem_children_of_firstChild? hfirst)
    simp only [hfirst, Option.mem_def, Option.ite_none_left_eq_some, Option.some.injEq] at hf
    rcases hf with ⟨-, rfl⟩
    exact Finding.grounded_about hplace (by simp)

/-! ## Tables -/

theorem dataTables_subset (d : Document) : dataTables d ⊆ d.places :=
  fun _ hp => d.placesOf_subset _ (List.mem_filter.1 hp).1

theorem grounded_tablesHaveCaption : tablesHaveCaption.Grounded := by
  refine .telling (.append (.flatMap dataTables_subset fun d table htable f hf => ?_)
    (.filterMap dataTables_subset fun d table htable f hf => ?_))
  · rcases List.mem_map.1 hf with ⟨caption, -, rfl⟩
    exact Finding.grounded_about htable (by simp)
  · rw [missingCaption?] at hf
    cases hfirst : table.firstChild? with
    | none => simp [hfirst] at hf
    | some first =>
      simp only [hfirst, Option.mem_def, Option.ite_none_left_eq_some, Option.some.injEq] at hf
      rcases hf with ⟨-, rfl⟩
      exact Finding.grounded_about htable (by simp)

theorem grounded_tablesHaveThead : tablesHaveThead.Grounded :=
  .telling (.judge dataTables_subset fun p => by simp)

theorem outOfOrder_subset (earlier later : String) (children : List Place) :
    outOfOrder earlier later children ⊆ children := by
  induction children with
  | nil => exact List.Subset.refl _
  | cons child rest ih =>
    rw [outOfOrder]
    split
    · exact List.Subset.trans List.filter_sublist.subset (List.subset_cons_self _ _)
    · exact List.Subset.trans ih (List.subset_cons_self _ _)

theorem grounded_tableStructureIsOrdered : tableStructureIsOrdered.Grounded := by
  refine .telling (.flatMap_of_forall fun rule _ =>
    .flatMap (fun d => d.placesOf_subset _) fun d table htable f hf => ?_)
  -- The sentence names the table, but the finding is about the section that comes too late.
  rcases List.mem_map.1 hf with ⟨child, hchild, rfl⟩
  have hplace : child ∈ d.places :=
    Document.mem_places_of_mem_children htable (outOfOrder_subset _ _ _ hchild)
  exact Finding.grounded_about hplace (by simp)

theorem grounded_presentationTablesHaveNoSemantics :
    presentationTablesHaveNoSemantics.Grounded := by
  have hspeaks : ∀ p, judgeSemantics p ≠ some "" := by
    intro p
    rw [judgeSemantics]
    split
    · simp
    · split <;> simp
  have hselect : ∀ d : Document,
      ((d.placesOf ["table"]).filter fun p => p.element.hasRole "presentation") ⊆ d.places :=
    fun d _ hp => d.placesOf_subset _ (List.mem_filter.1 hp).1
  refine .listing (.flatMap hselect fun d table htable f hf => ?_)
  exact Finding.grounded_of_mem_judge
    (fun _ hp => Document.mem_places_of_mem_descendants htable hp) hspeaks hf

/-! ## Checks that may fail -/

theorem grounded_tabindexNotPositive : tabindexNotPositive.Grounded := by
  refine .judgeOrFail (fun _ _ => rfl) (fun d => List.Subset.refl d.places) fun _ p => ?_
  rw [judgeTabIndex]
  split
  · simp
  · dsimp only
    split
    · split <;> simp
    · simp

theorem grounded_viewportAllowsZoom : viewportAllowsZoom.Grounded := by
  refine .judgeOrFail (fun _ _ => rfl) (fun d => d.placesOf_subset _) fun s p => ?_
  rw [judgeViewport]
  split
  · exact map_ne_ok fun restrictions => by simp
  · simp

theorem grounded_numberLinks (name scheme summary : String) :
    (numberLinks name scheme summary).Grounded := by
  refine .judgeOrFail (fun _ _ => rfl) (fun d => List.Subset.refl d.places) fun s p => ?_
  rw [judgeNumber]
  split
  · simp
  · split
    · exact map_ne_ok fun valid => by simp
    · simp

theorem grounded_of_invalidAddress {d : Document} {p : Place} {href email : String} {f : Finding}
    (hp : p ∈ d.places) (hf : invalidAddress p href email = .ok (some f)) : f.Grounded d := by
  rcases exists_of_map_eq_ok hf with ⟨valid, -, hfound⟩
  simp only [Option.ite_none_left_eq_some, Option.some.injEq] at hfound
  rcases hfound with ⟨-, rfl⟩
  exact Finding.grounded_about hp (by simp)

theorem grounded_of_mem_mailtoFindings {d : Document} {p : Place} {found : List Finding}
    {f : Finding} (hp : p ∈ d.places) (hfound : mailtoFindings p = .ok found) (hf : f ∈ found) :
    f.Grounded d := by
  rw [mailtoFindings] at hfound
  split at hfound
  · cases hfound
    cases hf
  · split at hfound
    · rcases exists_of_map_eq_ok hfound with ⟨verdicts, hverdicts, rfl⟩
      rcases List.mem_filterMap.1 hf with ⟨verdict, hverdict, rfl⟩
      rcases exists_of_mem_mapM hverdicts hverdict with ⟨email, -, hinvalid⟩
      exact grounded_of_invalidAddress hp hinvalid
    · cases hfound
      cases hf

theorem grounded_mailtoLinksAreValid : mailtoLinksAreValid.Grounded := by
  intro s d findings hcheck f hf
  rcases exists_of_map_eq_ok hcheck with ⟨founds, hfounds, rfl⟩
  rcases List.mem_flatten.1 hf with ⟨found, hfound, hf⟩
  rcases exists_of_mem_mapM hfounds hfound with ⟨p, hp, hlink⟩
  exact grounded_of_mem_mailtoFindings hp hlink hf

theorem grounded_onlyOneFigcaption : onlyOneFigcaption.Grounded := by
  refine .judgeOrFail (fun _ _ => rfl) (fun d => d.placesOf_subset _) fun _ p => ?_
  refine bind_ne_ok fun earlier => ?_
  split
  · exact bind_ne_ok fun parent => by simp [pure, Except.pure]
  · simp [pure, Except.pure]

theorem grounded_figcaptionIsFirstOrLastChild : figcaptionIsFirstOrLastChild.Grounded := by
  refine .judgeOrFail (fun _ _ => rfl) (fun d => d.placesOf_subset _) fun _ p => ?_
  exact bind_ne_ok fun parent => by simp [pure, Except.pure]

theorem grounded_noNestedInteractiveElements : noNestedInteractiveElements.Grounded := by
  refine .judgeOrFail (fun _ _ => rfl) (fun d => List.Subset.refl d.places) fun _ p => ?_
  exact map_ne_ok fun container? => by simp

/-! ### Definition lists -/

theorem grounded_definitionChildFindings (relation : String) :
    Grounded (definitionChildFindings relation) := by
  refine .flatMap (fun d => d.placesOf_subset _) fun d dl hdl f hf => ?_
  rcases List.mem_map.1 hf with ⟨child, hchild, rfl⟩
  have hplace : child ∈ d.places :=
    Document.mem_places_of_mem_children hdl (List.mem_filter.1 hchild).1
  exact Finding.grounded_about hplace (by simp)

theorem grounded_of_followingTerm {d : Document} {dt : Place} {f : Finding} (hdt : dt ∈ d.places)
    (hf : followingTerm dt = .ok (some f)) : f.Grounded d := by
  rcases exists_of_bind_eq_ok hf with ⟨next, hnext, hf⟩
  cases next with
  | none => cases hf
  | some following =>
    have hplace : following ∈ d.places :=
      Document.mem_places_of_mem_siblings hdt (Place.mem_siblings_of_next hnext)
    simp only [pure, Except.pure, Except.ok.injEq, Option.ite_none_left_eq_some,
      Option.some.injEq] at hf
    rcases hf with ⟨-, rfl⟩
    exact Finding.grounded_about hplace (by simp)

theorem grounded_definitionListStructureIsValid : definitionListStructureIsValid.Grounded := by
  have hspeaks : ∀ dd, judgeDefinition dd ≠ .ok (some "") := by
    intro dd
    refine bind_ne_ok fun previous => ?_
    split <;> simp [pure, Except.pure]
  intro s d findings hcheck f hf
  rcases exists_of_bind_eq_ok hcheck with ⟨terms, hterms, hrest⟩
  rcases exists_of_bind_eq_ok hrest with ⟨definitions, hdefinitions, hfindings⟩
  cases hfindings
  -- The findings are about what follows a term, about definitions and about children of a list.
  rcases List.mem_append.1 hf with hfirst | hchild
  · rcases List.mem_append.1 hfirst with hterm | hdefinition
    · rcases List.mem_filterMap.1 hterm with ⟨found, hfound, rfl⟩
      rcases exists_of_mem_mapM hterms hfound with ⟨dt, hdt, hfollowing⟩
      exact grounded_of_followingTerm (d.placesOf_subset _ hdt) hfollowing
    · exact Finding.grounded_of_mem_judgeOrFail (d.placesOf_subset _) hspeaks hdefinitions
        hdefinition
  · exact grounded_definitionChildFindings _ d f hchild

theorem grounded_definitionListItemsHaveValidParent :
    definitionListItemsHaveValidParent.Grounded := by
  have hspeaks : ∀ p, judgeDefinitionPart p ≠ .ok (some "") := by
    intro p
    exact bind_ne_ok fun parent => by simp [pure, Except.pure]
  intro s d findings hcheck f hf
  rcases exists_of_bind_eq_ok hcheck with ⟨terms, hterms, hrest⟩
  rcases exists_of_bind_eq_ok hrest with ⟨definitions, hdefinitions, hfindings⟩
  cases hfindings
  rcases List.mem_append.1 hf with hpart | hchild
  · rcases List.mem_append.1 hpart with hterm | hdefinition
    · exact Finding.grounded_of_mem_judgeOrFail (d.placesOf_subset _) hspeaks hterms hterm
    · exact Finding.grounded_of_mem_judgeOrFail (d.placesOf_subset _) hspeaks hdefinitions
        hdefinition
  · exact grounded_definitionChildFindings _ d f hchild

/-! ### Writing directions -/

theorem grounded_dirMatchesLang : dirMatchesLang.Grounded := by
  have hown : ∀ s p, judgeOwnDirection s p ≠ .ok (some "") := by
    intro s p
    exact map_ne_ok fun isRightToLeft => by simp
  have hchanged : ∀ s p, judgeChangedLanguage s p ≠ .ok (some "") := by
    intro s p
    rw [judgeChangedLanguage]
    split
    · split
      · simp
      · exact map_ne_ok fun inside => by simp
    · simp
  have hrunning : ∀ s p, judgeDirection s p ≠ .ok (some "") := by
    intro s p
    rw [judgeDirection]
    split
    · exact map_ne_ok fun isRightToLeft => by simp
    · simp
  intro s d findings hcheck f hf
  have hplaces : d.places ⊆ d.places := List.Subset.refl _
  rcases exists_of_bind_eq_ok hcheck with ⟨own, hownFound, hrest⟩
  rcases exists_of_bind_eq_ok hrest with ⟨changed, hchangedFound, hrest⟩
  rcases exists_of_bind_eq_ok hrest with ⟨running, hrunningFound, hfindings⟩
  cases hfindings
  rcases List.mem_append.1 hf with hfirst | hlast
  · rcases List.mem_append.1 hfirst with hmem | hmem
    · exact Finding.grounded_of_mem_judgeOrFail hplaces (hown s) hownFound hmem
    · exact Finding.grounded_of_mem_judgeOrFail hplaces (hchanged s) hchangedFound hmem
  · exact Finding.grounded_of_mem_judgeOrFail hplaces (hrunning s) hrunningFound hlast

end Rules

end MarkupAudit
