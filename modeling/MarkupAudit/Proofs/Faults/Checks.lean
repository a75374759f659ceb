import MarkupAudit.Proofs.Document.Siblings
import MarkupAudit.Proofs.Faults.Formats
import MarkupAudit.Rules.Head
import MarkupAudit.Rules.Languages
import MarkupAudit.Rules.Links
import MarkupAudit.Rules.Lists
import MarkupAudit.Rules.Sections

/-!
# Checks that succeed on every document

Most checks have no step that could fail. The others ask an element of the document for its parent
or for its place among its siblings, which every element has; look for a container where the check
has seen one; or test a text in a format whose test succeeds under the packaged settings.

Main statements: one lemma for each check that has such a step, named after its rule.
-/

namespace MarkupAudit

/-! ## Questions about the surroundings of an element -/

namespace Document

variable {d : Document} {p : Place} {tags : List String}

theorem mem_places_of_mem_placesOf (hp : p ∈ d.placesOf tags) : p ∈ d.places :=
  (List.mem_filter.1 hp).1

theorem succeeds_parentFor (hp : p ∈ d.places) (operation : String) :
    Succeeds (p.parentFor operation) := by
  rcases exists_parent hp with ⟨parent, -, hchild⟩
  exact ⟨parent, Place.parentFor_of_mem_children hchild operation⟩

theorem succeeds_earlier (hp : p ∈ d.places) : Succeeds p.earlier :=
  (succeeds_map_iff _).2 (exists_index hp)

theorem succeeds_previous (hp : p ∈ d.places) : Succeeds p.previous :=
  (succeeds_map_iff _).2 (succeeds_earlier hp)

theorem succeeds_searchBack (hp : p ∈ d.places) (test : Place → Bool) :
    Succeeds (p.searchBack test) := by
  rw [Place.searchBack_eq]
  exact (succeeds_map_iff _).2 (succeeds_earlier hp)

theorem succeeds_next (hp : p ∈ d.places) : Succeeds p.next :=
  (succeeds_map_iff _).2 (exists_index hp)

end Document

namespace Rules

open Document

variable {d : Document}

/-! ## Captions and nesting -/

theorem succeeds_onlyOneFigcaption (s : Settings) : Succeeds (onlyOneFigcaption.check s d) := by
  refine Finding.succeeds_judgeOrFail_iff.2 ?_
  intro p hp
  have hplace := mem_places_of_mem_placesOf hp
  refine (succeeds_searchBack hplace isFigcaption).bind ?_
  intro other _
  split
  · exact (succeeds_parentFor hplace "tag").bind fun _ _ => succeeds_ok _
  · exact succeeds_ok none

theorem succeeds_figcaptionIsFirstOrLastChild (s : Settings) :
    Succeeds (figcaptionIsFirstOrLastChild.check s d) := by
  refine Finding.succeeds_judgeOrFail_iff.2 ?_
  intro p hp
  exact (succeeds_parentFor (mem_places_of_mem_placesOf hp) "children").bind fun _ _ =>
    succeeds_ok _

/-- The ancestor that makes an element misnested has one of the tags that are looked for. -/
theorem succeeds_interactiveContainer (p : Place) : Succeeds (interactiveContainer p) := by
  rw [interactiveContainer]
  split
  · next hmisnested =>
    rcases List.any_eq_true.1 hmisnested with ⟨q, hq, hforbidden⟩
    have htag : (activators ++ sameTagNesting).contains q.element.tag = true := by
      rw [List.contains_eq_mem, decide_eq_true_iff, List.mem_append]
      rcases Bool.or_eq_true_iff.1 hforbidden with hactivator | hsame
      · exact Or.inl (by simpa using (Bool.and_eq_true_iff.1 hactivator).2)
      · rcases Bool.and_eq_true_iff.1 hsame with ⟨hnested, heq⟩
        rw [beq_iff_eq] at heq
        exact Or.inr (by simpa [heq] using hnested)
    have hfound : (p.ancestorOf? (activators ++ sameTagNesting)).isSome = true :=
      List.find?_isSome.2 ⟨q, hq, htag⟩
    rcases Option.isSome_iff_exists.1 hfound with ⟨container, hcontainer⟩
    exact ⟨some container, by rw [hcontainer]⟩
  · exact succeeds_ok none

theorem succeeds_noNestedInteractiveElements (s : Settings) :
    Succeeds (noNestedInteractiveElements.check s d) :=
  Finding.succeeds_judgeOrFail_iff.2 fun p _ =>
    (succeeds_map_iff _).2 (succeeds_interactiveContainer p)

/-! ## Definition lists -/

theorem succeeds_definitionListStructureIsValid (s : Settings) :
    Succeeds (definitionListStructureIsValid.check s d) := by
  have hterms : Succeeds ((d.placesOf ["dt"]).mapM followingTerm) := by
    refine succeeds_mapM_iff.2 ?_
    intro p hp
    refine (succeeds_next (mem_places_of_mem_placesOf hp)).bind ?_
    rintro (_ | following) _
    · exact succeeds_ok none
    · exact succeeds_ok _
  have hdefinitions : Succeeds (Finding.judgeOrFail judgeDefinition (d.placesOf ["dd"])) := by
    refine Finding.succeeds_judgeOrFail_iff.2 ?_
    intro p hp
    refine (succeeds_previous (mem_places_of_mem_placesOf hp)).bind ?_
    rintro (_ | preceding) _
    · exact succeeds_ok none
    · exact succeeds_ok _
  exact hterms.bind fun _ _ => hdefinitions.bind fun _ _ => succeeds_ok _

theorem succeeds_definitionListItemsHaveValidParent (s : Settings) :
    Succeeds (definitionListItemsHaveValidParent.check s d) := by
  have hparts : ∀ tag, Succeeds (Finding.judgeOrFail judgeDefinitionPart (d.placesOf [tag])) := by
    intro tag
    refine Finding.succeeds_judgeOrFail_iff.2 ?_
    intro p hp
    exact (succeeds_parentFor (mem_places_of_mem_placesOf hp) "tag").bind fun _ _ => succeeds_ok _
  exact (hparts "dt").bind fun _ _ => (hparts "dd").bind fun _ _ => succeeds_ok _

/-! ## Links -/

theorem succeeds_mailtoFindings (p : Place) : Succeeds (mailtoFindings p) := by
  rw [mailtoFindings]
  split
  · exact succeeds_ok []
  · split
    · refine (succeeds_map_iff _).2 (succeeds_mapM_iff.2 ?_)
      intro email _
      exact (succeeds_map_iff _).2 (Email.succeeds_isValid email)
    · exact succeeds_ok []

theorem succeeds_mailtoLinksAreValid (s : Settings) :
    Succeeds (mailtoLinksAreValid.check s d) :=
  (succeeds_map_iff _).2 (succeeds_mapM_iff.2 fun p _ => succeeds_mailtoFindings p)

theorem succeeds_judgeNumber (scheme : String) (p : Place) :
    Succeeds (judgeNumber .packaged scheme p) := by
  rw [judgeNumber]
  split
  · exact succeeds_ok none
  · split
    · exact (succeeds_map_iff _).2 (Phone.succeeds_isValid _)
    · exact succeeds_ok none

theorem succeeds_numberLinks (name scheme summary : String) :
    Succeeds ((numberLinks name scheme summary).check .packaged d) :=
  Finding.succeeds_judgeOrFail_iff.2 fun p _ => succeeds_judgeNumber scheme p

/-! ## Viewports and languages -/

theorem succeeds_viewportAllowsZoom : Succeeds (viewportAllowsZoom.check .packaged d) := by
  refine Finding.succeeds_judgeOrFail_iff.2 ?_
  intro p _
  rw [judgeViewport]
  split
  · exact (succeeds_map_iff _).2 (Viewport.succeeds_restrictions _)
  · exact succeeds_ok none

theorem succeeds_someRightToLeft (enclosing : List Located) :
    Succeeds (someRightToLeft .packaged enclosing) := by
  induction enclosing with
  | nil => exact succeeds_ok false
  | cons q outer ih =>
    refine (Language.succeeds_isRightToLeft _).bind ?_
    intro found _
    cases found with
    | true => exact succeeds_ok true
    | false => exact ih

theorem succeeds_dirMatchesLang : Succeeds (dirMatchesLang.check .packaged d) := by
  have hown : Succeeds (Finding.judgeOrFail (judgeOwnDirection .packaged) d.places) :=
    Finding.succeeds_judgeOrFail_iff.2 fun p _ =>
      (succeeds_map_iff _).2 (Language.succeeds_isRightToLeft _)
  have hchanged : Succeeds (Finding.judgeOrFail (judgeChangedLanguage .packaged) d.places) := by
    refine Finding.succeeds_judgeOrFail_iff.2 ?_
    intro p _
    rw [judgeChangedLanguage]
    split
    · split
      · exact succeeds_ok none
      · exact (succeeds_map_iff _).2 (succeeds_someRightToLeft _)
    · exact succeeds_ok none
  have hrunning : Succeeds (Finding.judgeOrFail (judgeDirection .packaged) d.places) := by
    refine Finding.succeeds_judgeOrFail_iff.2 ?_
    intro p _
    rw [judgeDirection]
    split
    · exact (succeeds_map_iff _).2 (Language.succeeds_isRightToLeft _)
    · exact succeeds_ok none
  exact hown.bind fun _ _ => hchanged.bind fun _ _ => hrunning.bind fun _ _ => succeeds_ok _

end Rules

end MarkupAudit
