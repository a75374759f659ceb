import MarkupAudit.Proofs.Document.Ancestry
import MarkupAudit.Proofs.Rule.Grounded
import MarkupAudit.Proofs.Rule.Subjects
import Mathlib.Data.List.Flatten
import Mathlib.Data.List.Sort

/-!
# Checks that follow the document

A check follows the document if what it finds is about elements in document order, about each at
most once. A judgement on some elements follows the document as soon as these are a part of it, and
what is said of the first child of some elements follows it because a first child comes right behind
its parent.

Main statements: which elements a rule on some tags tells of (`Rule.exists_run_onTags`), how a check
that follows the document is made of its parts (`InDocumentOrder.judge`,
`Rule.InDocumentOrder.judgeOrFail`), and one lemma for each check that is more than a judgement on
all elements or on the elements with some tags.
-/

namespace MarkupAudit

/-! ## Elements told of -/

/-- The elements that the findings are about, in order. -/
def Finding.places (findings : List Finding) : List Place :=
  findings.filterMap Finding.subject

/-- The elements that the violations refer to, in order. -/
def RuleResult.places (result : RuleResult) : List Place :=
  result.violations.filterMap (·.subject)

/-- The findings of a check are about elements in document order, about each at most once. -/
def InDocumentOrder (find : Document → List Finding) : Prop :=
  ∀ d, (Finding.places (find d)).Sublist d.places

/-- What the rule finds, if its check succeeds, is about elements in document order, about each at
most once. -/
def Rule.InDocumentOrder (rule : Rule) : Prop :=
  ∀ s d findings, rule.check s d = .ok findings → (Finding.places findings).Sublist d.places

namespace Finding

theorem places_judge (judgement : Place → Option String) (ps : List Place) :
    places (judge judgement ps) = ps.filter fun p => (judgement p).isSome := by
  have hsubjects := congrArg (List.filterMap id) (subjects_judge judgement ps)
  simpa [places, List.filterMap_map, Function.comp_def] using hsubjects

theorem places_flatMap {α : Type} (find : α → List Finding) (items : List α) :
    places (items.flatMap find) = items.flatMap fun a => places (find a) :=
  List.filterMap_flatMap

theorem places_ite_about (condition : Prop) [Decidable condition] (p : Place) (message : String) :
    (places (if condition then [about p message] else [])).Sublist [p] := by
  split
  · exact List.Sublist.refl _
  · exact List.nil_sublist _

end Finding

theorem RuleResult.places_eq {result : RuleResult} {name : String} {findings : List Finding}
    (hviolations : result.violations = findings.map (Violation.ofFinding name)) :
    result.places = Finding.places findings := by
  rw [places, hviolations, List.filterMap_map]
  rfl

/-- A rule that judges the elements with some tags tells of those of them that it objects to. -/
theorem Rule.exists_run_onTags {rule : Rule} {s : Settings} {d : Document} {tags : List String}
    {judgement : Place → Option String} (hplain : rule.HasPlainHeader)
    (hcheck : rule.check s d = .ok (Rule.onTags tags judgement d)) :
    ∃ result, rule.run s d = .ok result ∧ ∀ p, p ∈ result.places ↔
      p ∈ d.places ∧ p.element.tag ∈ tags ∧ (judgement p).isSome = true := by
  rcases Rule.exists_run hplain hcheck with ⟨result, hrun, -, hviolations⟩
  refine ⟨result, hrun, fun p => ?_⟩
  rw [RuleResult.places_eq hviolations, Rule.onTags, Finding.places_judge, Document.placesOf,
    List.mem_filter, List.mem_filter, List.contains_iff_mem, and_assoc]

/-! ## Parts of documents -/

theorem Document.placesOf_sublist (d : Document) (tags : List String) :
    (d.placesOf tags).Sublist d.places :=
  List.filter_sublist

theorem Node.position_of_head?_topPlaces {enclosing : List Located} {position : Nat}
    {nodes : List Node} {p : Place} (hp : (topPlaces enclosing position nodes).head? = some p) :
    p.position = position := by
  induction nodes with
  | nil => cases hp
  | cons node rest ih =>
    cases node with
    | text content => exact ih hp
    | element tag attributes children => exact (Option.some.inj hp) ▸ rfl

theorem Place.position_of_firstChild? {p q : Place} (hq : p.firstChild? = some q) :
    q.position = p.position + 1 :=
  Node.position_of_head?_topPlaces hq

/-- Elements of the document in increasing order are a part of it. -/
theorem Document.sublist_places {d : Document} {ps : List Place} (hps : ps ⊆ d.places)
    (hordered : ps.Pairwise fun p q => p.position < q.position) : ps.Sublist d.places := by
  have hnodup : ps.Nodup := hordered.imp fun hlt => ne_of_apply_ne Place.position (Nat.ne_of_lt hlt)
  have hantisymm : Std.Antisymm fun p q : Place => p.position < q.position :=
    ⟨fun _ _ hlt hgt => absurd hlt (Nat.lt_asymm hgt)⟩
  exact List.sublist_of_subperm_of_pairwise (List.subperm_of_subset hnodup hps) hordered
    (pairwise_places d)

/-! ## Parts of checks -/

namespace InDocumentOrder

variable {judgement : Document → Place → Option String} {select : Document → List Place}

theorem judge (hselect : ∀ d, (select d).Sublist d.places) :
    InDocumentOrder fun d => Finding.judge (judgement d) (select d) := by
  intro d
  rw [Finding.places_judge]
  exact List.filter_sublist.trans (hselect d)

theorem onEvery {judgement : Place → Option String} : InDocumentOrder (Rule.onEvery judgement) :=
  judge fun _ => List.Sublist.refl _

theorem onTags {tags : List String} {judgement : Place → Option String} :
    InDocumentOrder (Rule.onTags tags judgement) :=
  judge fun d => d.placesOf_sublist tags

end InDocumentOrder

namespace Rule.InDocumentOrder

theorem listing {name summary : String} {category : Category} {find : Document → List Finding}
    (h : MarkupAudit.InDocumentOrder find) :
    (Rule.listing name category summary find).InDocumentOrder := by
  intro _ d findings hcheck
  cases hcheck
  exact h d

theorem telling {name : String} {category : Category} {find : Document → List Finding}
    (h : MarkupAudit.InDocumentOrder find) : (Rule.telling name category find).InDocumentOrder := by
  intro _ d findings hcheck
  cases hcheck
  exact h d

theorem judgeOrFail {rule : Rule} {judgement : Settings → Place → Except Fault (Option String)}
    {select : Document → List Place}
    (hcheck : ∀ s d, rule.check s d = Finding.judgeOrFail (judgement s) (select d))
    (hselect : ∀ d, (select d).Sublist d.places) : rule.InDocumentOrder := by
  intro s d findings hfindings
  rw [hcheck] at hfindings
  rcases Finding.exists_judge_of_judgeOrFail hfindings with ⟨verdict, -, rfl⟩
  rw [Finding.places_judge]
  exact List.filter_sublist.trans (hselect d)

end Rule.InDocumentOrder

/-! ## Checks that do more than judge single elements -/

namespace Rules

open Rule

theorem inDocumentOrder_onlyOneVisibleMain : onlyOneVisibleMain.InDocumentOrder :=
  .listing (.judge fun d => (List.drop_sublist _ _).trans
    (List.filter_sublist.trans (d.placesOf_sublist _)))

theorem inDocumentOrder_numberLinks (name scheme summary : String) :
    (numberLinks name scheme summary).InDocumentOrder :=
  .judgeOrFail (fun _ _ => rfl) fun _ => List.Sublist.refl _

theorem inDocumentOrder_roleRequires (name role summary : String) (required : List String) :
    (roleRequires name role summary required).InDocumentOrder :=
  .listing .onEvery

theorem inDocumentOrder_radiosInsideFieldset : radiosInsideFieldset.InDocumentOrder :=
  .listing (.judge fun d => List.filter_sublist.trans (d.placesOf_sublist _))

theorem inDocumentOrder_tablesHaveThead : tablesHaveThead.InDocumentOrder :=
  .telling (.judge fun d => List.filter_sublist.trans (d.placesOf_sublist _))

/-- A document without a title is spoken of as a whole, else the titles are judged. -/
theorem inDocumentOrder_titleNotEmpty : titleNotEmpty.InDocumentOrder := by
  refine .listing fun d => ?_
  cases htitles : d.placesOf ["title"] with
  | nil => exact List.nil_sublist _
  | cons title others =>
    rw [Finding.places_judge]
    exact List.filter_sublist.trans (htitles ▸ d.placesOf_sublist ["title"])

/-- First children come right behind their parents, so they are ordered like them. -/
theorem inDocumentOrder_charsetIsFirst : charsetIsFirst.InDocumentOrder := by
  refine .listing fun d => ?_
  have hfirst : ∀ {head p : Place}, (otherFirstDeclaration? head).bind Finding.subject = some p →
      head.firstChild? = some p := by
    intro head p hp
    rw [otherFirstDeclaration?] at hp
    cases hchild : head.firstChild? with
    | none => simp [hchild] at hp
    | some first =>
      rw [hchild] at hp
      dsimp only at hp
      split at hp
      · cases hp
      · exact hp
  have hplaces : Finding.places ((d.placesOf ["head"]).filterMap otherFirstDeclaration?) =
      (d.placesOf ["head"]).filterMap fun head =>
        (otherFirstDeclaration? head).bind Finding.subject :=
    List.filterMap_filterMap
  rw [hplaces]
  refine Document.sublist_places (fun p hp => ?_) (List.pairwise_filterMap.2 ?_)
  · rcases List.mem_filterMap.1 hp with ⟨head, hhead, hp⟩
    exact Document.mem_places_of_mem_children (d.placesOf_subset _ hhead)
      (Place.mem_children_of_firstChild? (hfirst hp))
  · refine ((Document.pairwise_places d).sublist (d.placesOf_sublist _)).imp ?_
    intro head head' hlt p hp p' hp'
    rw [Place.position_of_firstChild? (hfirst hp), Place.position_of_firstChild? (hfirst hp')]
    exact Nat.add_lt_add_right hlt 1

/-- Only a part of the document is looked at. -/
theorem inDocumentOrder_noEmptyElements : noEmptyElements.InDocumentOrder :=
  .telling (.judge fun d => Document.sublist_places (descendants_inspectedScope_subset d)
    (Node.pairwise_placesAll _ _ _))

/-- A label without controls does not have several, so each is told of at most once. -/
theorem inDocumentOrder_labelsHaveControl : labelsHaveControl.InDocumentOrder := by
  refine .telling fun d => ?_
  have honce : ∀ label ∈ d.placesOf ["label"],
      (Finding.places (labelFindings label)).Sublist [label] := by
    intro label _
    rw [labelFindings]
    cases controlsIn label with
    | nil =>
      have hnotSeveral : ¬ 1 < ([] : List Place).length := Nat.not_lt_zero 1
      rw [if_neg hnotSeveral, List.append_nil]
      exact Finding.places_ite_about _ _ _
    | cons control others =>
      have hnotMissing :
          ¬ (!label.element.hasAttr "for" && (control :: others).isEmpty) = true := by
        simp
      rw [if_neg hnotMissing, List.nil_append]
      exact Finding.places_ite_about _ _ _
  rw [Finding.places_flatMap]
  refine List.Sublist.trans ?_ (d.placesOf_sublist ["label"])
  simpa using List.Sublist.flatMap_right _ honce

end Rules

end MarkupAudit
