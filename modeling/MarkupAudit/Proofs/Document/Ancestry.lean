import MarkupAudit.Document.Query
import MarkupAudit.Proofs.Document.Descent
import Mathlib.Data.List.Nodup

/-!
# Ancestors and descendants

The ancestors of an element are found by going up from parent to parent, its descendants by a walk
through all that is inside it. The two agree: one element is an ancestor of another exactly if the
other is a descendant of the first. Elements are told by their positions, which grow in document
order and inwards.

Main statements: `Document.pairwise_places` and `Document.eq_of_position_eq` (positions tell
elements apart), `Document.exists_of_ancestors_eq` (an ancestor is an element of the document, with
what is further out as its own ancestors), `Document.mem_ancestors_iff` and
`Document.ancestors_perm` (the ancestors are the elements that hold the element),
`Place.nearest_of_ancestorOf?`.
-/

namespace MarkupAudit

namespace Node

/-! ## Positions -/

/-- The places of a list of nodes stand in document order. -/
theorem pairwise_placesAll (enclosing : List Located) (position : Nat) (nodes : List Node) :
    (placesAll enclosing position nodes).Pairwise fun p q => p.position < q.position := by
  have hpositions : ((placesAll enclosing position nodes).map (·.position)).Pairwise (· < ·) := by
    rw [positions_placesAll]
    exact List.pairwise_lt_range'
  exact List.pairwise_map.1 hpositions

/-! ## What encloses a place -/

mutual

theorem suffix_of_mem_places {enclosing : List Located} {position : Nat} (node : Node) {p : Place}
    (hp : p ∈ node.places enclosing position) : enclosing <:+ p.enclosing := by
  cases node with
  | text content => cases hp
  | element tag attributes children =>
    rcases List.mem_cons.1 hp with rfl | hinner
    · exact List.suffix_refl _
    · exact (List.suffix_cons _ _).trans (suffix_of_mem_placesAll children hinner)

/-- What encloses the nodes encloses all their places. -/
theorem suffix_of_mem_placesAll {enclosing : List Located} {position : Nat} (nodes : List Node)
    {p : Place} (hp : p ∈ placesAll enclosing position nodes) : enclosing <:+ p.enclosing := by
  cases nodes with
  | nil => cases hp
  | cons node rest =>
    rcases List.mem_append.1 hp with hnode | hrest
    · exact suffix_of_mem_places node hnode
    · exact suffix_of_mem_placesAll rest hrest

end

/-- Positions grow inwards. -/
def Nested (scope : List Located) : Prop :=
  scope.Pairwise fun inner outer => outer.position < inner.position

mutual

theorem nested_of_mem_places {enclosing : List Located} {position : Nat} (node : Node) {p : Place}
    (hnested : Nested enclosing) (hbefore : ∀ q ∈ enclosing, q.position < position)
    (hp : p ∈ node.places enclosing position) : Nested p.scope := by
  cases node with
  | text content => cases hp
  | element tag attributes children =>
    have hscope : Nested (⟨position, ⟨tag, attributes, children⟩⟩ :: enclosing) :=
      List.pairwise_cons.2 ⟨hbefore, hnested⟩
    rcases List.mem_cons.1 hp with rfl | hinner
    · exact hscope
    · refine nested_of_mem_placesAll children hscope ?_ hinner
      intro q hq
      rcases List.mem_cons.1 hq with rfl | houter
      · exact Nat.lt_succ_self _
      · exact Nat.lt_succ_of_lt (hbefore q houter)

/-- When the nodes stand behind all that encloses them, the positions around each place grow
inwards. -/
theorem nested_of_mem_placesAll {enclosing : List Located} {position : Nat} (nodes : List Node)
    {p : Place} (hnested : Nested enclosing) (hbefore : ∀ q ∈ enclosing, q.position < position)
    (hp : p ∈ placesAll enclosing position nodes) : Nested p.scope := by
  cases nodes with
  | nil => cases hp
  | cons node rest =>
    rcases List.mem_append.1 hp with hnode | hrest
    · exact nested_of_mem_places node hnested hbefore hnode
    · have hlater : ∀ q ∈ enclosing, q.position < position + node.elementCount :=
        fun q hq => Nat.lt_of_lt_of_le (hbefore q hq) (Nat.le_add_right _ _)
      exact nested_of_mem_placesAll rest hnested hlater hrest

end

end Node

namespace Place

/-- The place is found by the walk through what is inside the other one. -/
def holds (a p : Place) : Bool :=
  a.descendants.any p.same

/-- The ancestor has one of the tags, and none of the nearer ones has. -/
structure Nearest (p : Place) (tags : List String) (e : Located) : Prop where
  tag : e.element.tag ∈ tags
  nearer : ∃ inner outer, p.ancestors = inner ++ e :: outer ∧ ∀ q ∈ inner, q.element.tag ∉ tags

theorem nearest_of_ancestorOf? {p : Place} {tags : List String} {e : Located}
    (he : p.ancestorOf? tags = some e) : p.Nearest tags e := by
  rcases List.find?_eq_some_iff_append.1 he with ⟨htag, inner, outer, hancestors, hinner⟩
  exact ⟨by simpa using htag, inner, outer, hancestors, by simpa using hinner⟩

theorem mem_descendants_trans {a p q : Place} (hp : p ∈ a.descendants) (hq : q ∈ p.descendants) :
    q ∈ a.descendants :=
  Node.mem_placesAll_of_mem_descendants a.element.children hp hq

end Place

namespace Document

variable {d : Document} {p q a : Place}

/-! ## Elements told by their positions -/

/-- The elements of a document stand in document order. -/
theorem pairwise_places (d : Document) : d.places.Pairwise fun p q => p.position < q.position :=
  Node.pairwise_placesAll _ _ _

theorem nodup_positions (d : Document) : (d.places.map (·.position)).Nodup :=
  List.pairwise_map.2 ((pairwise_places d).imp Nat.ne_of_lt)

theorem eq_of_position_eq (hp : p ∈ d.places) (hq : q ∈ d.places)
    (hposition : p.position = q.position) : p = q :=
  List.inj_on_of_nodup_map (nodup_positions d) hp hq hposition

/-- Among elements of the document an element is found by its position. -/
theorem position_mem_map_iff {ps : List Place} (hps : ps ⊆ d.places) (hp : p ∈ d.places) :
    p.position ∈ ps.map (·.position) ↔ p ∈ ps := by
  rw [List.mem_map]
  constructor
  · rintro ⟨q, hq, hposition⟩
    exact eq_of_position_eq (hps hq) hp hposition ▸ hq
  · intro hmem
    exact ⟨p, hmem, rfl⟩

theorem eq_of_located_eq (hp : p ∈ d.places) (hq : q ∈ d.places)
    (hlocated : p.located = q.located) : p = q :=
  eq_of_position_eq hp hq (congrArg Located.position hlocated)

theorem same_iff_eq (hp : p ∈ d.places) (hq : q ∈ d.places) : p.same q = true ↔ p = q := by
  rw [Place.same, beq_iff_eq]
  exact ⟨eq_of_position_eq hp hq, congrArg Place.position⟩

theorem holds_iff (ha : a ∈ d.places) (hp : p ∈ d.places) :
    a.holds p = true ↔ p ∈ a.descendants := by
  rw [Place.holds, List.any_eq_true]
  constructor
  · rintro ⟨q, hq, hsame⟩
    rcases (same_iff_eq hp (mem_places_of_mem_descendants ha hq)).1 hsame with rfl
    exact hq
  · intro hinside
    exact ⟨p, hinside, (same_iff_eq hp hp).2 rfl⟩

/-! ## Ancestors as elements of the document -/

/-- The document is the outermost of what encloses an element, and the only one of it that is no
ancestor. -/
theorem enclosing_eq (hp : p ∈ d.places) : p.enclosing = p.ancestors ++ [d.rootPlace.located] := by
  have hsuffix : [d.rootPlace.located] <:+ p.enclosing := Node.suffix_of_mem_placesAll d.nodes hp
  rcases hsuffix with ⟨inner, hinner⟩
  simp [Place.ancestors, ← hinner]

/-- The parent of an element, unless it is the document, is an element that holds it. -/
theorem parent_of_enclosing_eq {outer : List Located} {e : Located} (hp : p ∈ d.places)
    (henclosing : p.enclosing = e :: outer) (houter : outer ≠ []) :
    ⟨e.position, e.element, outer⟩ ∈ d.places ∧
      p ∈ Place.descendants ⟨e.position, e.element, outer⟩ := by
  have hparent : p.parent? = some ⟨e.position, e.element, outer⟩ := by
    rw [Place.parent?, henclosing]
  rcases exists_parent hp with ⟨parent, hparent', hchild⟩
  rcases Option.some.inj (hparent.symm.trans hparent') with rfl
  rcases parent_eq_or_mem_places hp hparent with hroot | hplace
  · exact absurd (congrArg Place.enclosing hroot) houter
  · exact ⟨hplace, Place.mem_descendants_of_mem_children hchild⟩

/-- What encloses an element, the document apart, is an element that holds it. -/
theorem exists_of_enclosing_eq {inner outer : List Located} {e : Located} (hp : p ∈ d.places)
    (henclosing : p.enclosing = inner ++ e :: outer) (houter : outer ≠ []) :
    ⟨e.position, e.element, outer⟩ ∈ d.places ∧
      p ∈ Place.descendants ⟨e.position, e.element, outer⟩ := by
  -- On the way out: the parent comes first, and what is further out encloses the parent.
  induction inner generalizing p with
  | nil => exact parent_of_enclosing_eq hp henclosing houter
  | cons r inner ih =>
    rcases parent_of_enclosing_eq hp henclosing (by simp) with ⟨hparent, hchild⟩
    rcases ih hparent rfl with ⟨hplace, hinside⟩
    exact ⟨hplace, Place.mem_descendants_trans hinside hchild⟩

/-- An ancestor is an element of the document that has the ancestors further out as its own. -/
theorem exists_of_ancestors_eq {inner outer : List Located} {e : Located} (hp : p ∈ d.places)
    (hancestors : p.ancestors = inner ++ e :: outer) :
    ∃ a ∈ d.places, a.located = e ∧ a.ancestors = outer ∧ p ∈ a.descendants := by
  have henclosing : p.enclosing = inner ++ e :: (outer ++ [d.rootPlace.located]) := by
    rw [enclosing_eq hp, hancestors, List.append_assoc, List.cons_append]
  rcases exists_of_enclosing_eq hp henclosing (by simp) with ⟨hplace, hinside⟩
  exact ⟨_, hplace, rfl, by simp [Place.ancestors], hinside⟩

/-- What is inside an element has this element and its ancestors as its outer ancestors. -/
theorem suffix_ancestors (ha : a ∈ d.places) (hp : p ∈ a.descendants) :
    a.located :: a.ancestors <:+ p.ancestors := by
  -- Both chains end with the document, which is not counted among the ancestors.
  have hscope : a.scope <:+ p.enclosing := Node.suffix_of_mem_placesAll _ hp
  rw [Place.scope, enclosing_eq ha, enclosing_eq (mem_places_of_mem_descendants ha hp),
    ← List.cons_append] at hscope
  rcases hscope with ⟨inner, hinner⟩
  rw [← List.append_assoc] at hinner
  exact ⟨inner, List.append_cancel_right hinner⟩

/-- An element has another one among its ancestors exactly if it is inside it. -/
theorem mem_ancestors_iff {e : Located} (hp : p ∈ d.places) :
    e ∈ p.ancestors ↔ ∃ a ∈ d.places, a.located = e ∧ p ∈ a.descendants := by
  constructor
  · intro he
    rcases List.append_of_mem he with ⟨inner, outer, hancestors⟩
    rcases exists_of_ancestors_eq hp hancestors with ⟨a, ha, hlocated, -, hinside⟩
    exact ⟨a, ha, hlocated, hinside⟩
  · rintro ⟨a, ha, rfl, hinside⟩
    exact (suffix_ancestors ha hinside).subset List.mem_cons_self

theorem nodup_ancestors (hp : p ∈ d.places) : p.ancestors.Nodup := by
  have hscope : Node.Nested p.scope := by
    refine Node.nested_of_mem_placesAll d.nodes (List.pairwise_singleton _ _) ?_ hp
    intro q hq
    rcases List.mem_singleton.1 hq with rfl
    exact Nat.zero_lt_one
  have henclosing : p.enclosing.Nodup := by
    refine (List.pairwise_cons.1 hscope).2.imp ?_
    rintro inner outer hlt rfl
    exact Nat.lt_irrefl _ hlt
  exact henclosing.sublist (List.dropLast_sublist _)

/-- The ancestors of an element are the elements that hold it. -/
theorem ancestors_perm (hp : p ∈ d.places) :
    ((d.places.filter fun a => a.holds p).map Place.located).Perm p.ancestors := by
  have hnodup : ((d.places.filter fun a => a.holds p).map Place.located).Nodup := by
    refine List.Nodup.map_on ?_ ((List.Nodup.of_map _ (nodup_positions d)).filter _)
    intro a ha b hb hlocated
    exact eq_of_located_eq (List.mem_filter.1 ha).1 (List.mem_filter.1 hb).1 hlocated
  -- Neither list has duplicates, so it is enough that they have the same members.
  refine (List.perm_ext_iff_of_nodup hnodup (nodup_ancestors hp)).2 ?_
  intro e
  rw [mem_ancestors_iff hp, List.mem_map]
  constructor
  · rintro ⟨a, hmem, rfl⟩
    rcases List.mem_filter.1 hmem with ⟨ha, hholds⟩
    exact ⟨a, ha, rfl, (holds_iff ha hp).1 hholds⟩
  · rintro ⟨a, ha, rfl, hinside⟩
    exact ⟨a, List.mem_filter.2 ⟨ha, (holds_iff ha hp).2 hinside⟩, rfl⟩

end Document

end MarkupAudit
