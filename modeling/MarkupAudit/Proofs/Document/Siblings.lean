import MarkupAudit.Document.Place

/-!
# Elements among their siblings

Every element of a document has a parent, the document itself for those at the top, and it is one of
the children of that parent. So the search for an element among its siblings finds it, and going
back from sibling to sibling comes to an end.

Main statements: `Document.exists_parent`, `Document.exists_index` and, for the search that goes
back, `Place.searchBack_of_index`.
-/

namespace MarkupAudit

namespace Place

/-- The place is one of the element children of what encloses it. -/
def IsChild (p : Place) : Prop :=
  ∃ parent, p.parent? = some parent ∧ p ∈ parent.children

end Place

namespace Node

theorem enclosing_of_mem_topPlaces {enclosing : List Located} {position : Nat} {nodes : List Node}
    {p : Place} (hp : p ∈ topPlaces enclosing position nodes) : p.enclosing = enclosing := by
  induction nodes generalizing position with
  | nil => cases hp
  | cons node rest ih =>
    cases node with
    | text content => exact ih hp
    | element tag attributes children =>
      rcases List.mem_cons.1 hp with rfl | hrest
      · rfl
      · exact ih hrest

theorem topPlaces_cons (enclosing : List Located) (position : Nat) (node : Node)
    (rest : List Node) :
    topPlaces enclosing position (node :: rest) =
      topPlaces enclosing position [node] ++
        topPlaces enclosing (position + node.elementCount) rest := by
  cases node <;> simp [topPlaces, elementCount]

theorem isChild_of_mem_topPlaces (parent : Place) {p : Place}
    (hp : p ∈ topPlaces parent.scope (parent.position + 1) parent.element.children) :
    p.IsChild := by
  refine ⟨parent, ?_, hp⟩
  rw [Place.parent?, enclosing_of_mem_topPlaces hp]
  rfl

mutual

theorem isChild_of_mem_places {enclosing : List Located} {position : Nat} (node : Node)
    (htop : ∀ p ∈ topPlaces enclosing position [node], p.IsChild) {p : Place}
    (hp : p ∈ node.places enclosing position) : p.IsChild := by
  cases node with
  | text content => cases hp
  | element tag attributes children =>
    rcases List.mem_cons.1 hp with rfl | hinner
    · exact htop _ List.mem_cons_self
    · refine isChild_of_mem_placesAll children ?_ hinner
      intro q hq
      exact isChild_of_mem_topPlaces ⟨position, ⟨tag, attributes, children⟩, enclosing⟩ hq

/-- When the topmost places are children of what encloses them, so are all further in. -/
theorem isChild_of_mem_placesAll {enclosing : List Located} {position : Nat} (nodes : List Node)
    (htop : ∀ p ∈ topPlaces enclosing position nodes, p.IsChild) {p : Place}
    (hp : p ∈ placesAll enclosing position nodes) : p.IsChild := by
  cases nodes with
  | nil => cases hp
  | cons node rest =>
    rw [topPlaces_cons] at htop
    rcases List.mem_append.1 hp with hnode | hrest
    · exact isChild_of_mem_places node (fun p hp => htop p (List.mem_append_left _ hp)) hnode
    · exact isChild_of_mem_placesAll rest (fun p hp => htop p (List.mem_append_right _ hp)) hrest

end

end Node

namespace Place

variable {p q parent : Place}

/-! ## The children of a parent as siblings -/

theorem parent?_of_mem_children (hq : q ∈ parent.children) : q.parent? = some parent := by
  rw [parent?, Node.enclosing_of_mem_topPlaces hq]
  rfl

theorem parentFor_of_mem_children (hq : q ∈ parent.children) (operation : String) :
    q.parentFor operation = .ok parent := by
  rw [parentFor, parent?_of_mem_children hq]

theorem siblings_of_mem_children (hq : q ∈ parent.children) : q.siblings = parent.children := by
  rw [siblings, parent?_of_mem_children hq]

theorem siblings_of_mem_siblings (hq : q ∈ p.siblings) : q.siblings = p.siblings := by
  cases hparent : p.parent? with
  | some parent =>
    have hsiblings : p.siblings = parent.children := by rw [siblings, hparent]
    rw [hsiblings] at hq ⊢
    exact siblings_of_mem_children hq
  | none =>
    have hsiblings : p.siblings = [p] := by rw [siblings, hparent]
    rw [hsiblings] at hq
    rw [List.mem_singleton.1 hq]

/-! ## Places among siblings -/

/-- The search for a place among its siblings finds it where it stands. -/
theorem index_of_getElem? {i : Nat} (hq : p.siblings[i]? = some q) : q.index = .ok i := by
  rcases List.getElem?_eq_some_iff.1 hq with ⟨hi, rfl⟩
  have hfound : p.siblings.findIdx? p.siblings[i].same = some i := by
    refine List.findIdx?_eq_some_iff_getElem.2 ⟨hi, by simp [same], ?_⟩
    intro j hji
    have hbefore := List.pairwise_iff_getElem.1 p.pairwise_siblings j i (by omega) hi hji
    simp only [same, beq_iff_eq]
    omega
  rw [index, siblings_of_mem_siblings (List.getElem_mem hi), hfound]

theorem lt_length_of_index {i : Nat} (hi : p.index = .ok i) : i < p.siblings.length := by
  rw [index] at hi
  split at hi
  · next hfound =>
    cases hi
    exact (List.findIdx?_eq_some_iff_getElem.1 hfound).1
  · cases hi

theorem previous_of_index {i : Nat} (hi : p.index = .ok i) :
    p.previous = .ok (p.siblings.take i).getLast? := by
  rw [previous, earlier, hi]
  rfl

theorem next_of_index {i : Nat} (hi : p.index = .ok i) : p.next = .ok p.siblings[i + 1]? := by
  rw [next, hi]
  rfl

/-! ## Going back -/

section

variable {test : Place → Bool}

theorem searchBack_of_first (hfirst : p.previous = .ok none) : p.searchBack test = .ok none := by
  rw [searchBack]
  split <;> simp_all

theorem searchBack_of_previous (hprevious : p.previous = .ok (some q)) :
    p.searchBack test = if test q then .ok (some q) else q.searchBack test := by
  rw [searchBack]
  split <;> simp_all

theorem searchBack_of_fault {fault : Fault} (hfault : p.previous = .error fault) :
    p.searchBack test = .error fault := by
  rw [searchBack]
  split <;> simp_all

/-- Going back from a place comes to an end, at the last of the siblings before it that passes the
test if there is one. -/
theorem searchBack_of_index {i : Nat} (hi : p.index = .ok i) :
    p.searchBack test = .ok ((p.siblings.take i).reverse.find? test) := by
  have hprevious := previous_of_index hi
  -- One step back there is one sibling less before the place.
  induction i generalizing p with
  | zero => exact searchBack_of_first hprevious
  | succ i ih =>
    have hlt : i < p.siblings.length := Nat.lt_of_succ_lt (lt_length_of_index hi)
    have htake : p.siblings.take (i + 1) = p.siblings.take i ++ [p.siblings[i]] :=
      List.take_succ_eq_append_getElem hlt
    have hback : p.siblings[i].index = .ok i := index_of_getElem? (List.getElem?_eq_getElem hlt)
    have hsiblings : p.siblings[i].siblings = p.siblings :=
      siblings_of_mem_siblings (List.getElem_mem hlt)
    have hrest := ih hback (previous_of_index hback)
    rw [htake, List.getLast?_concat] at hprevious
    rw [searchBack_of_previous hprevious, hrest, hsiblings, htake, List.reverse_concat,
      List.find?_cons]
    cases test p.siblings[i] <;> rfl

end

theorem searchBack_eq (test : Place → Bool) (p : Place) :
    p.searchBack test = p.earlier.map fun before => before.reverse.find? test := by
  cases hi : p.index with
  | ok i =>
    rw [searchBack_of_index hi, earlier, hi]
    rfl
  | error fault =>
    have hprevious : p.previous = .error fault := by
      rw [previous, earlier, hi]
      rfl
    rw [searchBack_of_fault hprevious, earlier, hi]
    rfl

end Place

namespace Document

variable {d : Document} {p : Place}

theorem exists_parent (hp : p ∈ d.places) : p.IsChild :=
  Node.isChild_of_mem_placesAll d.nodes
    (fun _ hq => Node.isChild_of_mem_topPlaces d.rootPlace hq) hp

theorem exists_index (hp : p ∈ d.places) : ∃ i, p.index = .ok i := by
  rcases exists_parent hp with ⟨parent, -, hchild⟩
  have hsibling : p ∈ p.siblings := by rwa [Place.siblings_of_mem_children hchild]
  rcases List.getElem?_of_mem hsibling with ⟨i, hi⟩
  exact ⟨i, Place.index_of_getElem? hi⟩

end Document

end MarkupAudit
