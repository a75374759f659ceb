import MarkupAudit.Proofs.Document.Siblings

/-!
# Elements inside elements of a document

The elements inside an element of a document are elements of the document, and so is the parent of
an element unless it stands for the document. So what is reached from an element of the document
through children, through parents and then among their children is an element of the document too.

Main statements: `Document.mem_places_of_mem_descendants`, `Document.mem_places_of_mem_siblings` and
`Document.not_same_rootPlace`, which tells the elements from the document itself.
-/

namespace MarkupAudit

namespace Node

theorem mem_placesAll_of_mem_topPlaces {enclosing : List Located} {position : Nat}
    {nodes : List Node} {p : Place} (hp : p ∈ topPlaces enclosing position nodes) :
    p ∈ placesAll enclosing position nodes := by
  induction nodes generalizing position with
  | nil => cases hp
  | cons node rest ih =>
    rw [topPlaces_cons] at hp
    rcases List.mem_append.1 hp with hnode | hrest
    · refine List.mem_append_left _ ?_
      cases node with
      | text content => cases hnode
      | element tag attributes children =>
        rcases List.mem_singleton.1 hnode with rfl
        exact List.mem_cons_self
    · exact List.mem_append_right _ (ih hrest)

mutual

theorem mem_places_of_mem_descendants {enclosing : List Located} {position : Nat} (node : Node)
    {p q : Place} (hp : p ∈ node.places enclosing position) (hq : q ∈ p.descendants) :
    q ∈ node.places enclosing position := by
  cases node with
  | text content => cases hp
  | element tag attributes children =>
    rcases List.mem_cons.1 hp with rfl | hinner
    · exact List.mem_cons_of_mem _ hq
    · exact List.mem_cons_of_mem _ (mem_placesAll_of_mem_descendants children hinner hq)

/-- The places inside a place of some nodes are places of these nodes. -/
theorem mem_placesAll_of_mem_descendants {enclosing : List Located} {position : Nat}
    (nodes : List Node) {p q : Place} (hp : p ∈ placesAll enclosing position nodes)
    (hq : q ∈ p.descendants) : q ∈ placesAll enclosing position nodes := by
  cases nodes with
  | nil => cases hp
  | cons node rest =>
    rcases List.mem_append.1 hp with hnode | hrest
    · exact List.mem_append_left _ (mem_places_of_mem_descendants node hnode hq)
    · exact List.mem_append_right _ (mem_placesAll_of_mem_descendants rest hrest hq)

end

mutual

theorem parent_mem_places {enclosing : List Located} {position : Nat} (node : Node)
    {p parent : Place} (hp : p ∈ node.places enclosing position)
    (hparent : p.parent? = some parent) :
    p.enclosing = enclosing ∨ parent ∈ node.places enclosing position := by
  cases node with
  | text content => cases hp
  | element tag attributes children =>
    rcases List.mem_cons.1 hp with rfl | hinner
    · exact Or.inl rfl
    · refine Or.inr ?_
      rcases parent_mem_placesAll children hinner hparent with htop | hfurther
      -- A place at the top of the children has the element itself as its parent.
      · rw [Place.parent?, htop] at hparent
        cases hparent
        exact List.mem_cons_self
      · exact List.mem_cons_of_mem _ hfurther

/-- A place of some nodes stands at their top, or its parent is a place of these nodes. -/
theorem parent_mem_placesAll {enclosing : List Located} {position : Nat} (nodes : List Node)
    {p parent : Place} (hp : p ∈ placesAll enclosing position nodes)
    (hparent : p.parent? = some parent) :
    p.enclosing = enclosing ∨ parent ∈ placesAll enclosing position nodes := by
  cases nodes with
  | nil => cases hp
  | cons node rest =>
    rcases List.mem_append.1 hp with hnode | hrest
    · exact (parent_mem_places node hnode hparent).imp_right (List.mem_append_left _)
    · exact (parent_mem_placesAll rest hrest hparent).imp_right (List.mem_append_right _)

end

end Node

namespace Place

variable {p q : Place}

theorem mem_descendants_of_mem_children (hq : q ∈ p.children) : q ∈ p.descendants :=
  Node.mem_placesAll_of_mem_topPlaces hq

theorem mem_children_of_firstChild? (hq : p.firstChild? = some q) : q ∈ p.children :=
  List.mem_of_mem_head? hq

/-- The sibling right behind a place is one of its siblings. -/
theorem mem_siblings_of_next (hq : p.next = .ok (some q)) : q ∈ p.siblings := by
  rw [next] at hq
  cases hindex : p.index with
  | error fault =>
    rw [hindex] at hq
    cases hq
  | ok i =>
    have hsibling : p.siblings[i + 1]? = some q := by
      simpa [hindex, Except.map] using hq
    exact List.mem_of_getElem? hsibling

end Place

namespace Document

variable {d : Document} {p q : Place}

theorem mem_places_of_mem_descendants (hp : p ∈ d.places) (hq : q ∈ p.descendants) :
    q ∈ d.places :=
  Node.mem_placesAll_of_mem_descendants d.nodes hp hq

theorem mem_places_of_mem_children (hp : p ∈ d.places) (hq : q ∈ p.children) : q ∈ d.places :=
  mem_places_of_mem_descendants hp (Place.mem_descendants_of_mem_children hq)

theorem parent_eq_or_mem_places {parent : Place} (hp : p ∈ d.places)
    (hparent : p.parent? = some parent) : parent = d.rootPlace ∨ parent ∈ d.places := by
  rcases Node.parent_mem_placesAll d.nodes hp hparent with htop | hinner
  · refine Or.inl ?_
    rw [Place.parent?, htop] at hparent
    exact (Option.some.inj hparent).symm
  · exact Or.inr hinner

theorem mem_places_of_mem_siblings (hp : p ∈ d.places) (hq : q ∈ p.siblings) : q ∈ d.places := by
  rcases exists_parent hp with ⟨parent, hparent, -⟩
  have hchild : q ∈ parent.children := by simpa [Place.siblings, hparent] using hq
  rcases parent_eq_or_mem_places hp hparent with rfl | hplace
  · exact Place.mem_descendants_of_mem_children hchild
  · exact mem_places_of_mem_children hplace hchild

/-- No element of a document is the document itself, which comes before all of them. -/
theorem not_same_rootPlace (hp : p ∈ d.places) : p.same d.rootPlace = false := by
  have hposition : p.position ∈ List.range' 1 (Node.elementCountAll d.nodes) := by
    have hpositions := Node.positions_placesAll d.rootPlace.scope 1 d.nodes
    exact hpositions ▸ List.mem_map_of_mem hp
  have hbehind : 1 ≤ p.position := (List.mem_range'_1.1 hposition).1
  have hne : p.position ≠ d.rootPlace.position := Nat.ne_of_gt hbehind
  simpa [Place.same] using hne

end Document

end MarkupAudit
