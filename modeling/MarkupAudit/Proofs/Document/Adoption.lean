import MarkupAudit.Proofs.Data.Tally
import MarkupAudit.Proofs.Document.Neighbours
import MarkupAudit.Proofs.Document.Walk

/-!
# Parents and children

Every node of a document is adopted by one parent, the document or an element. The nodes with the
same parent are its children, in document order. So what is around an element is found by going up
from parent to parent, and what is inside it by going down through the children, and the two agree.

Main statements: each node is adopted by one of the parents (`Document.existsUnique_parent`), the
children of a parent are the nodes that it has adopted (`Document.adoptedBy_of_mem_parents`), and so
each node is once in one child list (`Document.flatMap_children_perm`); an element is adopted by the
parent that it has as a place (`Document.filterMap_adopted`), and going up from it passes the
elements that it is inside (`Document.exists_lineage`).
-/

namespace MarkupAudit

/-! ## Adopted nodes -/

/-- A node and the position of its parent, which is 0 for the document. -/
structure Adopted where
  parent : Nat
  node : Node

/-- An adopted element with the position of its parent. -/
def Adopted.element? (x : Adopted) : Option (Option Nat × Element) :=
  x.node.element?.map fun e => (some x.parent, e)

/-- What the parent at a position has adopted. -/
def adoptedBy (position : Nat) (nodes : List Adopted) : List Node :=
  (nodes.filter fun x => x.parent == position).map (·.node)

namespace Node

mutual

/-- A node that stands at a position and all nodes in it, in document order. -/
def adopted (parent position : Nat) : Node → List Adopted
  | .text content => [⟨parent, .text content⟩]
  | .element tag attributes children =>
    ⟨parent, .element tag attributes children⟩ :: adoptedAll position (position + 1) children

def adoptedAll (parent position : Nat) : List Node → List Adopted
  | [] => []
  | node :: rest =>
    node.adopted parent position ++ adoptedAll parent (position + node.elementCount) rest

end

end Node

/-- The texts and elements of a document with their parents, in document order. -/
def Document.adopted (d : Document) : List Adopted :=
  Node.adoptedAll 0 1 d.nodes

namespace Node

/-! ### How many they are -/

mutual

theorem length_adopted (parent position : Nat) (node : Node) :
    (node.adopted parent position).length = Walk.size node := by
  cases node with
  | text content => rfl
  | element tag attributes children => rw [adopted, List.length_cons, length_adoptedAll, Walk.size]

theorem length_adoptedAll (parent position : Nat) (nodes : List Node) :
    (adoptedAll parent position nodes).length = Walk.sizeAll nodes := by
  cases nodes with
  | nil => rfl
  | cons node rest =>
    rw [adoptedAll, List.length_append, length_adopted, length_adoptedAll, Walk.sizeAll]

end

mutual

theorem countP_adopted (parent position : Nat) (node : Node) :
    (node.adopted parent position).countP (·.node.isElement) = node.elementCount := by
  cases node with
  | text content => rfl
  | element tag attributes children =>
    rw [adopted, List.countP_cons_of_pos rfl, countP_adoptedAll, elementCount]

theorem countP_adoptedAll (parent position : Nat) (nodes : List Node) :
    (adoptedAll parent position nodes).countP (·.node.isElement) = elementCountAll nodes := by
  cases nodes with
  | nil => rfl
  | cons node rest =>
    rw [adoptedAll, List.countP_append, countP_adopted, countP_adoptedAll, elementCountAll]

end

/-! ### Their parents -/

mutual

theorem parent_of_mem_adopted {parent position : Nat} (node : Node) {x : Adopted}
    (hx : x ∈ node.adopted parent position) :
    x.parent = parent ∨ x.parent ∈ List.range' position node.elementCount := by
  cases node with
  | text content => exact .inl (congrArg Adopted.parent (List.mem_singleton.1 hx))
  | element tag attributes children =>
    rw [elementCount, List.range'_succ]
    rcases List.mem_cons.1 hx with rfl | hinner
    · exact .inl rfl
    · rcases parent_of_mem_adoptedAll children hinner with hself | hfurther
      · exact .inr (hself ▸ List.mem_cons_self)
      · exact .inr (List.mem_cons_of_mem _ hfurther)

/-- A node is adopted by the parent of all or by one of the elements. -/
theorem parent_of_mem_adoptedAll {parent position : Nat} (nodes : List Node) {x : Adopted}
    (hx : x ∈ adoptedAll parent position nodes) :
    x.parent = parent ∨ x.parent ∈ List.range' position (elementCountAll nodes) := by
  cases nodes with
  | nil => cases hx
  | cons node rest =>
    rw [elementCountAll, ← List.range'_append_1]
    rcases List.mem_append.1 hx with hnode | hrest
    · exact (parent_of_mem_adopted node hnode).imp_right (List.mem_append_left _)
    · exact (parent_of_mem_adoptedAll rest hrest).imp_right (List.mem_append_right _)

end

mutual

theorem filterMap_adopted {enclosing : List Located} {parent : Nat}
    (hparent : enclosing.head?.map (·.position) = some parent) (position : Nat) (node : Node) :
    (node.adopted parent position).filterMap Adopted.element? =
      (node.places enclosing position).map fun p =>
        (p.enclosing.head?.map (·.position), p.element) := by
  cases node with
  | text content => rfl
  | element tag attributes children =>
    have hown : Adopted.element? ⟨parent, .element tag attributes children⟩ =
        some (some parent, ⟨tag, attributes, children⟩) := rfl
    have hinside : (⟨position, ⟨tag, attributes, children⟩⟩ :: enclosing).head?.map
        Located.position = some position := rfl
    rw [adopted, places, List.filterMap_cons_some hown, List.map_cons,
      filterMap_adoptedAll hinside, hparent]

/-- An element among the nodes is adopted by the nearest element around it. -/
theorem filterMap_adoptedAll {enclosing : List Located} {parent : Nat}
    (hparent : enclosing.head?.map (·.position) = some parent) (position : Nat)
    (nodes : List Node) :
    (adoptedAll parent position nodes).filterMap Adopted.element? =
      (placesAll enclosing position nodes).map fun p =>
        (p.enclosing.head?.map (·.position), p.element) := by
  cases nodes with
  | nil => rfl
  | cons node rest =>
    rw [adoptedAll, placesAll, List.filterMap_append, List.map_append,
      filterMap_adopted hparent, filterMap_adoptedAll hparent]

end

end Node

/-! ## Children -/

theorem adoptedBy_append (position : Nat) (a b : List Adopted) :
    adoptedBy position (a ++ b) = adoptedBy position a ++ adoptedBy position b := by
  simp [adoptedBy]

theorem adoptedBy_cons_of_ne {position : Nat} {x : Adopted} (h : x.parent ≠ position)
    (nodes : List Adopted) : adoptedBy position (x :: nodes) = adoptedBy position nodes := by
  simp [adoptedBy, h]

/-- Nodes that are adopted by one parent or from inside a range have no other parents. -/
theorem adoptedBy_eq_nil {parent position count other : Nat} {nodes : List Adopted}
    (hparents : ∀ x ∈ nodes, x.parent = parent ∨ x.parent ∈ List.range' position count)
    (hne : parent ≠ other) (houtside : other ∉ List.range' position count) :
    adoptedBy other nodes = [] := by
  have hother : ∀ x ∈ nodes, x.parent ≠ other := by
    intro x hx
    rcases hparents x hx with hparent | hinside
    · exact hparent ▸ hne
    · rintro rfl
      exact houtside hinside
  simpa [adoptedBy] using hother

namespace Node

/-- A parent in front of the nodes adopts them and nothing that is in them. -/
theorem adoptedBy_parent {parent position : Nat} (hbefore : parent < position)
    (nodes : List Node) : adoptedBy parent (adoptedAll parent position nodes) = nodes := by
  induction nodes generalizing position with
  | nil => rfl
  | cons node rest ih =>
    rw [adoptedAll, adoptedBy_append, ih (Nat.lt_add_right _ hbefore)]
    cases node with
    | text content => simp [adopted, adoptedBy]
    | element tag attributes children =>
      have hinside : adoptedBy parent (adoptedAll position (position + 1) children) = [] := by
        refine adoptedBy_eq_nil (fun _ => parent_of_mem_adoptedAll children)
          (Nat.ne_of_gt hbefore) ?_
        simp only [List.mem_range'_1]
        omega
      simpa [adopted, adoptedBy] using hinside

mutual

theorem adoptedBy_of_mem_places {enclosing : List Located} {parent position : Nat}
    (hbefore : parent < position) (node : Node) {p : Place}
    (hp : p ∈ node.places enclosing position) :
    adoptedBy p.position (node.adopted parent position) = p.element.children := by
  have hposition : p.position ∈ List.range' position node.elementCount :=
    positions_places enclosing position node ▸ List.mem_map_of_mem hp
  have hne : parent ≠ p.position := by
    have hbehind := (List.mem_range'_1.1 hposition).1
    omega
  cases node with
  | text content => cases hp
  | element tag attributes children =>
    rw [adopted, adoptedBy_cons_of_ne hne]
    rcases List.mem_cons.1 hp with rfl | hinner
    · exact adoptedBy_parent (Nat.lt_succ_self position) children
    · exact adoptedBy_of_mem_placesAll (Nat.lt_succ_self position) children hinner

/-- What an element among the nodes adopts are its children. -/
theorem adoptedBy_of_mem_placesAll {enclosing : List Located} {parent position : Nat}
    (hbefore : parent < position) (nodes : List Node) {p : Place}
    (hp : p ∈ placesAll enclosing position nodes) :
    adoptedBy p.position (adoptedAll parent position nodes) = p.element.children := by
  have hposition : p.position ∈ List.range' position (elementCountAll nodes) :=
    positions_placesAll enclosing position nodes ▸ List.mem_map_of_mem hp
  have hne : parent ≠ p.position := by
    have hbehind := (List.mem_range'_1.1 hposition).1
    omega
  cases nodes with
  | nil => cases hp
  | cons node rest =>
    have hlater : parent < position + node.elementCount := Nat.lt_add_right _ hbefore
    rw [adoptedAll, adoptedBy_append]
    -- The positions in the first node and in the others are different.
    rcases List.mem_append.1 hp with hnode | hrest
    · have hinside : p.position ∈ List.range' position node.elementCount :=
        positions_places enclosing position node ▸ List.mem_map_of_mem hnode
      rw [adoptedBy_of_mem_places hbefore node hnode,
        adoptedBy_eq_nil (fun _ => parent_of_mem_adoptedAll rest) hne, List.append_nil]
      simp only [List.mem_range'_1] at hinside ⊢
      omega
    · have hinside : p.position ∈
          List.range' (position + node.elementCount) (elementCountAll rest) :=
        positions_placesAll enclosing _ rest ▸ List.mem_map_of_mem hrest
      rw [adoptedBy_of_mem_placesAll hlater rest hrest,
        adoptedBy_eq_nil (fun _ => parent_of_mem_adopted node) hne, List.nil_append]
      simp only [List.mem_range'_1] at hinside ⊢
      omega

end

end Node

namespace Document

variable {d : Document} {p parent : Place}

theorem positions_parents (d : Document) :
    d.parents.map (·.position) = List.range (Node.elementCountAll d.nodes + 1) := by
  have hplaces : d.places.map (·.position) = List.range' 1 (Node.elementCountAll d.nodes) :=
    Node.positions_placesAll _ _ _
  rw [parents, List.map_cons, hplaces, List.range_eq_range', List.range'_succ]
  rfl

/-- The children of a parent are what it has adopted. -/
theorem adoptedBy_of_mem_parents (hparent : parent ∈ d.parents) :
    adoptedBy parent.position d.adopted = parent.element.children := by
  rcases List.mem_cons.1 hparent with rfl | hplace
  · exact Node.adoptedBy_parent Nat.zero_lt_one d.nodes
  · exact Node.adoptedBy_of_mem_placesAll Nat.zero_lt_one d.nodes hplace

theorem nodup_positions_parents (d : Document) : (d.parents.map (·.position)).Nodup :=
  positions_parents d ▸ List.nodup_range

theorem parent_mem_positions {x : Adopted} (hx : x ∈ d.adopted) :
    x.parent ∈ d.parents.map (·.position) := by
  rw [positions_parents, List.range_eq_range', List.range'_succ]
  rcases Node.parent_of_mem_adoptedAll d.nodes hx with hdocument | hinside
  · exact hdocument ▸ List.mem_cons_self
  · exact List.mem_cons_of_mem _ hinside

/-- Each node is adopted by one of the parents. -/
theorem existsUnique_parent {x : Adopted} (hx : x ∈ d.adopted) :
    ∃! parent, parent ∈ d.parents ∧ parent.position = x.parent := by
  rcases List.mem_map.1 (parent_mem_positions hx) with ⟨parent, hparent, hfound⟩
  refine ⟨parent, ⟨hparent, hfound⟩, ?_⟩
  rintro other ⟨hother, hsame⟩
  exact List.inj_on_of_nodup_map (nodup_positions_parents d) hother hparent
    (hsame.trans hfound.symm)

/-- The child lists of all parents hold each node once, with its parent. -/
theorem flatMap_children_perm (d : Document) :
    (d.parents.flatMap fun parent =>
      parent.element.children.map (Adopted.mk parent.position)).Perm d.adopted := by
  have hlist : ∀ parent ∈ d.parents, parent.element.children.map (Adopted.mk parent.position) =
      d.adopted.filter fun x => x.parent == parent.position := by
    intro parent hparent
    have hsame : ∀ x ∈ d.adopted.filter fun x => x.parent == parent.position,
        Adopted.mk parent.position x.node = x := by
      intro x hx
      rw [← beq_iff_eq.1 (List.mem_filter.1 hx).2]
    rw [← adoptedBy_of_mem_parents hparent, adoptedBy, List.map_map]
    exact (List.map_congr_left hsame).trans (List.map_id _)
  have hgrouped := Tally.flatMap_filter_perm Adopted.parent (nodup_positions_parents d)
    fun _ hx => parent_mem_positions hx
  rw [List.flatMap_map] at hgrouped
  rwa [List.flatMap_congr hlist]

/-- An element is adopted by the parent that it has as a place. -/
theorem filterMap_adopted (d : Document) :
    d.adopted.filterMap Adopted.element? =
      d.places.map fun p => (p.parent?.map (·.position), p.element) := by
  have hparent : ∀ p : Place, p.parent?.map (·.position) = p.enclosing.head?.map (·.position) := by
    intro p
    rw [Place.parent?]
    cases p.enclosing <;> rfl
  simp only [hparent]
  exact Node.filterMap_adoptedAll rfl 1 d.nodes

/-! ## Lineages -/

/-- Going up from an element passes the places of the chain, the nearest first. They are the
elements that the element is inside, and the document is none of them. -/
structure Lineage (d : Document) (p : Place) (chain : List Place) : Prop where
  ancestors : p.ancestors = chain.map Place.located
  nodup : chain.Nodup
  mem_iff : ∀ a, a ∈ chain ↔ a ∈ d.places ∧ p ∈ Walk.descendants a
  upwards : (p :: chain).IsChain fun inner outer =>
    inner.parent? = some outer ∧ inner ∈ Walk.descendants outer
  document : d.rootPlace.located ∉ p.ancestors

theorem located_mem_ancestors_iff {a : Place} (hp : p ∈ d.places) (ha : a ∈ d.places) :
    a.located ∈ p.ancestors ↔ p ∈ Walk.descendants a := by
  rw [mem_ancestors_iff hp, Walk.descendants_eq]
  constructor
  · rintro ⟨b, hb, hlocated, hinside⟩
    exact eq_of_located_eq hb ha hlocated ▸ hinside
  · intro hinside
    exact ⟨a, ha, rfl, hinside⟩

theorem exists_chain (hp : p ∈ d.places) :
    ∃ chain : List Place, p.ancestors = chain.map Place.located ∧ chain ⊆ d.places ∧
      (p :: chain).IsChain fun inner outer =>
        inner.parent? = some outer ∧ inner ∈ Walk.descendants outer := by
  -- On the way up: the nearest ancestor has the ones further out as its own.
  induction hancestors : p.ancestors generalizing p with
  | nil => exact ⟨[], rfl, List.nil_subset _, .singleton _⟩
  | cons e outer ih =>
    have hnearest : p.ancestors = [] ++ e :: outer := hancestors
    rcases exists_of_ancestors_eq hp hnearest with ⟨a, ha, rfl, houter, hinside⟩
    rcases ih ha houter with ⟨chain, hchain, hsub, hupwards⟩
    have hparent : p.parent? = some a := by
      have henclosing : p.enclosing = a.located :: a.enclosing := by
        rw [enclosing_eq hp, enclosing_eq ha, hancestors, houter, List.cons_append]
      rw [Place.parent?, henclosing]
      rfl
    refine ⟨a :: chain, by rw [List.map_cons, hchain], List.cons_subset.2 ⟨ha, hsub⟩, ?_⟩
    exact List.isChain_cons_cons.2 ⟨⟨hparent, by simpa using hinside⟩, hupwards⟩

theorem exists_lineage (hp : p ∈ d.places) : ∃ chain, d.Lineage p chain := by
  rcases exists_chain hp with ⟨chain, hancestors, hsub, hupwards⟩
  refine ⟨chain, hancestors, ?_, ?_, hupwards, ?_⟩
  · exact .of_map Place.located (hancestors ▸ nodup_ancestors hp)
  · intro a
    constructor
    · intro ha
      refine ⟨hsub ha, (located_mem_ancestors_iff hp (hsub ha)).1 ?_⟩
      exact hancestors ▸ List.mem_map_of_mem ha
    · rintro ⟨ha, hinside⟩
      have hmem := (located_mem_ancestors_iff hp ha).2 hinside
      rw [hancestors] at hmem
      rcases List.mem_map.1 hmem with ⟨b, hb, hlocated⟩
      exact eq_of_located_eq (hsub hb) ha hlocated ▸ hb
  · intro hroot
    rcases (mem_ancestors_iff hp).1 hroot with ⟨a, ha, hlocated, -⟩
    have hsame : a.same d.rootPlace = true :=
      beq_iff_eq.2 (congrArg Located.position hlocated)
    exact absurd hsame (by simp [not_same_rootPlace ha])

end Document

end MarkupAudit
