import MarkupAudit.Document.Walk
import MarkupAudit.Proofs.Document.Ancestry
import Mathlib.Logic.Relation

/-!
# What walks find

The walks with an explicit stack come to an end and find what the recursive listings list: the
elements inside an element, each once and in document order, and the texts of a node. The elements
inside an element are those that are reached from it by going from parent to child, once or several
times.

Main statements: `Walk.descendants_eq`, `Walk.textContent_eq`, `Place.mem_descendants_iff_transGen`
and `walks_agree_with_recursion`.
-/

namespace MarkupAudit

open Relation

/-! ## The walks -/

namespace Walk

theorem run_elements (p : Place) : elements.run ⟨p.children, []⟩ = ⟨[], p.descendants⟩ := by
  have hlisting : ∀ q : Place, q :: q.descendants =
      elements.finds q ++ (elements.inside q).flatMap fun r => r :: r.descendants := by
    intro q
    rw [Place.descendants_eq_flatMap]
    rfl
  rw [elements.run_eq hlisting, List.nil_append, ← Place.descendants_eq_flatMap]

theorem run_texts (node : Node) : texts.run ⟨[node], []⟩ = ⟨[], node.texts⟩ := by
  have hlisting : ∀ other : Node, other.texts =
      texts.finds other ++ (texts.inside other).flatMap Node.texts := by
    intro other
    cases other with
    | text content => rfl
    | element tag attributes children => exact Node.textsAll_eq_flatMap children
  rw [texts.run_eq hlisting, List.nil_append, List.flatMap_singleton]

@[simp] theorem descendants_eq (p : Place) : descendants p = p.descendants := by
  rw [descendants, run_elements]

@[simp] theorem textContent_eq (node : Node) : textContent node = node.textContent := by
  cases node with
  | text content => rfl
  | element tag attributes children => rw [textContent, run_texts, Node.join_texts]

end Walk

/-! ## Elements inside an element -/

namespace Place

theorem extent_lt_of_mem_children {p q : Place} (hq : q ∈ p.children) :
    Walk.extent q < Walk.extent p :=
  calc
    Walk.extent q ≤ Walk.total Walk.extent p.children := Walk.le_total_of_mem hq
    _ < Walk.extent p := Walk.elements.lighter p

/-- The elements inside an element are reached from it by going from parent to child. -/
theorem mem_descendants_iff_transGen {p q : Place} :
    q ∈ p.descendants ↔ TransGen (fun parent child => child ∈ parent.children) p q := by
  constructor
  · intro hq
    -- Inside the element there is less of the tree at each of its children.
    induction hextent : Walk.extent p using Nat.strongRecOn generalizing p with
    | ind n ih =>
      rw [descendants_eq_flatMap] at hq
      rcases List.mem_flatMap.1 hq with ⟨child, hchild, hmem⟩
      rcases List.mem_cons.1 hmem with rfl | hinner
      · exact .single hchild
      · have hless := hextent ▸ extent_lt_of_mem_children hchild
        exact .head hchild (ih _ hless hinner rfl)
  · intro hpath
    induction hpath with
    | single hchild => exact mem_descendants_of_mem_children hchild
    | tail _ hchild ih => exact mem_descendants_trans ih (mem_descendants_of_mem_children hchild)

theorem pairwise_descendants (p : Place) :
    p.descendants.Pairwise fun q r => q.position < r.position :=
  Node.pairwise_placesAll _ _ _

end Place

/-! ## Empty elements -/

namespace Node

theorem topPlaces_eq_nil_iff {enclosing : List Located} {position : Nat} {nodes : List Node} :
    topPlaces enclosing position nodes = [] ↔ ∀ node ∈ nodes, node.isElement = false := by
  induction nodes with
  | nil => simp [topPlaces]
  | cons node rest ih => cases node <;> simp [topPlaces, isElement, ih]

end Node

/-- An element is empty if it has no element child and its text is blank. -/
theorem Place.isEmpty_iff (p : Place) :
    p.element.isEmpty = true ↔
      p.children = [] ∧ Text.isBlankText p.element.textContent = true := by
  rw [children, Node.topPlaces_eq_nil_iff, Element.isEmpty, Element.textContent]
  induction p.element.children with
  | nil => simp [Node.textContentAll, Text.isBlankText, Chars.allBlank]
  | cons node rest ih =>
    rw [List.all_cons, Node.textContentAll, Text.isBlankText_append, List.forall_mem_cons,
      Bool.and_eq_true, ih, Bool.and_eq_true]
    cases node with
    | text content => simp [Node.isElement, Node.textContent, and_left_comm]
    | element tag attributes children => simp [Node.isElement]

/-! ## Agreement -/

/-- The walks with an explicit stack agree with recursion. From the children of an element the first
one comes to an end and has found the elements inside the element: all that are reached by going
from parent to child, each once, every child with what is inside it before the next one, and so in
document order. The second one comes to an end with the texts of the node in document order. So an
element is empty exactly if it has no element child and the text that is found in it is blank. -/
theorem walks_agree_with_recursion (p : Place) :
    Walk.elements.run ⟨p.children, []⟩ = ⟨[], p.descendants⟩ ∧
      Walk.descendants p = p.children.flatMap (fun q => q :: Walk.descendants q) ∧
      (∀ q, q ∈ Walk.descendants p ↔
        TransGen (fun parent child => child ∈ parent.children) p q) ∧
      ((Walk.descendants p).Pairwise fun q r => q.position < r.position) ∧
      (∀ node : Node, Walk.texts.run ⟨[node], []⟩ = ⟨[], node.texts⟩ ∧
        Walk.textContent node = node.textContent ∧
        node.textContent = String.join node.texts) ∧
      (p.element.isEmpty = true ↔
        p.children = [] ∧ Text.isBlankText (Walk.textContent p.element.node) = true) := by
  refine ⟨Walk.run_elements p, ?_, ?_, ?_, ?_, ?_⟩
  · simpa using p.descendants_eq_flatMap
  · simpa using fun q => Place.mem_descendants_iff_transGen
  · simpa using p.pairwise_descendants
  · exact fun node => ⟨Walk.run_texts node, Walk.textContent_eq node, (Node.join_texts node).symm⟩
  · rw [Walk.textContent_eq, Element.node, Node.textContent]
    exact p.isEmpty_iff

end MarkupAudit
