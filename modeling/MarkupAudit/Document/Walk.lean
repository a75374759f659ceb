import MarkupAudit.Document.Place

/-!
# Walks with an explicit stack

The elements and the text of a tree can be listed without recursion: a stack holds what is still to
be visited, and visiting an item puts what is inside it on top. A walk comes to an end because what
is inside an item weighs less than the item.

Main statements: a walk finds all that a recursive listing lists of what is pending, one item after
another, and then has nothing left to visit (`Visit.run_eq`); the elements inside an element are its
children, each with the elements inside it behind it (`Place.descendants_eq_flatMap`).
-/

namespace MarkupAudit

namespace Walk

/-- A walk under way: what is still to be visited, the next item first, and what was found. -/
structure State (α β : Type) where
  pending : List α
  found : List β

/-- What items weigh together. -/
def total {α : Type} (weight : α → Nat) : List α → Nat
  | [] => 0
  | item :: rest => weight item + total weight rest

theorem total_append {α : Type} (weight : α → Nat) (a b : List α) :
    total weight (a ++ b) = total weight a + total weight b := by
  induction a with
  | nil => simp [total]
  | cons item rest ih => simp [total, ih, Nat.add_assoc]

theorem le_total_of_mem {α : Type} {weight : α → Nat} {items : List α} {item : α}
    (hitem : item ∈ items) : weight item ≤ total weight items := by
  induction hitem with
  | head => exact Nat.le_add_right _ _
  | tail _ _ ih => exact Nat.le_trans ih (Nat.le_add_left _ _)

/-- A way of visiting items. -/
structure Visit (α β : Type) where
  /-- What is found at an item. -/
  finds : α → List β
  /-- What is visited behind an item, before all else that is pending. -/
  inside : α → List α
  weight : α → Nat
  lighter : ∀ item, total weight (inside item) < weight item

namespace Visit

variable {α β : Type}

/-- Visits items until none is pending. -/
def run (v : Visit α β) (s : State α β) : State α β :=
  match s with
  | ⟨[], found⟩ => ⟨[], found⟩
  | ⟨item :: rest, found⟩ => v.run ⟨v.inside item ++ rest, found ++ v.finds item⟩
termination_by total v.weight s.pending
decreasing_by
  have hlighter := v.lighter item
  simp only [total_append, total]
  omega

/-- What was found, followed by the listings of what is pending, stays the same all along. -/
theorem run_eq (v : Visit α β) {listing : α → List β}
    (hlisting : ∀ item, listing item = v.finds item ++ (v.inside item).flatMap listing)
    (pending : List α) (found : List β) :
    v.run ⟨pending, found⟩ = ⟨[], found ++ pending.flatMap listing⟩ := by
  generalize hs : (⟨pending, found⟩ : State α β) = s
  fun_induction run v s generalizing pending found with
  | case1 found' =>
    cases hs
    simp
  | case2 item rest found' ih =>
    cases hs
    rw [ih _ _ rfl, List.flatMap_cons, hlisting item]
    simp

end Visit

/-! ## The sizes of trees -/

mutual

def size : Node → Nat
  | .text _ => 1
  | .element _ _ children => sizeAll children + 1

def sizeAll : List Node → Nat
  | [] => 0
  | node :: rest => size node + sizeAll rest

end

theorem total_size (nodes : List Node) : total size nodes = sizeAll nodes := by
  induction nodes with
  | nil => rfl
  | cons node rest ih => rw [total, sizeAll, ih]

/-- How many elements there are at a place, its own included. -/
def extent (p : Place) : Nat :=
  Node.elementCountAll p.element.children + 1

theorem total_extent (enclosing : List Located) (position : Nat) (nodes : List Node) :
    total extent (Node.topPlaces enclosing position nodes) = Node.elementCountAll nodes := by
  induction nodes generalizing position with
  | nil => rfl
  | cons node rest ih =>
    cases node with
    | text content => simp [Node.topPlaces, Node.elementCountAll, Node.elementCount, ih]
    | element tag attributes children =>
      simp [Node.topPlaces, Node.elementCountAll, Node.elementCount, extent, total, ih]

/-! ## The two walks -/

/-- Every element is found, and its element children are visited behind it. -/
def elements : Visit Place Place where
  finds p := [p]
  inside := Place.children
  weight := extent
  lighter p := by
    rw [Place.children, total_extent]
    exact Nat.lt_succ_self _

def childNodes : Node → List Node
  | .text _ => []
  | .element _ _ children => children

/-- Every text is found, and all children of an element are visited behind it. -/
def texts : Visit Node String where
  finds node := node.text?.toList
  inside := childNodes
  weight := size
  lighter node := by
    cases node with
    | text content => exact Nat.one_pos
    | element tag attributes children =>
      rw [childNodes, total_size]
      exact Nat.lt_succ_self _

/-- The elements inside an element, by a walk that starts with its element children. -/
def descendants (p : Place) : List Place :=
  (elements.run ⟨p.children, []⟩).found

/-- The text of a node, by a walk that starts with the node. -/
def textContent : Node → String
  | .text content => content
  | .element tag attributes children =>
    String.join (texts.run ⟨[.element tag attributes children], []⟩).found

end Walk

/-! ## Recursive listings -/

namespace Node

mutual

/-- The texts of a node in document order. -/
def texts : Node → List String
  | .text content => [content]
  | .element _ _ children => textsAll children

def textsAll : List Node → List String
  | [] => []
  | node :: rest => node.texts ++ textsAll rest

end

theorem textsAll_eq_flatMap (nodes : List Node) : textsAll nodes = nodes.flatMap texts := by
  induction nodes with
  | nil => rfl
  | cons node rest ih => rw [textsAll, ih, List.flatMap_cons]

mutual

theorem join_texts (node : Node) : String.join node.texts = node.textContent := by
  cases node with
  | text content => simp [texts, textContent]
  | element tag attributes children => rw [texts, textContent, join_textsAll]

theorem join_textsAll (nodes : List Node) :
    String.join (textsAll nodes) = textContentAll nodes := by
  cases nodes with
  | nil => rfl
  | cons node rest =>
    rw [textsAll, String.join_append, join_texts, join_textsAll, textContentAll]

end

theorem placesAll_eq_flatMap (enclosing : List Located) (position : Nat) (nodes : List Node) :
    placesAll enclosing position nodes =
      (topPlaces enclosing position nodes).flatMap fun p => p :: p.descendants := by
  induction nodes generalizing position with
  | nil => rfl
  | cons node rest ih =>
    cases node with
    | text content => simp [placesAll, places, topPlaces, elementCount, ih]
    | element tag attributes children =>
      simp [placesAll, places, topPlaces, elementCount, ih, Place.descendants, Place.scope,
        Place.located]

end Node

/-- The elements inside an element are its children, each with the elements inside it behind it. -/
theorem Place.descendants_eq_flatMap (p : Place) :
    p.descendants = p.children.flatMap fun q => q :: q.descendants :=
  Node.placesAll_eq_flatMap p.scope (p.position + 1) p.element.children

end MarkupAudit
