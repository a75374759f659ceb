import MarkupAudit.Document.Parse

/-!
# Places

A place is an element together with its position in document order and the elements that enclose
it, so that an element can be told from an equal one and asked for its surroundings. The document
itself has position 0; it encloses every element but is nobody's ancestor.

Main statements: the positions of the places of a list of nodes are consecutive
(`positions_places`), so no two places share one; siblings stand in document order
(`pairwise_siblings`), so going back from sibling to sibling comes to an end
(`position_lt_of_previous`).
-/

namespace MarkupAudit

/-- An element at a position in document order. -/
structure Located where
  position : Nat
  element : Element

/-- An element at a position in document order, with what encloses it, the nearest first. The
outermost one stands for the document. -/
structure Place where
  position : Nat
  element : Element
  enclosing : List Located

namespace Place

/-- The element at its position, without what encloses it. -/
def located (p : Place) : Located :=
  ⟨p.position, p.element⟩

def scope (p : Place) : List Located :=
  p.located :: p.enclosing

/-- The place of the nearest enclosing element. -/
def parent? (p : Place) : Option Place :=
  match p.enclosing with
  | [] => none
  | q :: outer => some ⟨q.position, q.element, outer⟩

/-- The tag of the nearest enclosing element. -/
def parentTag? (p : Place) : Option String :=
  p.enclosing.head?.map (·.element.tag)

/-- The enclosing elements from the nearest outwards, without the document. -/
def ancestors (p : Place) : List Located :=
  p.enclosing.dropLast

end Place

namespace Node

mutual

/-- The places of a node and of all elements in it, in document order, when the node stands at a
position inside the enclosing elements. -/
def places (enclosing : List Located) (position : Nat) : Node → List Place
  | .text _ => []
  | .element tag attributes children =>
    ⟨position, ⟨tag, attributes, children⟩, enclosing⟩ ::
      placesAll (⟨position, ⟨tag, attributes, children⟩⟩ :: enclosing) (position + 1) children

def placesAll (enclosing : List Located) (position : Nat) : List Node → List Place
  | [] => []
  | node :: rest =>
    node.places enclosing position ++
      placesAll enclosing (position + node.elementCount) rest

end

/-- The places of the elements in a list of nodes, without those inside them. -/
def topPlaces (enclosing : List Located) (position : Nat) : List Node → List Place
  | [] => []
  -- Texts have no positions.
  | .text _ :: rest => topPlaces enclosing position rest
  | .element tag attributes children :: rest =>
    ⟨position, ⟨tag, attributes, children⟩, enclosing⟩ ::
      topPlaces enclosing (position + (elementCountAll children + 1)) rest

mutual

theorem positions_places (enclosing : List Located) (position : Nat) (node : Node) :
    (node.places enclosing position).map (·.position) =
      List.range' position node.elementCount := by
  cases node with
  | text _ => simp [places, elementCount]
  | element tag attributes children =>
    simp only [places, List.map_cons, elementCount, positions_placesAll]
    rw [List.range'_succ]

/-- The positions of the places of a list of nodes are consecutive. -/
theorem positions_placesAll (enclosing : List Located) (position : Nat) (nodes : List Node) :
    (placesAll enclosing position nodes).map (·.position) =
      List.range' position (elementCountAll nodes) := by
  cases nodes with
  | nil => simp [placesAll, elementCountAll]
  | cons node rest =>
    simp only [placesAll, List.map_append, elementCountAll, positions_places,
      positions_placesAll]
    rw [List.range'_append_1]

end

theorem le_position_of_mem_topPlaces {enclosing : List Located} {position : Nat}
    {nodes : List Node} {p : Place} (hp : p ∈ topPlaces enclosing position nodes) :
    position ≤ p.position := by
  induction nodes generalizing position with
  | nil => cases hp
  | cons node rest ih =>
    cases node with
    | text content => exact ih hp
    | element tag attributes children =>
      rcases List.mem_cons.1 hp with rfl | hrest
      · exact Nat.le_refl _
      · exact Nat.le_trans (Nat.le_add_right _ _) (ih hrest)

/-- The topmost places of a list of nodes stand in document order. -/
theorem pairwise_topPlaces (enclosing : List Located) (position : Nat) (nodes : List Node) :
    (topPlaces enclosing position nodes).Pairwise fun p q => p.position < q.position := by
  induction nodes generalizing position with
  | nil => exact List.Pairwise.nil
  | cons node rest ih =>
    cases node with
    | text content => exact ih position
    | element tag attributes children =>
      refine List.pairwise_cons.2 ⟨?_, ih _⟩
      intro q hq
      have hbehind := le_position_of_mem_topPlaces hq
      simp only
      omega

end Node

namespace Place

def children (p : Place) : List Place :=
  Node.topPlaces p.scope (p.position + 1) p.element.children

def descendants (p : Place) : List Place :=
  Node.placesAll p.scope (p.position + 1) p.element.children

def firstChild? (p : Place) : Option Place :=
  p.children.head?

/-- The last element child. -/
def lastChild? (p : Place) : Option Place :=
  p.children.getLast?

def same (p q : Place) : Bool :=
  p.position == q.position

/-- The element children of the parent; a place without a parent has only itself. -/
def siblings (p : Place) : List Place :=
  match p.parent? with
  | some q => q.children
  | none => [p]

/-- How many siblings come before the place. It is looked for among them. -/
def index (p : Place) : Except Fault Nat :=
  match p.siblings.findIdx? p.same with
  | some i => .ok i
  | none => .error .nothingFound

/-- The siblings that come before the place. -/
def earlier (p : Place) : Except Fault (List Place) :=
  p.index.map fun i => p.siblings.take i

/-- The sibling right before the place, if there is one. -/
def previous (p : Place) : Except Fault (Option Place) :=
  p.earlier.map List.getLast?

/-- The sibling right behind the place, if there is one. -/
def next (p : Place) : Except Fault (Option Place) :=
  p.index.map fun i => p.siblings[i + 1]?

theorem pairwise_children (p : Place) :
    p.children.Pairwise fun q r => q.position < r.position :=
  Node.pairwise_topPlaces _ _ _

/-- Siblings stand in document order. -/
theorem pairwise_siblings (p : Place) :
    p.siblings.Pairwise fun q r => q.position < r.position := by
  rw [siblings]
  split
  · exact pairwise_children _
  · exact List.pairwise_singleton _ _

theorem position_lt_of_previous {p q : Place} (h : p.previous = .ok (some q)) :
    q.position < p.position := by
  rw [previous, earlier, index] at h
  cases hfound : p.siblings.findIdx? p.same with
  | none => simp [hfound, Except.map] at h
  | some i =>
    have hlast : (p.siblings.take i).getLast? = some q := by simpa [hfound, Except.map] using h
    rcases List.findIdx?_eq_some_iff_getElem.1 hfound with ⟨hi, hsame, -⟩
    have hposition : p.position = p.siblings[i].position := by simpa [same] using hsame
    -- What is taken stands before the place that was found, which is at the same position.
    have hordered := p.pairwise_siblings
    rw [← List.take_append_drop i p.siblings, List.drop_eq_getElem_cons hi,
      List.pairwise_append] at hordered
    rw [hposition]
    exact hordered.2.2 q (List.mem_of_getLast? hlast) _ List.mem_cons_self

/-- The nearest of the siblings before the place that passes a test. It is looked for by going back
from sibling to sibling. -/
def searchBack (test : Place → Bool) (p : Place) : Except Fault (Option Place) :=
  match hprevious : p.previous with
  | .error fault => .error fault
  | .ok none => .ok none
  | .ok (some q) =>
    -- The search ends because it only ever goes back in the document.
    have _hback : q.position < p.position := position_lt_of_previous hprevious
    if test q then .ok (some q) else q.searchBack test
termination_by p.position

/-- The place of the nearest enclosing element, which the operation is asked of. -/
def parentFor (p : Place) (operation : String) : Except Fault Place :=
  match p.parent? with
  | some q => .ok q
  | none => .error (.lacksOperation .null operation)

end Place

namespace Document

def rootPlace (d : Document) : Place :=
  ⟨0, d.root, []⟩

def places (d : Document) : List Place :=
  d.rootPlace.descendants

def placesOf (d : Document) (tags : List String) : List Place :=
  d.places.filter fun p => tags.contains p.element.tag

def firstOf? (d : Document) (tag : String) : Option Place :=
  d.places.find? fun p => p.element.tag == tag

end Document

end MarkupAudit
