import MarkupAudit.Document.Markup
import MarkupAudit.Document.Query
import MarkupAudit.Proofs.Document.Siblings

/-!
# Joined texts

A text may stand in a tree as several texts one after another, and empty texts may stand anywhere.
Joining makes one text of adjacent ones and leaves out empty ones, in the whole tree. It keeps the
elements, their positions and what encloses them, and all that is read off the content of an
element: its text, its markup and whether it is empty.

Main statements: trees differ only in the chunking of their texts if they are joined to one tree
(`Node.rechunked_iff`); the places of a joined tree are those of the tree
(`places_joined`), and so are those around them (`parent?_joined`, `children_joined`,
`descendants_joined`, `index_joined`); an element that is joined has the same text
(`textContent_joined`), the same markup (`markup_joined`) and is as empty (`isEmpty_joined`).
-/

namespace MarkupAudit

namespace Node

/-! ## Joining -/

/-- The node in front of others. A text becomes one with a text behind it, and is left out if it is
empty. -/
def joinTo : Node → List Node → List Node
  | .text content, .text more :: rest => .text (content ++ more) :: rest
  | .text content, nodes => if content = "" then nodes else .text content :: nodes
  | node, nodes => node :: nodes

mutual

def joined : Node → Node
  | .text content => .text content
  | .element tag attributes children => .element tag attributes (joinedAll children)

def joinedAll : List Node → List Node
  | [] => []
  | node :: rest => joinTo node.joined (joinedAll rest)

end

/-- What joining does with a node in front of others. -/
theorem joinTo_cases (node : Node) (nodes : List Node) :
    (∃ content more rest, node = .text content ∧ nodes = .text more :: rest ∧
      joinTo node nodes = .text (content ++ more) :: rest) ∨
    (node = .text "" ∧ joinTo node nodes = nodes) ∨ joinTo node nodes = node :: nodes := by
  fun_cases joinTo node nodes with
  | case1 content more rest => exact .inl ⟨content, more, rest, rfl, rfl, rfl⟩
  | case2 nodes hnodes => exact .inr (.inl ⟨rfl, rfl⟩)
  | case3 content nodes hnodes hcontent => exact .inr (.inr rfl)
  | case4 node nodes hnode hnode' => exact .inr (.inr rfl)

theorem joinTo_empty (nodes : List Node) : joinTo (.text "") nodes = nodes := by
  cases nodes with
  | nil => rfl
  | cons node rest => cases node <;> simp [joinTo]

/-- A text in two parts is joined like the text. -/
theorem joinTo_append (a b : String) (nodes : List Node) :
    joinTo (.text (a ++ b)) nodes = joinTo (.text a) (joinTo (.text b) nodes) := by
  by_cases hb : b = ""
  · simp [hb, joinTo_empty]
  · cases nodes with
    | nil => simp [joinTo, hb]
    | cons node rest => cases node <;> simp [joinTo, hb, String.append_assoc]

/-- Nodes that were joined before are joined in front of others like the nodes themselves. -/
theorem foldr_joinTo (node : Node) (nodes others : List Node) :
    (joinTo node nodes).foldr joinTo others = joinTo node (nodes.foldr joinTo others) := by
  rcases joinTo_cases node nodes with ⟨content, more, rest, rfl, rfl, hjoin⟩ | ⟨rfl, hjoin⟩ | hjoin
  · rw [hjoin]
    exact joinTo_append content more _
  · rw [hjoin, joinTo_empty]
  · rw [hjoin]
    rfl

theorem joinedAll_append (a b : List Node) :
    joinedAll (a ++ b) = (joinedAll a).foldr joinTo (joinedAll b) := by
  induction a with
  | nil => rfl
  | cons node rest ih =>
    have hrest : joinTo node.joined (joinedAll (rest ++ b)) =
        (joinTo node.joined (joinedAll rest)).foldr joinTo (joinedAll b) := by
      rw [ih, foldr_joinTo]
    simpa [joinedAll] using hrest

mutual

theorem joined_joined (node : Node) : node.joined.joined = node.joined := by
  cases node with
  | text content => rfl
  | element tag attributes children => simp [joined, joinedAll_joinedAll children]

/-- Joining joins everything at once. -/
theorem joinedAll_joinedAll (nodes : List Node) :
    joinedAll (joinedAll nodes) = joinedAll nodes := by
  cases nodes with
  | nil => rfl
  | cons node rest =>
    have hrest := joinedAll_joinedAll rest
    rw [joinedAll]
    rcases joinTo_cases node.joined (joinedAll rest) with
      ⟨content, more, others, hnode, hnodes, hjoin⟩ | ⟨hnode, hjoin⟩ | hjoin
    · -- The two texts are one, in front of what has no text to come first.
      rw [hnodes] at hrest
      have hcontent : joinTo (.text content) (joinedAll (.text more :: others)) =
          .text (content ++ more) :: others := by
        rw [hrest]
        rfl
      rw [hjoin, joinedAll, joined, joinTo_append]
      exact hcontent
    · rw [hjoin, hrest]
    · rw [hjoin, joinedAll, joined_joined node, hrest, hjoin]

end

/-- Lists of nodes are joined like what they are joined to. -/
theorem joinedAll_append_congr {a a' b b' : List Node} (ha : joinedAll a = joinedAll a')
    (hb : joinedAll b = joinedAll b') : joinedAll (a ++ b) = joinedAll (a' ++ b') := by
  rw [joinedAll_append, joinedAll_append, ha, hb]

/-! ## Chunking -/

/-- The nodes differ only in how their texts are cut into adjacent pieces, and in empty texts. -/
inductive Rechunked : List Node → List Node → Prop where
  | refl (nodes : List Node) : Rechunked nodes nodes
  | symm {a b : List Node} : Rechunked a b → Rechunked b a
  | trans {a b c : List Node} : Rechunked a b → Rechunked b c → Rechunked a c
  | drop (rest : List Node) : Rechunked (.text "" :: rest) rest
  | merge (content more : String) (rest : List Node) :
      Rechunked (.text content :: .text more :: rest) (.text (content ++ more) :: rest)
  | behind (node : Node) {a b : List Node} : Rechunked a b → Rechunked (node :: a) (node :: b)
  | inside (tag : String) (attributes : Attributes) (rest : List Node) {a b : List Node} :
      Rechunked a b →
        Rechunked (.element tag attributes a :: rest) (.element tag attributes b :: rest)

theorem Rechunked.joinedAll_eq {a b : List Node} (h : Rechunked a b) :
    joinedAll a = joinedAll b := by
  induction h with
  | refl nodes => rfl
  | symm _ ih => exact ih.symm
  | trans _ _ ih ih' => exact ih.trans ih'
  | drop rest => exact joinTo_empty (joinedAll rest)
  | merge content more rest => exact (joinTo_append content more (joinedAll rest)).symm
  | behind node _ ih => rw [joinedAll, joinedAll, ih]
  | inside tag attributes rest _ ih => simp only [joinedAll, joined, ih]

theorem rechunked_joinTo (node : Node) (nodes : List Node) :
    Rechunked (node :: nodes) (joinTo node nodes) := by
  rcases joinTo_cases node nodes with ⟨content, more, rest, rfl, rfl, hjoin⟩ | ⟨rfl, hjoin⟩ | hjoin
  · exact hjoin ▸ .merge content more rest
  · exact hjoin.symm ▸ .drop nodes
  · exact hjoin.symm ▸ .refl _

mutual

theorem rechunked_joined (node : Node) (rest : List Node) :
    Rechunked (node :: rest) (node.joined :: rest) := by
  cases node with
  | text content => exact .refl _
  | element tag attributes children =>
    exact .inside tag attributes rest (rechunked_joinedAll children)

theorem rechunked_joinedAll (nodes : List Node) : Rechunked nodes (joinedAll nodes) := by
  cases nodes with
  | nil => exact .refl []
  | cons node rest =>
    have hnode := rechunked_joined node rest
    have hrest := Rechunked.behind node.joined (rechunked_joinedAll rest)
    exact (hnode.trans hrest).trans (rechunked_joinTo node.joined (joinedAll rest))

end

/-- Nodes differ only in the chunking of their texts if joining gives the same. -/
theorem rechunked_iff {a b : List Node} : Rechunked a b ↔ joinedAll a = joinedAll b := by
  constructor
  · exact Rechunked.joinedAll_eq
  · intro h
    exact (rechunked_joinedAll a).trans (h ▸ (rechunked_joinedAll b).symm)

/-! ## What joining keeps -/

section

variable (node : Node) (nodes : List Node)

theorem elementCountAll_joinTo :
    elementCountAll (joinTo node nodes) = node.elementCount + elementCountAll nodes := by
  rcases joinTo_cases node nodes with
    ⟨content, more, rest, rfl, rfl, hjoin⟩ | ⟨rfl, hjoin⟩ | hjoin <;>
    simp [hjoin, elementCountAll, elementCount]

theorem textContentAll_joinTo :
    textContentAll (joinTo node nodes) = node.textContent ++ textContentAll nodes := by
  rcases joinTo_cases node nodes with
    ⟨content, more, rest, rfl, rfl, hjoin⟩ | ⟨rfl, hjoin⟩ | hjoin <;>
    simp [hjoin, textContentAll, textContent, String.append_assoc]

theorem markupAll_joinTo : markupAll (joinTo node nodes) = node.markup ++ markupAll nodes := by
  rcases joinTo_cases node nodes with
    ⟨content, more, rest, rfl, rfl, hjoin⟩ | ⟨rfl, hjoin⟩ | hjoin <;>
    simp [hjoin, markupAll, markup, Text.expand, String.append_assoc, String.ofList_append]

theorem placesAll_joinTo (enclosing : List Located) (position : Nat) :
    placesAll enclosing position (joinTo node nodes) =
      node.places enclosing position ++
        placesAll enclosing (position + node.elementCount) nodes := by
  rcases joinTo_cases node nodes with
    ⟨content, more, rest, rfl, rfl, hjoin⟩ | ⟨rfl, hjoin⟩ | hjoin <;>
    simp [hjoin, placesAll, places, elementCount]

theorem topPlaces_joinTo (enclosing : List Located) (position : Nat) :
    topPlaces enclosing position (joinTo node nodes) =
      topPlaces enclosing position [node] ++
        topPlaces enclosing (position + node.elementCount) nodes := by
  rcases joinTo_cases node nodes with ⟨content, more, rest, rfl, rfl, hjoin⟩ | ⟨rfl, hjoin⟩ | hjoin
  · simp [hjoin, topPlaces, elementCount]
  · simp [hjoin, topPlaces, elementCount]
  · rw [hjoin, topPlaces_cons]

end

mutual

theorem elementCount_joined (node : Node) : node.joined.elementCount = node.elementCount := by
  cases node with
  | text content => rfl
  | element tag attributes children =>
    simp [joined, elementCount, elementCountAll_joinedAll children]

theorem elementCountAll_joinedAll (nodes : List Node) :
    elementCountAll (joinedAll nodes) = elementCountAll nodes := by
  cases nodes with
  | nil => rfl
  | cons node rest =>
    simp [joinedAll, elementCountAll_joinTo, elementCountAll, elementCount_joined node,
      elementCountAll_joinedAll rest]

end

mutual

theorem textContent_joined (node : Node) : node.joined.textContent = node.textContent := by
  cases node with
  | text content => rfl
  | element tag attributes children =>
    simp [joined, textContent, textContentAll_joinedAll children]

theorem textContentAll_joinedAll (nodes : List Node) :
    textContentAll (joinedAll nodes) = textContentAll nodes := by
  cases nodes with
  | nil => rfl
  | cons node rest =>
    simp [joinedAll, textContentAll_joinTo, textContentAll, textContent_joined node,
      textContentAll_joinedAll rest]

end

mutual

theorem markup_joined (node : Node) : node.joined.markup = node.markup := by
  cases node with
  | text content => rfl
  | element tag attributes children => simp [joined, markup, markupAll_joinedAll children]

theorem markupAll_joinedAll (nodes : List Node) :
    markupAll (joinedAll nodes) = markupAll nodes := by
  cases nodes with
  | nil => rfl
  | cons node rest =>
    simp [joinedAll, markupAll_joinTo, markupAll, markup_joined node, markupAll_joinedAll rest]

end

end Node

/-! ## Elements and their places -/

/-- The element with the texts in it joined. -/
def Element.joined (e : Element) : Element :=
  { e with children := Node.joinedAll e.children }

def Located.joined (q : Located) : Located :=
  { q with element := q.element.joined }

/-- The place in the joined document. -/
def Place.joined (p : Place) : Place where
  position := p.position
  element := p.element.joined
  enclosing := p.enclosing.map Located.joined

/-- The document with its texts joined, without what was noticed about it. -/
def Document.joined (d : Document) : Document :=
  .ofNodes d.source (Node.joinedAll d.nodes)

namespace Element

variable (e : Element)

@[simp] theorem tag_joined : e.joined.tag = e.tag := rfl

@[simp] theorem attributes_joined : e.joined.attributes = e.attributes := rfl

@[simp] theorem textContent_joined : e.joined.textContent = e.textContent :=
  Node.textContentAll_joinedAll e.children

@[simp] theorem markup_joined : e.joined.markup = e.markup :=
  Node.markup_joined e.node

@[simp] theorem isEmpty_joined : e.joined.isEmpty = e.isEmpty := by
  rcases e with ⟨tag, attributes, children⟩
  simp only [joined, isEmpty]
  induction children with
  | nil => rfl
  | cons node rest ih =>
    rw [Node.joinedAll, List.all_cons, ← ih]
    cases node with
    | element tag attributes children => rfl
    | text content =>
      rcases Node.joinTo_cases (.text content) (Node.joinedAll rest) with
        ⟨content', more, others, hnode, hnodes, hjoin⟩ | ⟨hnode, hjoin⟩ | hjoin
      · cases hnode
        rw [Node.joined, hjoin, hnodes]
        simp [Text.isBlankText_append, Bool.and_assoc]
      · cases hnode
        simp [Node.joined, hjoin, Text.isBlankText, Chars.allBlank]
      · simp [Node.joined, hjoin]

end Element

namespace Node

mutual

theorem places_joined (enclosing : List Located) (position : Nat) (node : Node) :
    node.joined.places (enclosing.map Located.joined) position =
      (node.places enclosing position).map Place.joined := by
  cases node with
  | text content => rfl
  | element tag attributes children =>
    have hinner := placesAll_joinedAll (⟨position, ⟨tag, attributes, children⟩⟩ :: enclosing)
      (position + 1) children
    simp only [joined, places, List.map_cons]
    exact congrArg _ hinner

/-- The places of joined nodes are those of the nodes. -/
theorem placesAll_joinedAll (enclosing : List Located) (position : Nat) (nodes : List Node) :
    placesAll (enclosing.map Located.joined) position (joinedAll nodes) =
      (placesAll enclosing position nodes).map Place.joined := by
  cases nodes with
  | nil => rfl
  | cons node rest =>
    rw [joinedAll, placesAll_joinTo, elementCount_joined, places_joined enclosing position node,
      placesAll_joinedAll enclosing _ rest, placesAll, List.map_append]

end

theorem topPlaces_joinedAll (enclosing : List Located) (position : Nat) (nodes : List Node) :
    topPlaces (enclosing.map Located.joined) position (joinedAll nodes) =
      (topPlaces enclosing position nodes).map Place.joined := by
  induction nodes generalizing position with
  | nil => rfl
  | cons node rest ih =>
    have hfirst : topPlaces (enclosing.map Located.joined) position [node.joined] =
        (topPlaces enclosing position [node]).map Place.joined := by
      cases node <;> rfl
    rw [joinedAll, topPlaces_joinTo, elementCount_joined, hfirst, ih, ← List.map_append,
      ← topPlaces_cons]

end Node

namespace Place

variable (p : Place)

@[simp] theorem position_joined : p.joined.position = p.position := rfl

@[simp] theorem element_joined : p.joined.element = p.element.joined := rfl

@[simp] theorem enclosing_joined : p.joined.enclosing = p.enclosing.map Located.joined := rfl

@[simp] theorem parent?_joined : p.joined.parent? = p.parent?.map Place.joined := by
  rcases p with ⟨position, element, enclosing⟩
  cases enclosing <;> rfl

@[simp] theorem parentTag?_joined : p.joined.parentTag? = p.parentTag? := by
  rcases p with ⟨position, element, enclosing⟩
  cases enclosing <;> rfl

@[simp] theorem parentName_joined : p.joined.parentName = p.parentName := by
  simp [parentName]

@[simp] theorem ancestors_joined : p.joined.ancestors = p.ancestors.map Located.joined :=
  List.map_dropLast.symm

@[simp] theorem ancestorOf?_joined (tags : List String) :
    p.joined.ancestorOf? tags = (p.ancestorOf? tags).map Located.joined := by
  rw [ancestorOf?, ancestors_joined, List.find?_map]
  rfl

@[simp] theorem isInside_joined (tags : List String) :
    p.joined.isInside tags = p.isInside tags := by
  simp [isInside]

@[simp] theorem children_joined : p.joined.children = p.children.map Place.joined :=
  Node.topPlaces_joinedAll p.scope (p.position + 1) p.element.children

@[simp] theorem descendants_joined : p.joined.descendants = p.descendants.map Place.joined :=
  Node.placesAll_joinedAll p.scope (p.position + 1) p.element.children

@[simp] theorem firstChild?_joined : p.joined.firstChild? = p.firstChild?.map Place.joined := by
  simp [firstChild?]

@[simp] theorem lastChild?_joined : p.joined.lastChild? = p.lastChild?.map Place.joined := by
  simp [lastChild?]

@[simp] theorem same_joined (q : Place) : p.joined.same q.joined = p.same q := rfl

@[simp] theorem siblings_joined : p.joined.siblings = p.siblings.map Place.joined := by
  rw [siblings, parent?_joined, siblings]
  cases p.parent? <;> simp

@[simp] theorem index_joined : p.joined.index = p.index := by
  simp [index, List.findIdx?_map, Function.comp_def]

@[simp] theorem earlier_joined : p.joined.earlier = p.earlier.map (List.map Place.joined) := by
  rw [earlier, earlier, index_joined, siblings_joined]
  cases p.index <;> simp [Except.map]

@[simp] theorem previous_joined : p.joined.previous = p.previous.map (Option.map Place.joined) := by
  rw [previous, previous, earlier_joined]
  cases p.earlier <;> simp [Except.map]

@[simp] theorem next_joined : p.joined.next = p.next.map (Option.map Place.joined) := by
  rw [next, next, index_joined, siblings_joined]
  cases p.index <;> simp [Except.map]

theorem searchBack_joined (test : Place → Bool) (htest : ∀ q : Place, test q.joined = test q) :
    p.joined.searchBack test = (p.searchBack test).map (Option.map Place.joined) := by
  rw [searchBack_eq, searchBack_eq, earlier_joined]
  cases p.earlier with
  | error fault => rfl
  | ok before =>
    have hsame : test ∘ joined = test := funext htest
    simp only [Except.map]
    rw [← List.map_reverse, List.find?_map, hsame]

@[simp] theorem parentFor_joined (operation : String) :
    p.joined.parentFor operation = (p.parentFor operation).map Place.joined := by
  rw [parentFor, parentFor, parent?_joined]
  cases p.parent? <;> rfl

end Place

namespace Document

variable (d : Document)

@[simp] theorem rootPlace_joined : d.joined.rootPlace = d.rootPlace.joined := rfl

@[simp] theorem places_joined : d.joined.places = d.places.map Place.joined :=
  d.rootPlace.descendants_joined

@[simp] theorem placesOf_joined (tags : List String) :
    d.joined.placesOf tags = (d.placesOf tags).map Place.joined := by
  rw [placesOf, places_joined, List.filter_map]
  rfl

@[simp] theorem firstOf?_joined (tag : String) :
    d.joined.firstOf? tag = (d.firstOf? tag).map Place.joined := by
  rw [firstOf?, places_joined, List.find?_map]
  rfl

end Document

end MarkupAudit
