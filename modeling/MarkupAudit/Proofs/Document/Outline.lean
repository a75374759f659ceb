import MarkupAudit.Document.Build
import MarkupAudit.Document.Walk
import Mathlib.Data.List.Nodup

/-!
# Outlines

An outline lists the texts and the elements of a tree in document order. Each entry has its
position, counted over texts and elements alike, and the elements around it. Built trees and forests
nested as written have outlines of one kind, so that they can be compared; in the outline of a
forest names are in lower case, and asides do not occur.

Main statements: the outline of a list continues where the outline of its first part ends
(`Node.outlineAll_append`); the texts of an outline make up the text of the tree
(`Node.join_texts_outlineAll`); the places of a tree are seen in its outline
(`Node.shows_of_mem_placesAll`); attributes of a built element are those of the outline of the
forest (`entries_builtAttributes`); entries of a forest are told by their positions
(`RawNode.eq_of_position_eq`), and their ancestors are entries (`RawNode.marks_of_mem_outlineAll`).
-/

namespace MarkupAudit

/-! ## Entries of an outline -/

namespace Outline

/-- What stands at one place of a tree, without what is inside it. -/
inductive Content where
  | text (content : String)
  | element (tag : String) (attributes : List (String × String))
  deriving DecidableEq, Repr

def Content.text? : Content → Option String
  | .text content => some content
  | .element _ _ => none

def Content.tag? : Content → Option String
  | .text _ => none
  | .element tag _ => some tag

/-- An element, told by its position and its tag. -/
structure Mark where
  position : Nat
  tag : String
  deriving DecidableEq, Repr

/-- A text or an element with the elements around it, the nearest first. -/
structure Entry where
  position : Nat
  content : Content
  ancestors : List Mark
  deriving DecidableEq, Repr

/-- The entry lies inside the element at a position. -/
def Entry.isBelow (position : Nat) (e : Entry) : Bool :=
  e.ancestors.any (·.position == position)

theorem Entry.isBelow_iff {e : Entry} {position : Nat} :
    e.isBelow position = true ↔ ∃ m ∈ e.ancestors, m.position = position := by
  simp [isBelow]

/-- The mark of an element stands for an entry of the outline. -/
def Marks (m : Mark) (e : Entry) : Prop :=
  e.position = m.position ∧ e.content.tag? = some m.tag

end Outline

open Outline

/-! ## The outline of a tree -/

namespace Node

mutual

def outline (ancestors : List Mark) (position : Nat) : Node → List Entry
  | .text content => [⟨position, .text content, ancestors⟩]
  | .element tag attributes children =>
    ⟨position, .element tag attributes.entries, ancestors⟩ ::
      outlineAll (⟨position, tag⟩ :: ancestors) (position + 1) children

/-- The outline of a list of nodes whose first one stands at a position inside some elements. -/
def outlineAll (ancestors : List Mark) (position : Nat) : List Node → List Entry
  | [] => []
  | node :: rest =>
    node.outline ancestors position ++ outlineAll ancestors (position + Walk.size node) rest

end

mutual

theorem length_outline (ancestors : List Mark) (position : Nat) (node : Node) :
    (node.outline ancestors position).length = Walk.size node := by
  cases node with
  | text content => rfl
  | element tag attributes children =>
    simp [outline, Walk.size, length_outlineAll]

theorem length_outlineAll (ancestors : List Mark) (position : Nat) (nodes : List Node) :
    (outlineAll ancestors position nodes).length = Walk.sizeAll nodes := by
  cases nodes with
  | nil => rfl
  | cons node rest =>
    simp [outlineAll, Walk.sizeAll, length_outline, length_outlineAll]

end

theorem outlineAll_append (ancestors : List Mark) (position : Nat) (a b : List Node) :
    outlineAll ancestors position (a ++ b) =
      outlineAll ancestors position a ++ outlineAll ancestors (position + Walk.sizeAll a) b := by
  induction a generalizing position with
  | nil => simp [outlineAll, Walk.sizeAll]
  | cons node rest ih =>
    simp [outlineAll, Walk.sizeAll, ih, Nat.add_assoc]

mutual

theorem join_texts_outline (ancestors : List Mark) (position : Nat) (node : Node) :
    String.join ((node.outline ancestors position).filterMap (·.content.text?)) =
      node.textContent := by
  cases node with
  | text content => simp [outline, Content.text?, textContent]
  | element tag attributes children =>
    have hchildren := join_texts_outlineAll (⟨position, tag⟩ :: ancestors) (position + 1) children
    simpa [outline, Content.text?, textContent] using hchildren

/-- The texts of an outline, joined, are the text of the nodes. -/
theorem join_texts_outlineAll (ancestors : List Mark) (position : Nat) (nodes : List Node) :
    String.join ((outlineAll ancestors position nodes).filterMap (·.content.text?)) =
      textContentAll nodes := by
  cases nodes with
  | nil => rfl
  | cons node rest =>
    have hnode := join_texts_outline ancestors position node
    have hrest := join_texts_outlineAll ancestors (position + Walk.size node) rest
    simp [outlineAll, textContentAll, String.join_append, hnode, hrest]

end

theorem exists_mem_outline (ancestors : List Mark) (position : Nat) (node : Node) :
    ∃ e ∈ node.outline ancestors position, e.ancestors = ancestors := by
  cases node with
  | text content => exact ⟨_, List.mem_singleton_self _, rfl⟩
  | element tag attributes children => exact ⟨_, List.mem_cons_self, rfl⟩

end Node

/-! ### Places in an outline -/

/-- A place has its entry in an outline, and if the element has children, an entry lies inside it.
-/
structure Outline.Shows (entries : List Entry) (p : Place) : Prop where
  entry : ∃ e ∈ entries, e.content.tag? = some p.element.tag ∧
    e.ancestors.map (·.tag) = p.ancestors.map (·.element.tag)
  children : p.element.children ≠ [] → ∃ e ∈ entries, ∃ m ∈ e.ancestors, m.tag = p.element.tag

theorem Outline.Shows.mono {entries more : List Entry} {p : Place} (h : Shows entries p)
    (hsub : entries ⊆ more) : Shows more p where
  entry := by
    rcases h.entry with ⟨e, he, hrest⟩
    exact ⟨e, hsub he, hrest⟩
  children hne := by
    rcases h.children hne with ⟨e, he, hrest⟩
    exact ⟨e, hsub he, hrest⟩

namespace Node

mutual

theorem shows_of_mem_places {enclosing : List Located} {ancestors : List Mark}
    (htags : ancestors.map (·.tag) = enclosing.dropLast.map (·.element.tag))
    (hne : enclosing ≠ []) {number position : Nat} (node : Node) {p : Place}
    (hp : p ∈ node.places enclosing number) : Shows (node.outline ancestors position) p := by
  cases node with
  | text content => simp [places] at hp
  | element tag attributes children =>
    rcases List.mem_cons.1 hp with rfl | hinner
    · refine ⟨⟨_, List.mem_cons_self, rfl, htags⟩, ?_⟩
      intro hchildren
      cases children with
      | nil => exact absurd rfl hchildren
      | cons child rest =>
        rcases exists_mem_outline (⟨position, tag⟩ :: ancestors) (position + 1) child with
          ⟨e, he, haround⟩
        refine ⟨e, ?_, ⟨position, tag⟩, by simp [haround], rfl⟩
        simp [outline, outlineAll, he]
    · -- The outermost place stands for the document, which is no ancestor.
      have htags' : (⟨position, tag⟩ :: ancestors).map (·.tag) =
          (⟨number, ⟨tag, attributes, children⟩⟩ :: enclosing).dropLast.map (·.element.tag) := by
        simp [List.dropLast_cons_of_ne_nil hne, htags]
      have hshows : Shows (outlineAll (⟨position, tag⟩ :: ancestors) (position + 1) children) p :=
        shows_of_mem_placesAll htags' (by simp) children hinner
      exact hshows.mono (by simp [outline])

/-- The outline of a list of nodes shows the places of its elements. -/
theorem shows_of_mem_placesAll {enclosing : List Located} {ancestors : List Mark}
    (htags : ancestors.map (·.tag) = enclosing.dropLast.map (·.element.tag))
    (hne : enclosing ≠ []) {number position : Nat} (nodes : List Node) {p : Place}
    (hp : p ∈ placesAll enclosing number nodes) :
    Shows (outlineAll ancestors position nodes) p := by
  cases nodes with
  | nil => simp [placesAll] at hp
  | cons node rest =>
    rcases List.mem_append.1 hp with hnode | hrest
    · have hshows : Shows (node.outline ancestors position) p :=
        shows_of_mem_places htags hne node hnode
      exact hshows.mono (List.subset_append_left _ _)
    · have hshows : Shows (outlineAll ancestors (position + Walk.size node) rest) p :=
        shows_of_mem_placesAll htags hne rest hrest
      exact hshows.mono (List.subset_append_right _ _)

end

end Node

/-! ## The outline of a forest nested as written -/

/-- Attributes with their names in lower case, each name once: at its first place, with its last
value. -/
def loweredAttributes (attributes : List (String × Markup.AttributeValue)) :
    List (String × String) :=
  let lowered := attributes.map fun (name, v) => (Text.lower name, attributeText v)
  (lowered.map Prod.fst).eraseDups.map fun name => (name, (lowered.reverse.lookup name).getD "")

theorem entries_builtAttributes (attributes : List (String × Markup.AttributeValue)) :
    (builtAttributes attributes).entries = loweredAttributes attributes := by
  have hentries := Keyed.entries_eq_map_keys (builtAttributes attributes) ""
  simpa only [builtAttributes, loweredAttributes, Keyed.keys_ofList, Keyed.get?_ofList]
    using hentries

namespace Markup.RawNode

mutual

/-- How many texts and elements there are in a node, itself included. -/
def size : RawNode → Nat
  | .text _ => 1
  | .aside _ _ => 0
  | .element _ _ children => sizeAll children + 1

def sizeAll : List RawNode → Nat
  | [] => 0
  | node :: rest => node.size + sizeAll rest

end

mutual

def outline (ancestors : List Mark) (position : Nat) : RawNode → List Entry
  | .text content => [⟨position, .text content, ancestors⟩]
  | .aside _ _ => []
  | .element name attributes children =>
    ⟨position, .element (Text.lower name) (loweredAttributes attributes), ancestors⟩ ::
      outlineAll (⟨position, Text.lower name⟩ :: ancestors) (position + 1) children

/-- The outline of a forest whose first node stands at a position inside some elements. -/
def outlineAll (ancestors : List Mark) (position : Nat) : List RawNode → List Entry
  | [] => []
  | node :: rest =>
    node.outline ancestors position ++ outlineAll ancestors (position + node.size) rest

end

/-! ### Positions -/

mutual

theorem positions_outline (ancestors : List Mark) (position : Nat) (node : RawNode) :
    (node.outline ancestors position).map (·.position) = List.range' position node.size := by
  cases node with
  | text content => rfl
  | aside kind content => rfl
  | element name attributes children =>
    simp only [outline, List.map_cons, size, positions_outlineAll, List.range'_succ]

/-- The positions in the outline of a forest are consecutive. -/
theorem positions_outlineAll (ancestors : List Mark) (position : Nat) (forest : List RawNode) :
    (outlineAll ancestors position forest).map (·.position) =
      List.range' position (sizeAll forest) := by
  cases forest with
  | nil => rfl
  | cons node rest =>
    simp only [outlineAll, List.map_append, sizeAll, positions_outline, positions_outlineAll,
      List.range'_append_1]

end

theorem eq_of_position_eq {forest : List RawNode} {a b : Entry} (ha : a ∈ outlineAll [] 0 forest)
    (hb : b ∈ outlineAll [] 0 forest) (hposition : a.position = b.position) : a = b := by
  have hnodup : ((outlineAll [] 0 forest).map (·.position)).Nodup := by
    simpa [positions_outlineAll] using List.nodup_range'
  exact List.inj_on_of_nodup_map hnodup ha hb hposition

/-! ### Ancestors -/

mutual

theorem marks_of_mem_outline {ancestors : List Mark} {position : Nat} (node : RawNode)
    {e : Entry} (he : e ∈ node.outline ancestors position) {m : Mark} (hm : m ∈ e.ancestors) :
    m ∈ ancestors ∨ ∃ f ∈ node.outline ancestors position, Marks m f := by
  cases node with
  | text content =>
    have heq : e = ⟨position, .text content, ancestors⟩ := List.mem_singleton.1 he
    exact .inl (by simpa [heq] using hm)
  | aside kind content => cases he
  | element name attributes children =>
    rcases List.mem_cons.1 he with rfl | hinner
    · exact .inl hm
    · rcases marks_of_mem_outlineAll children hinner hm with hm' | ⟨f, hf, hmarks⟩
      · -- The nearest ancestor of the children is the element itself.
        rcases List.mem_cons.1 hm' with rfl | houter
        · exact .inr ⟨_, List.mem_cons_self, rfl, rfl⟩
        · exact .inl houter
      · exact .inr ⟨f, List.mem_cons_of_mem _ hf, hmarks⟩

/-- Every ancestor in the outline of a forest is an entry of it or lies further out. -/
theorem marks_of_mem_outlineAll {ancestors : List Mark} {position : Nat}
    (forest : List RawNode) {e : Entry} (he : e ∈ outlineAll ancestors position forest) {m : Mark}
    (hm : m ∈ e.ancestors) :
    m ∈ ancestors ∨ ∃ f ∈ outlineAll ancestors position forest, Marks m f := by
  cases forest with
  | nil => cases he
  | cons node rest =>
    rcases List.mem_append.1 he with hnode | hrest
    · rcases marks_of_mem_outline node hnode hm with houter | ⟨f, hf, hmarks⟩
      · exact .inl houter
      · exact .inr ⟨f, List.mem_append_left _ hf, hmarks⟩
    · rcases marks_of_mem_outlineAll rest hrest hm with houter | ⟨f, hf, hmarks⟩
      · exact .inl houter
      · exact .inr ⟨f, List.mem_append_right _ hf, hmarks⟩

end

end Markup.RawNode

end MarkupAudit
