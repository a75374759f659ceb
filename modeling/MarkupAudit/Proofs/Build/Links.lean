import MarkupAudit.Proofs.Build.Steps
import MarkupAudit.Proofs.Document.Adoption

/-!
# Links to parents

When a node is placed, it is linked to the innermost open element as its parent, or to the document,
and this link never changes. The elements that are open keep changing during a replay; but in the
finished document every node is in the child list of what it was linked to, and in no other.

Main statements: a replay adds links and changes none (`Trail.placedLinks_replayAll`); the links
lead to the parents in the finished document (`Document.map_linkedPosition_linksAll`);
`parents_agree_with_children`.
-/

namespace MarkupAudit

open Build Markup Outline

/-- What a node is linked to as its parent: the innermost of the elements around it, told by the
number of nodes that were placed before this element, or nothing for the document. -/
def Outline.Entry.parent? (e : Entry) : Option Nat :=
  e.ancestors.head?.map (·.position)

namespace Trail

/-! ## Links during a replay -/

/-- What a node that is placed next is linked to. -/
def link (t : Trail) : Option Nat :=
  t.marks.head?.map (·.position)

/-- The links of what a start tag places. -/
def startLinks (t : Trail) (tag : String) : List (Option Nat) :=
  if t.LacksBody tag then [(t.closeImplied tag).link, (t.ready tag).link] else [(t.ready tag).link]

mutual

/-- The links of what replaying a node places, in the order in which it is placed. -/
def links (t : Trail) : RawNode → List (Option Nat)
  | .text _ => [t.link]
  | .aside _ _ => []
  | .element name attributes children =>
    let tag := Text.lower name
    t.startLinks tag ++
      (t.enter tag (builtAttributes attributes) children.isEmpty).linksAll children

def linksAll (t : Trail) : List RawNode → List (Option Nat)
  | [] => []
  | node :: rest => t.links node ++ (t.replay node).linksAll rest

end

/-- The links of all that was placed so far. -/
def placedLinks (t : Trail) : List (Option Nat) :=
  t.outline.map Entry.parent?

theorem placedLinks_enter (t : Trail) (tag : String) (kept : Attributes) (isEmpty : Bool) :
    (t.enter tag kept isEmpty).placedLinks = t.placedLinks ++ t.startLinks tag := by
  rw [placedLinks, outline_enter, List.map_append]
  by_cases hlacks : t.LacksBody tag
  · simp [placedLinks, startLinks, hlacks, ready_of_lacksBody hlacks, outline_openBody,
      Entry.parent?, link]
  · simp [placedLinks, startLinks, hlacks, ready_of_not_lacksBody hlacks, Entry.parent?, link]

mutual

theorem placedLinks_replay (t : Trail) (node : RawNode) :
    (t.replay node).placedLinks = t.placedLinks ++ t.links node := by
  cases node with
  | text content =>
    simp [replay_text, placedLinks, outline_append, Node.outline, Entry.parent?, links, link]
  | aside kind content => simp [replay_aside, links]
  | element name attributes children =>
    have hcontent := placedLinks_replayAll
      (t.enter (Text.lower name) (builtAttributes attributes) children.isEmpty) children
    rw [placedLinks_enter, List.append_assoc] at hcontent
    by_cases hvoid : Element.isVoidTag (Text.lower name) = true
    · rw [replay_of_void t attributes children hvoid, hcontent, links]
    · -- An end tag only changes which elements are open.
      rw [replay_of_not_void t attributes children hvoid, placedLinks, outline_finish, links]
      exact hcontent

/-- A replay adds the links of what it places and changes none. -/
theorem placedLinks_replayAll (t : Trail) (forest : List RawNode) :
    (t.replayAll forest).placedLinks = t.placedLinks ++ t.linksAll forest := by
  cases forest with
  | nil => simp [replayAll_nil, linksAll]
  | cons node rest =>
    rw [replayAll_cons, placedLinks_replayAll, placedLinks_replay, linksAll, List.append_assoc]

end

end Trail

/-! ## Links in the finished document -/

/-- The position of what a link leads to, when the nodes are in the order in which they were
placed. -/
def linkedPosition (nodes : List Adopted) : Option Nat → Nat
  | none => 0
  | some before => (nodes.take before).countP (·.node.isElement) + 1

/-- What was adopted before a node with so many nodes before it that stands at the position. -/
structure Precedes (before : List Adopted) (count position : Nat) : Prop where
  count : before.length = count
  position : before.countP (·.node.isElement) + 1 = position

section

variable {before : List Adopted} {count position : Nat}

theorem Precedes.linkedPosition_eq (h : Precedes before count position) (after : List Adopted) :
    linkedPosition (before ++ after) (some count) = position := by
  rw [linkedPosition, ← h.count, List.take_left, h.position]

theorem Precedes.element (h : Precedes before count position) (parent : Nat) (tag : String)
    (attributes : Attributes) (children : List Node) :
    Precedes (before ++ [⟨parent, .element tag attributes children⟩]) (count + 1)
      (position + 1) where
  count := by rw [List.length_append, h.count, List.length_singleton]
  position := by
    rw [List.countP_append, ← h.position]
    rfl

theorem Precedes.node (h : Precedes before count position) (parent : Nat) (node : Node) :
    Precedes (before ++ node.adopted parent position) (count + Walk.size node)
      (position + node.elementCount) where
  count := by rw [List.length_append, h.count, Node.length_adopted]
  position := by
    rw [List.countP_append, Node.countP_adopted, ← h.position]
    omega

end

namespace Node

mutual

theorem map_linkedPosition_outline {ancestors : List Mark} {parent count position : Nat}
    (node : Node) {all before after : List Adopted} (hbefore : Precedes before count position)
    (hall : all = before ++ (node.adopted parent position ++ after))
    (hparent : linkedPosition all (ancestors.head?.map (·.position)) = parent) :
    (node.outline ancestors count).map (fun e => linkedPosition all e.parent?) =
      (node.adopted parent position).map (·.parent) := by
  cases node with
  | text content => simp [outline, adopted, Entry.parent?, hparent]
  | element tag attributes children =>
    -- The links from the inside lead to the element itself.
    have hself : linkedPosition all (some count) = position := hall ▸ hbefore.linkedPosition_eq _
    have hsplit : all = (before ++ [⟨parent, .element tag attributes children⟩]) ++
        (adoptedAll position (position + 1) children ++ after) := by
      simp [hall, adopted]
    have hinside :
        (outlineAll (⟨count, tag⟩ :: ancestors) (count + 1) children).map
            (fun e => linkedPosition all e.parent?) =
          (adoptedAll position (position + 1) children).map (·.parent) :=
      map_linkedPosition_outlineAll children (hbefore.element parent tag attributes children)
        hsplit hself
    rw [outline, adopted, List.map_cons, List.map_cons, hinside, Entry.parent?, hparent]

/-- In the outline of nodes the links lead to the parents that have adopted the nodes. -/
theorem map_linkedPosition_outlineAll {ancestors : List Mark} {parent count position : Nat}
    (nodes : List Node) {all before after : List Adopted}
    (hbefore : Precedes before count position)
    (hall : all = before ++ (adoptedAll parent position nodes ++ after))
    (hparent : linkedPosition all (ancestors.head?.map (·.position)) = parent) :
    (outlineAll ancestors count nodes).map (fun e => linkedPosition all e.parent?) =
      (adoptedAll parent position nodes).map (·.parent) := by
  cases nodes with
  | nil => rfl
  | cons node rest =>
    rw [adoptedAll, List.append_assoc] at hall
    have hrest : all = (before ++ node.adopted parent position) ++
        (adoptedAll parent (position + node.elementCount) rest ++ after) := by
      rw [hall, List.append_assoc]
    rw [outlineAll, adoptedAll, List.map_append, List.map_append,
      map_linkedPosition_outline node hbefore hall hparent,
      map_linkedPosition_outlineAll rest (hbefore.node parent node) hrest hparent]

end

end Node

/-- The links that a replay makes lead to the parents in the finished document. -/
theorem Document.map_linkedPosition_linksAll (source : String) (noticed : List Notice)
    (forest : List RawNode) :
    let d := Document.ofForest source noticed forest
    (Trail.start.linksAll forest).map (linkedPosition d.adopted) = d.adopted.map (·.parent) := by
  intro d
  have hlinks : (Node.outlineAll [] 0 d.nodes).map Entry.parent? =
      Trail.start.linksAll forest := by
    rw [show d.nodes = (Trail.start.replayAll forest).nodes from rfl, Trail.outlineAll_nodes]
    exact Trail.placedLinks_replayAll Trail.start forest
  have hall : d.adopted = [] ++ (Node.adoptedAll 0 1 d.nodes ++ []) := by
    rw [List.append_nil, List.nil_append, adopted]
  rw [← hlinks, List.map_map]
  exact Node.map_linkedPosition_outlineAll d.nodes ⟨rfl, rfl⟩ hall rfl

/-! ## Agreement -/

/-- Parent links and child lists agree. What each node is linked to when it is placed is its parent
in the finished document, and there is one such parent. The child lists together hold each node
once, with its parent, and the child list of a parent is made of the nodes that are linked to it, in
the order in which they were placed. An element has this parent as a place too. So an element is
among the ancestors of another one exactly if the walk through what is inside it finds the other
one, and the ancestors of an element are these elements, the nearest first, each inside the next
one, without the document. -/
theorem parents_agree_with_children (source : String) (noticed : List Notice)
    (forest : List RawNode) :
    let d := Document.ofForest source noticed forest
    (Trail.start.linksAll forest).map (linkedPosition d.adopted) = d.adopted.map (·.parent) ∧
      (∀ x ∈ d.adopted, ∃! parent, parent ∈ d.parents ∧ parent.position = x.parent) ∧
      (d.parents.flatMap fun parent =>
        parent.element.children.map (Adopted.mk parent.position)).Perm d.adopted ∧
      (∀ parent ∈ d.parents,
        adoptedBy parent.position d.adopted = parent.element.children) ∧
      d.adopted.filterMap Adopted.element? =
        d.places.map (fun p => (p.parent?.map (·.position), p.element)) ∧
      (∀ p ∈ d.places, ∀ a ∈ d.places,
        a.located ∈ p.ancestors ↔ p ∈ Walk.descendants a) ∧
      ∀ p ∈ d.places, ∃ chain, d.Lineage p chain := by
  intro d
  exact ⟨Document.map_linkedPosition_linksAll source noticed forest,
    fun _ hx => Document.existsUnique_parent hx, d.flatMap_children_perm,
    fun _ hparent => Document.adoptedBy_of_mem_parents hparent, d.filterMap_adopted,
    fun _ hp _ ha => Document.located_mem_ancestors_iff hp ha,
    fun _ hp => Document.exists_lineage hp⟩

/-- The row stands in the body that it was given, behind the text in its table. -/
theorem parents_agree_with_children_row :
    let forest : List RawNode := [.element "table" [] [.text "one", .element "tr" [] []]]
    let d := Document.ofForest "" [] forest
    Trail.start.linksAll forest = [none, some 0, some 0, some 2] ∧
      d.adopted.map (·.parent) = [0, 1, 1, 2] ∧
      ∃ row ∈ d.places, row.ancestors.map (·.element.tag) = ["tbody", "table"] ∧
        ∃ chain, d.Lineage row chain := by
  intro forest d
  rcases parents_agree_with_children "" [] forest with ⟨hlinks, -, -, -, -, -, hlineage⟩
  have hrow : ∃ row ∈ d.places, row.ancestors.map (·.element.tag) = ["tbody", "table"] := by decide
  rcases hrow with ⟨row, hrow, htags⟩
  exact ⟨by decide, hlinks.symm.trans (by decide), row, hrow, htags, hlineage row hrow⟩

end MarkupAudit
