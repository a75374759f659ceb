import MarkupAudit.Proofs.Build.Extent
import MarkupAudit.Proofs.Build.Placement

/-!
# Trees that building leaves as they are

A tree can be read as a forest and built again. It comes back unchanged exactly when it is in normal
form: no start tag in it closes anything, no row lacks its table body and no void element has
children.

In normal form every start tag finds open exactly the ancestors of its element, so the tree is
copied node by node. Conversely a replay never places fewer nodes than the forest has. So if the
outline comes out as that of the tree, no body was implied, and every element was placed inside all
its ancestors; had its start tag closed one of them, it would stand too far out.

Main statement: `replay_eq_self_iff`.
-/

namespace MarkupAudit

open Build Markup Outline

/-! ## Normal form -/

/-- The start tag of an element among such ancestors closes none of them and implies no table body.
The tags of the ancestors are given from the nearest outwards. -/
structure Build.Settled (tag : String) (ancestors : List String) : Prop where
  listItem : tag = "li" →
    ∀ a, ancestors.find? (["li"] ++ listItemBoundary).contains = some a → a ∉ ["li"]
  definition : tag = "dt" ∨ tag = "dd" →
    ∀ a, ancestors.find? (["dt", "dd"] ++ listItemBoundary).contains = some a → a ∉ ["dt", "dd"]
  paragraph : tag ∈ paragraphClosers →
    ∀ a, ancestors.find? (["p"] ++ buttonScope).contains = some a → a ∉ ["p"]
  heading : tag ∈ headings → ∀ parent, ancestors.head? = some parent → parent ∉ headings
  option : tag = "option" → ancestors.head? ≠ some "option"
  optgroup : tag = "optgroup" →
    ancestors.head? ≠ some "option" ∧ ancestors.head? ≠ some "optgroup"
  cell : tag = "td" ∨ tag = "th" →
    ∀ a, ancestors.find? (["td", "th"] ++ cellBoundary).contains = some a → a ∉ ["td", "th"]
  row : tag = "tr" →
    ∀ a, ancestors.find? (["tr", "caption", "colgroup"] ++ rowBoundary).contains = some a →
      a ∉ ["tr", "caption", "colgroup"]
  rowParent : tag = "tr" → ancestors.head? ≠ some "table"
  tablePart : tag ∈ tableSections → ancestors.head? = some "table" ∨ "table" ∉ ancestors

namespace Node

mutual

/-- Building changes nothing about the node and what is in it, when it stands inside ancestors with
the tags. -/
def IsNormal (ancestors : List String) : Node → Prop
  | .text _ => True
  | .element tag _ children =>
    (Element.isVoidTag tag = true → children = []) ∧ Settled tag ancestors ∧
      AllNormal (tag :: ancestors) children

def AllNormal (ancestors : List String) : List Node → Prop
  | [] => True
  | node :: rest => node.IsNormal ancestors ∧ AllNormal ancestors rest

end

mutual

/-- The tags and the names of attributes are in lower case. -/
def IsLower : Node → Prop
  | .text _ => True
  | .element tag attributes children =>
    Text.lower tag = tag ∧ (∀ name ∈ attributes.keys, Text.lower name = name) ∧ AllLower children

def AllLower : List Node → Prop
  | [] => True
  | node :: rest => node.IsLower ∧ AllLower rest

end

mutual

/-- The node as a node of a forest. -/
def raw : Node → RawNode
  | .text content => .text content
  | .element tag attributes children =>
    .element tag (attributes.entries.map fun (name, value) => (name, .text value)) (rawAll children)

def rawAll : List Node → List RawNode
  | [] => []
  | node :: rest => node.raw :: rawAll rest

end

end Node

/-- Attributes whose names are in lower case are built as they are. -/
theorem Build.builtAttributes_raw {attributes : Attributes}
    (hlower : ∀ name ∈ attributes.keys, Text.lower name = name) :
    builtAttributes (attributes.entries.map fun (name, value) => (name, .text value)) =
      attributes := by
  have hentries : (attributes.entries.map fun entry => (entry.1, AttributeValue.text entry.2)).map
      (fun entry => (Text.lower entry.1, attributeText entry.2)) = attributes.entries := by
    rw [List.map_map]
    refine (List.map_congr_left ?_).trans (List.map_id _)
    intro entry hentry
    simp [attributeText, hlower entry.1 (List.mem_map_of_mem hentry)]
  rw [builtAttributes, hentries, Keyed.ofList_entries]

/-! ## Start tags that close nothing -/

namespace Build

theorem Closing.extent_through_eq_zero_iff {targets boundary tags : List String} :
    (Closing.through targets boundary).extent tags = 0 ↔
      ∀ a, tags.find? (targets ++ boundary).contains = some a → a ∉ targets := by
  simp only [extent]
  cases tags.find? (targets ++ boundary).contains with
  | none => simp
  | some a =>
    by_cases htarget : a ∈ targets
    · simp [htarget]
    · simp [htarget]

theorem Closing.extent_current_eq_zero_iff {group tags : List String} :
    (Closing.current group).extent tags = 0 ↔ ∀ a, tags.head? = some a → a ∉ group := by
  simp [extent]

theorem Closing.extent_current_singleton_eq_zero_iff {tag : String} {tags : List String} :
    (Closing.current [tag]).extent tags = 0 ↔ tags.head? ≠ some tag := by
  rw [extent_current_eq_zero_iff]
  constructor
  · intro h hhead
    exact h tag hhead (by simp)
  · intro h a ha hmem
    have heq : a = tag := by simpa using hmem
    exact h (heq ▸ ha)

theorem Closing.extent_inside_eq_zero_iff {tag : String} {tags : List String} :
    (Closing.inside tag).extent tags = 0 ↔ tags.head? = some tag ∨ tag ∉ tags := by
  cases tags with
  | nil => simp [extent]
  | cons first rest =>
    by_cases hfirst : first = tag
    · simp [extent, hfirst]
    · simp [extent, hfirst, Ne.symm hfirst]

/-- A start tag closes nothing and implies no table body exactly when the element is settled. -/
theorem settled_iff {tag : String} {tags : List String} :
    Settled tag tags ↔
      impliedExtent tag tags = 0 ∧ ¬ (tag = "tr" ∧ tags.head? = some "table") := by
  rw [impliedExtent, extentAll_eq_zero_iff]
  constructor
  · intro h
    refine ⟨?_, fun hrow => h.rowParent hrow.1 hrow.2⟩
    intro c hc
    rcases mem_closings_iff.1 hc with ⟨htag, rfl⟩ | ⟨htag, rfl⟩ | ⟨htag, rfl⟩ | ⟨htag, rfl⟩ |
      ⟨htag, rfl⟩ | ⟨htag, rfl | rfl⟩ | ⟨htag, rfl⟩ | ⟨htag, rfl⟩ | ⟨htag, rfl⟩
    · exact Closing.extent_through_eq_zero_iff.2 (h.listItem htag)
    · exact Closing.extent_through_eq_zero_iff.2 (h.definition htag)
    · exact Closing.extent_through_eq_zero_iff.2 (h.paragraph htag)
    · exact Closing.extent_current_eq_zero_iff.2 (h.heading htag)
    · exact Closing.extent_current_singleton_eq_zero_iff.2 (h.option htag)
    · exact Closing.extent_current_singleton_eq_zero_iff.2 (h.optgroup htag).1
    · exact Closing.extent_current_singleton_eq_zero_iff.2 (h.optgroup htag).2
    · exact Closing.extent_through_eq_zero_iff.2 (h.cell htag)
    · exact Closing.extent_through_eq_zero_iff.2 (h.row htag)
    · exact Closing.extent_inside_eq_zero_iff.2 (h.tablePart htag)
  · rintro ⟨hzero, hrow⟩
    have hnone : ∀ {c : Closing}, c ∈ closings tag → c.extent tags = 0 := fun hc => hzero _ hc
    simp only [mem_closings_iff] at hnone
    constructor
    case listItem => exact fun htag => Closing.extent_through_eq_zero_iff.1 (hnone (by simp [htag]))
    case definition =>
      exact fun htag => Closing.extent_through_eq_zero_iff.1 (hnone (by simp [htag]))
    case paragraph =>
      exact fun htag => Closing.extent_through_eq_zero_iff.1 (hnone (by simp [htag]))
    case heading => exact fun htag => Closing.extent_current_eq_zero_iff.1 (hnone (by simp [htag]))
    case option =>
      exact fun htag => Closing.extent_current_singleton_eq_zero_iff.1 (hnone (by simp [htag]))
    case optgroup =>
      exact fun htag => ⟨Closing.extent_current_singleton_eq_zero_iff.1 (hnone (by simp [htag])),
        Closing.extent_current_singleton_eq_zero_iff.1 (hnone (by simp [htag]))⟩
    case cell => exact fun htag => Closing.extent_through_eq_zero_iff.1 (hnone (by simp [htag]))
    case row => exact fun htag => Closing.extent_through_eq_zero_iff.1 (hnone (by simp [htag]))
    case rowParent => exact fun htag hparent => hrow ⟨htag, hparent⟩
    case tablePart => exact fun htag => Closing.extent_inside_eq_zero_iff.1 (hnone (by simp [htag]))

end Build

namespace Trail

theorem ready_of_settled {t : Trail} {tag : String} (h : Settled tag t.tags) : t.ready tag = t :=
  ready_eq_self (settled_iff.1 h).1 (settled_iff.1 h).2

/-- A start tag that leaves everything open and implies no body belongs to a settled element. -/
theorem settled_of_marks_ready {t : Trail} {tag : String} (hlacks : ¬ t.LacksBody tag)
    (hmarks : (t.ready tag).marks = t.marks) : Settled tag t.tags := by
  have hlength : (t.ready tag).tags.length = t.tags.length := by
    simpa [marks, tags] using congrArg List.length hmarks
  have hextent : impliedExtent tag t.tags = 0 := by
    have hle := impliedExtent_le_length t tag
    rw [ready_of_not_lacksBody hlacks, tags_closeImplied, List.length_drop] at hlength
    omega
  rw [lacksBody_iff, hextent, List.drop_zero] at hlacks
  exact settled_iff.2 ⟨hextent, hlacks⟩

/-! ## Normal trees are copied -/

/-- Adding nodes has nothing to do with serials. -/
theorem foldl_append_next (t : Trail) (next : Nat) (nodes : List Node) :
    nodes.foldl append { t with next := next } = { nodes.foldl append t with next := next } := by
  rcases t with ⟨opened, top, _, notices⟩
  cases opened with
  | nil => simp only [foldl_append_nil]
  | cons e outer => simp only [foldl_append_cons]

/-- An element that is opened, filled and ended is added as a whole. -/
theorem finish_push (t : Trail) (tag : String) (kept : Attributes) (children : List Node)
    (next : Nat) :
    ({ children.foldl append (t.push tag kept) with next := next } : Trail).finish t.next =
      { t.append (.element tag kept children) with next := next } := by
  rcases t with ⟨opened, top, serial, notices⟩
  rw [push, foldl_append_cons]
  cases opened <;> simp [finish, depthOf?, close, pop, append, OpenElement.node]

mutual

theorem replay_raw {t : Trail} (node : Node) (hlower : node.IsLower)
    (hnormal : node.IsNormal t.tags) :
    ∃ next, t.replay node.raw = { t.append node with next := next } := by
  cases node with
  | text content => exact ⟨(t.append (.text content)).next, replay_text t content⟩
  | element tag attributes children =>
    rcases hlower with ⟨htag, hnames, hlower⟩
    rcases hnormal with ⟨hchildren, hsettled, hnormal⟩
    have hready := ready_of_settled hsettled
    have hkept := builtAttributes_raw hnames
    by_cases hvoid : Element.isVoidTag tag = true
    · cases hchildren hvoid
      have henter : t.enter tag attributes true = t.append (.element tag attributes []) := by
        simp only [enter, hvoid, hready, if_true]
      refine ⟨(t.append (.element tag attributes [])).next, ?_⟩
      rw [Node.raw, replay_of_void _ _ _ (htag.symm ▸ hvoid), htag, hkept]
      exact (replayAll_nil _).trans henter
    · rcases replayAll_raw (t := t.push tag attributes) children hlower hnormal with
        ⟨next, hcontent⟩
      refine ⟨next, ?_⟩
      rw [Node.raw, replay_of_not_void _ _ _ (htag.symm ▸ hvoid), htag, hkept,
        enter_of_not_void _ _ _ hvoid, hready, hcontent, finish_push]

/-- Trees in normal form are added to the trail as they are. -/
theorem replayAll_raw {t : Trail} (nodes : List Node) (hlower : Node.AllLower nodes)
    (hnormal : Node.AllNormal t.tags nodes) :
    ∃ next, t.replayAll (Node.rawAll nodes) = { nodes.foldl append t with next := next } := by
  cases nodes with
  | nil => exact ⟨t.next, replayAll_nil t⟩
  | cons node rest =>
    rcases replay_raw node hlower.1 hnormal.1 with ⟨next, hnode⟩
    have htags : ({ t.append node with next := next } : Trail).tags = t.tags := tags_append t node
    rcases replayAll_raw (t := { t.append node with next := next }) rest hlower.2
      (htags.symm ▸ hnormal.2) with ⟨next', hrest⟩
    refine ⟨next', ?_⟩
    rw [Node.rawAll, replayAll_cons, hnode, hrest, foldl_append_next, List.foldl_cons]

end

/-! ## Outlines grow by the forest at least -/

/-- From `t` to `t'`, at least so many nodes are placed, behind what is there. -/
def Grows (size : Nat) (t t' : Trail) : Prop :=
  ∃ added, t'.outline = t.outline ++ added ∧ size ≤ added.length

theorem Grows.trans {m n : Nat} {t u v : Trail} (h : Grows m t u) (hnext : Grows n u v) :
    Grows (m + n) t v := by
  rcases h with ⟨added, hadded, hlength⟩
  rcases hnext with ⟨added', hadded', hlength'⟩
  refine ⟨added ++ added', by rw [hadded', hadded, List.append_assoc], ?_⟩
  rw [List.length_append]
  omega

theorem Grows.of_outline_eq {t t' : Trail} (h : t'.outline = t.outline) : Grows 0 t t' :=
  ⟨[], by rw [h, List.append_nil], Nat.le_refl 0⟩

theorem grows_ready (t : Trail) (tag : String) : Grows 0 t (t.ready tag) := by
  by_cases hlacks : t.LacksBody tag
  · rw [ready_of_lacksBody hlacks]
    exact ⟨_, by rw [outline_openBody, outline_closeImplied], Nat.zero_le _⟩
  · exact .of_outline_eq (by rw [ready_of_not_lacksBody hlacks, outline_closeImplied])

theorem grows_enter (t : Trail) (tag : String) (kept : Attributes) (isEmpty : Bool) :
    Grows 1 (t.ready tag) (t.enter tag kept isEmpty) :=
  ⟨_, outline_enter t tag kept isEmpty, Nat.le_refl 1⟩

mutual

theorem grows_replay (t : Trail) (node : RawNode) : Grows node.size t (t.replay node) := by
  cases node with
  | text content =>
    rw [replay_text]
    exact ⟨_, outline_append t _, Nat.le_refl 1⟩
  | aside kind content =>
    rw [replay_aside]
    exact .of_outline_eq rfl
  | element name attributes children =>
    have hcontent := (grows_enter t (Text.lower name) (builtAttributes attributes)
      children.isEmpty).trans (grows_replayAll _ children)
    rw [RawNode.size, Nat.add_comm]
    by_cases hvoid : Element.isVoidTag (Text.lower name) = true
    · rw [replay_of_void t attributes children hvoid]
      simpa using (grows_ready t (Text.lower name)).trans hcontent
    · rw [replay_of_not_void t attributes children hvoid]
      simpa using ((grows_ready t (Text.lower name)).trans hcontent).trans
        (.of_outline_eq (outline_finish _ _))

/-- A replay places every node of the forest. -/
theorem grows_replayAll (t : Trail) (forest : List RawNode) :
    Grows (RawNode.sizeAll forest) t (t.replayAll forest) := by
  cases forest with
  | nil =>
    rw [replayAll_nil]
    exact .of_outline_eq rfl
  | cons node rest =>
    rw [replayAll_cons]
    exact (grows_replay t node).trans (grows_replayAll _ rest)

end

end Trail

namespace Node

mutual

theorem size_raw (node : Node) : node.raw.size = Walk.size node := by
  cases node with
  | text content => rfl
  | element tag attributes children => simp only [raw, RawNode.size, Walk.size, sizeAll_rawAll]

theorem sizeAll_rawAll (nodes : List Node) :
    RawNode.sizeAll (rawAll nodes) = Walk.sizeAll nodes := by
  cases nodes with
  | nil => rfl
  | cons node rest =>
    simp only [rawAll, RawNode.sizeAll, Walk.sizeAll, size_raw, sizeAll_rawAll]

end

end Node

/-! ## Copied trees are normal -/

namespace Trail

/-- When an element and its content add no more than its outline, no table body is implied and
nothing is closed, and the content adds what the outline has for it. -/
theorem settled_of_outline {t : Trail} {tag : String} {attributes : Attributes}
    {children : List Node} (isEmpty : Bool)
    (houtline : ((t.enter tag attributes isEmpty).replayAll (Node.rawAll children)).outline =
      t.outline ++ Node.outline t.marks t.count (.element tag attributes children)) :
    Settled tag t.tags ∧
      ((t.enter tag attributes isEmpty).replayAll (Node.rawAll children)).outline =
        (t.push tag attributes).outline ++
          Node.outlineAll (⟨t.count, tag⟩ :: t.marks) (t.count + 1) children := by
  rcases grows_replayAll (t.enter tag attributes isEmpty) (Node.rawAll children) with
    ⟨added, hadded, hlength⟩
  rw [Node.sizeAll_rawAll] at hlength
  rw [outline_enter] at hadded
  have hlacks : ¬ t.LacksBody tag := by
    -- With a table body there would be one node too many.
    intro hlacks
    have htotal := congrArg List.length (hadded.symm.trans houtline)
    simp [ready_of_lacksBody hlacks, outline_openBody, Node.outline, Node.length_outlineAll]
      at htotal
    omega
  rw [ready_of_not_lacksBody hlacks, outline_closeImplied, count_closeImplied,
    ← ready_of_not_lacksBody hlacks] at hadded
  have hsame := hadded.symm.trans houtline
  simp only [List.append_assoc, List.append_cancel_left_eq, Node.outline, List.singleton_append,
    List.cons.injEq, Entry.mk.injEq, true_and] at hsame
  rcases hsame with ⟨hmarks, hcontent⟩
  refine ⟨settled_of_marks_ready hlacks hmarks, ?_⟩
  rw [hadded, hmarks, hcontent, outline_push]

mutual

theorem isNormal_of_outline {t : Trail} (h : t.Sound) (node : Node) (hlower : node.IsLower)
    (houtline : (t.replay node.raw).outline = t.outline ++ node.outline t.marks t.count) :
    node.IsNormal t.tags := by
  cases node with
  | text content => trivial
  | element tag attributes children =>
    rcases hlower with ⟨htag, hnames, hlower⟩
    have hkept := builtAttributes_raw hnames
    have hentered := h.enter tag attributes (Node.rawAll children).isEmpty
    by_cases hvoid : Element.isVoidTag tag = true
    · rw [Node.raw, replay_of_void _ _ _ (htag.symm ▸ hvoid), htag, hkept] at houtline
      rcases settled_of_outline _ houtline with ⟨hsettled, hcontent⟩
      cases children with
      | nil => exact ⟨fun _ => rfl, hsettled, trivial⟩
      | cons child rest =>
        -- The child would stand in a void element.
        rcases Node.exists_mem_outline (⟨t.count, tag⟩ :: t.marks) (t.count + 1) child with
          ⟨e, he, hancestors⟩
        have hmem : e ∈ ((t.enter tag attributes (Node.rawAll (child :: rest)).isEmpty).replayAll
            (Node.rawAll (child :: rest))).outline := by
          rw [hcontent, Node.outlineAll]
          exact List.mem_append_right _ (List.mem_append_left _ he)
        have hnot := (hentered.replayAll _).parents e hmem ⟨t.count, tag⟩ (by simp [hancestors])
        exact absurd (hvoid.symm.trans hnot) (by decide)
    · rw [Node.raw, replay_of_not_void _ _ _ (htag.symm ▸ hvoid), htag, hkept, outline_finish]
        at houtline
      rcases settled_of_outline _ houtline with ⟨hsettled, hcontent⟩
      rw [enter_of_not_void _ _ _ hvoid, ready_of_settled hsettled] at hentered hcontent
      exact ⟨fun hvoid' => absurd hvoid' hvoid, hsettled,
        allNormal_of_outline hentered children hlower hcontent⟩

/-- Trees whose outline is all that a replay adds are in normal form. -/
theorem allNormal_of_outline {t : Trail} (h : t.Sound) (nodes : List Node)
    (hlower : Node.AllLower nodes)
    (houtline : (t.replayAll (Node.rawAll nodes)).outline =
      t.outline ++ Node.outlineAll t.marks t.count nodes) : Node.AllNormal t.tags nodes := by
  cases nodes with
  | nil => trivial
  | cons node rest =>
    rcases grows_replay t node.raw with ⟨added, hadded, hlength⟩
    rcases grows_replayAll (t.replay node.raw) (Node.rawAll rest) with
      ⟨added', hadded', hlength'⟩
    rw [Node.size_raw] at hlength
    rw [Node.sizeAll_rawAll] at hlength'
    -- Both parts add no less than their outlines, so each adds no more either.
    have hboth : added ++ added' = node.outline t.marks t.count ++
        Node.outlineAll t.marks (t.count + Walk.size node) rest := by
      rw [Node.rawAll, replayAll_cons, hadded', hadded, Node.outlineAll, List.append_assoc]
        at houtline
      exact List.append_cancel_left houtline
    have hfirst : added.length = (node.outline t.marks t.count).length := by
      have htotal := congrArg List.length hboth
      simp only [List.length_append, Node.length_outline, Node.length_outlineAll] at htotal ⊢
      omega
    rcases List.append_inj hboth hfirst with ⟨rfl, rfl⟩
    have hnode := isNormal_of_outline h node hlower.1 hadded
    rcases replay_raw node hlower.1 hnode with ⟨next, hcopied⟩
    have hsound : (t.replay node.raw).Sound := h.replay node.raw
    have hrest : (t.replay node.raw).marks = t.marks ∧
        (t.replay node.raw).count = t.count + Walk.size node ∧
        (t.replay node.raw).tags = t.tags := by
      rw [hcopied]
      exact ⟨congrArg (List.map Frame.toMark) (frames_append t node), count_append t node,
        tags_append t node⟩
    rcases hrest with ⟨hmarks, hcount, htags⟩
    rw [← hmarks, ← hcount] at hadded'
    exact ⟨hnode, htags ▸ allNormal_of_outline hsound rest hlower.2 hadded'⟩

end

end Trail

/-! ## Fixpoints -/

/-- Trees whose names are in lower case are built as they are exactly when they are in normal form,
and then nothing is put right. -/
theorem replay_eq_self_iff (nodes : List Node) (hlower : Node.AllLower nodes) :
    ((Build.replay (Node.rawAll nodes)).1 = nodes ↔ Node.AllNormal [] nodes) ∧
      (Node.AllNormal [] nodes → (Build.replay (Node.rawAll nodes)).2 = []) := by
  have hcopied : Node.AllNormal [] nodes → Build.replay (Node.rawAll nodes) = (nodes, []) := by
    intro hnormal
    rcases Trail.replayAll_raw (t := .start) nodes hlower hnormal with ⟨next, hreplay⟩
    rw [Build.replay, hreplay, Trail.start, Trail.foldl_append_nil]
    rfl
  refine ⟨⟨?_, fun hnormal => by rw [hcopied hnormal]⟩, fun hnormal => by rw [hcopied hnormal]⟩
  intro hsame
  have houtline : (Trail.start.replayAll (Node.rawAll nodes)).outline =
      Node.outlineAll [] 0 nodes := by
    rw [← Trail.outlineAll_nodes]
    exact congrArg (Node.outlineAll [] 0) hsame
  exact Trail.allNormal_of_outline Trail.sound_start nodes hlower houtline

/-- A list is built as it is, but not when one item is inside another. -/
theorem replay_eq_self_iff_items :
    let item : List Node → Node := .element "li" .empty
    let list : List Node → Node := .element "ul" (.ofList [("class", "plain")])
    let apart : List Node := [list [item [.text "one", .element "br" .empty []], item []]]
    let nested : List Node := [list [item [.text "one", item []]]]
    Node.AllLower apart ∧ Build.replay (Node.rawAll apart) = (apart, []) ∧
      Node.AllLower nested ∧ (Build.replay (Node.rawAll nested)).1 ≠ nested := by
  intro item list apart nested
  have hitem : Text.lower "li" = "li" := by decide
  have hlist : Text.lower "ul" = "ul" ∧
      ∀ name ∈ Keyed.keys (.ofList [("class", "plain")] : Attributes), Text.lower name = name := by
    decide
  have hapart : Node.AllLower apart :=
    ⟨⟨hlist.1, hlist.2, ⟨hitem, by decide, trivial, ⟨by decide, by decide, trivial⟩, trivial⟩,
      ⟨hitem, by decide, trivial⟩, trivial⟩, trivial⟩
  have hnested : Node.AllLower nested :=
    ⟨⟨hlist.1, hlist.2, ⟨hitem, by decide, trivial, ⟨hitem, by decide, trivial⟩, trivial⟩,
      trivial⟩, trivial⟩
  have hnormal : Node.AllNormal [] apart :=
    ⟨⟨fun hvoid => absurd hvoid (by decide), settled_iff.2 (by decide),
      ⟨fun hvoid => absurd hvoid (by decide), settled_iff.2 (by decide), trivial,
        ⟨fun _ => rfl, settled_iff.2 (by decide), trivial⟩, trivial⟩,
      ⟨fun _ => rfl, settled_iff.2 (by decide), trivial⟩, trivial⟩, trivial⟩
  refine ⟨hapart, ?_, hnested, ?_⟩
  · rcases replay_eq_self_iff apart hapart with ⟨hsame, hnotices⟩
    exact Prod.ext (hsame.2 hnormal) (hnotices hnormal)
  · intro heq
    rcases (replay_eq_self_iff nested hnested).1.1 heq with
      ⟨⟨-, -, ⟨-, -, -, ⟨-, hinner, -⟩, -⟩, -⟩, -⟩
    exact hinner.listItem rfl "li" (by decide) (by decide)

end MarkupAudit
