import MarkupAudit.Document.Parse
import MarkupAudit.Proofs.Build.Origin
import MarkupAudit.Proofs.Build.Sequence
import Mathlib.Data.List.Chain

/-!
# The stack of open elements

A trail keeps apart what an open element holds already and what is open inside it. Put together,
the open elements are a stack: each with all its children, the document at the bottom, and each
element above it the last child of the one below. Every such stack belongs to a trail.

Main statements: the open elements of a trail are a stack if none is void
(`Trail.isStack_elements_iff`), and every stack is that of some trail
(`Trail.exists_trail_of_isStack`); an element that is open behind a node was open before, with the
same elements around it, or is a table body that was implied (`Trail.suffix_or_implied_of_replay`);
the discipline of the stack (`stack_replay`).
-/

namespace MarkupAudit

open Build Markup

namespace Trail

/-! ## Stacks -/

/-- An element on the stack with all that it holds so far. The document has no frame. -/
structure Standing where
  frame : Option Frame
  element : Element

/-- The stack of open elements, the innermost first, when `inside` stands in the innermost one
behind its finished children. -/
def stackOf (top : List Node) : List OpenElement → List Node → List Standing
  | [], inside => [⟨none, (Document.ofNodes "" (top ++ inside)).root⟩]
  | e :: outer, inside =>
    ⟨some ⟨⟨countOf top outer, e.tag⟩, e.serial⟩, ⟨e.tag, e.attributes, e.children ++ inside⟩⟩ ::
      stackOf top outer [.element e.tag e.attributes (e.children ++ inside)]

/-- The stack of open elements, the innermost first, with the document at its bottom. -/
def stack (t : Trail) : List Standing :=
  stackOf t.top t.opened []

/-- The elements on the stack. -/
def elements (t : Trail) : List Element :=
  t.stack.map (·.element)

/-- What the elements on the stack are told by. -/
def standingFrames (t : Trail) : List (Option Frame) :=
  t.stack.map (·.frame)

def IsLastChild (inner outer : Element) : Prop :=
  outer.children.getLast? = some inner.node

/-- The elements are a stack, the innermost first: the document is at the bottom, each element above
it is the last child of the one below, and none is void. -/
structure IsStack (elements : List Element) : Prop where
  bottom : ∃ d : Document, elements.getLast? = some d.root
  lastChild : elements.IsChain IsLastChild
  notVoid : ∀ e ∈ elements, ¬ e.isVoid = true

theorem map_frame_stackOf (top : List Node) (opened : List OpenElement) (inside : List Node) :
    (stackOf top opened inside).map (·.frame) = (framesOf top opened).map some ++ [none] := by
  induction opened generalizing inside with
  | nil => rfl
  | cons e outer ih => simp [stackOf, framesOf, ih]

theorem standingFrames_eq (t : Trail) : t.standingFrames = t.frames.map some ++ [none] :=
  map_frame_stackOf t.top t.opened []

theorem map_tag_stackOf (top : List Node) (opened : List OpenElement) (inside : List Node) :
    (stackOf top opened inside).map (·.element.tag) =
      opened.map (·.tag) ++ [Document.rootTag] := by
  induction opened generalizing inside with
  | nil => rfl
  | cons e outer ih => simp [stackOf, ih]

theorem map_tag_elements (t : Trail) :
    t.elements.map (·.tag) = t.tags ++ [Document.rootTag] := by
  rw [elements, List.map_map, tags_eq]
  exact map_tag_stackOf t.top t.opened []

theorem stackOf_ne_nil (top : List Node) (opened : List OpenElement) (inside : List Node) :
    stackOf top opened inside ≠ [] := by
  cases opened <;> simp [stackOf]

theorem getLast?_stackOf (top : List Node) (opened : List OpenElement) (inside : List Node)
    (next : Nat) (notices : List Notice) :
    (stackOf top opened inside).getLast? =
      some ⟨none, (Document.ofNodes ""
        (inside.foldl append ⟨opened, top, next, notices⟩).nodes).root⟩ := by
  induction opened generalizing inside with
  | nil => simp [stackOf, foldl_append_nil, nodes, close]
  | cons e outer ih =>
    rw [stackOf, List.getLast?_cons_of_ne_nil (stackOf_ne_nil _ _ _), ih, foldl_append_cons]
    -- Closing the innermost element puts it where it stands on the stack.
    have hopened (node : Node) : ((append ⟨outer, top, next, notices⟩ node).opened).length =
        outer.length := by
      cases outer <;> rfl
    simp [nodes, close, pop, OpenElement.node, hopened]

/-- At the bottom is the document with the nodes that the trail gives. -/
theorem getLast?_elements (t : Trail) :
    t.elements.getLast? = some (Document.ofNodes "" t.nodes).root := by
  rw [elements, List.getLast?_map, stack, getLast?_stackOf t.top t.opened [] t.next t.notices]
  rfl

theorem stackOf_eq_cons (top : List Node) (opened : List OpenElement) (inside : List Node) :
    ∃ s rest kept, stackOf top opened inside = s :: rest ∧ s.element.children = kept ++ inside := by
  cases opened with
  | nil => exact ⟨_, [], top, rfl, rfl⟩
  | cons e outer => exact ⟨_, _, e.children, rfl, rfl⟩

theorem isChain_stackOf (top : List Node) (opened : List OpenElement) (inside : List Node) :
    ((stackOf top opened inside).map (·.element)).IsChain IsLastChild := by
  induction opened generalizing inside with
  | nil => exact .singleton _
  | cons e outer ih =>
    have houter := ih [.element e.tag e.attributes (e.children ++ inside)]
    rcases stackOf_eq_cons top outer [.element e.tag e.attributes (e.children ++ inside)] with
      ⟨s, rest, kept, hstack, hchildren⟩
    rw [hstack, List.map_cons] at houter
    rw [stackOf, hstack, List.map_cons, List.map_cons]
    exact List.isChain_cons_cons.2 ⟨by simp [IsLastChild, hchildren, Element.node], houter⟩

/-- No open element is void. -/
def LacksVoid (t : Trail) : Prop :=
  ∀ tag ∈ t.tags, ¬ Element.isVoidTag tag = true

/-- The open elements of a trail are a stack as long as none is void. -/
theorem isStack_elements_iff {t : Trail} : IsStack t.elements ↔ t.LacksVoid := by
  constructor
  · intro h tag htag
    have hmem : tag ∈ t.elements.map (·.tag) := by
      rw [map_tag_elements]
      exact List.mem_append_left _ htag
    rcases List.mem_map.1 hmem with ⟨e, he, rfl⟩
    exact h.notVoid e he
  · intro h
    refine ⟨⟨_, getLast?_elements t⟩, isChain_stackOf t.top t.opened [], ?_⟩
    intro e he
    have htag : e.tag ∈ t.tags ++ [Document.rootTag] :=
      map_tag_elements t ▸ List.mem_map_of_mem he
    rcases List.mem_append.1 htag with hopen | hroot
    · exact h e.tag hopen
    · rw [Element.isVoid, List.mem_singleton.1 hroot]
      decide

/-! ### The trail of a stack -/

/-- The open elements of a stack. Its innermost element has finished children and then `inside`. -/
theorem exists_stackOf_eq {e : Element} {outer : List Element} {d : Document}
    (hbottom : (e :: outer).getLast? = some d.root)
    (hchain : (e :: outer).IsChain IsLastChild) {kept inside : List Node}
    (hchildren : e.children = kept ++ inside) :
    ∃ top opened, opened.map (·.serial) = (List.range opened.length).reverse ∧
      (stackOf top opened inside).map (·.element) = e :: outer := by
  induction outer generalizing e kept inside with
  | nil =>
    have hroot : e = d.root := by simpa using hbottom
    refine ⟨kept, [], rfl, ?_⟩
    rw [stackOf, ← hchildren, hroot]
    rfl
  | cons below rest ih =>
    rcases List.isChain_cons_cons.1 hchain with ⟨hlast, hrest⟩
    rcases List.getLast?_eq_some_iff.1 hlast with ⟨before, hbelow⟩
    rw [List.getLast?_cons_cons] at hbottom
    rcases ih hbottom hrest hbelow with ⟨top, opened, hserials, hstack⟩
    refine ⟨top, ⟨opened.length, e.tag, e.attributes, kept⟩ :: opened, ?_, ?_⟩
    · simp [hserials, List.range_succ]
    · rw [stackOf, ← hchildren, List.map_cons]
      exact congrArg (e :: ·) hstack

/-- Every stack is that of a trail whose serials tell its elements apart. -/
theorem exists_trail_of_isStack {elements : List Element} (h : IsStack elements) :
    ∃ t : Trail, t.Ordered ∧ t.elements = elements := by
  rcases h.bottom with ⟨d, hbottom⟩
  cases elements with
  | nil => simp at hbottom
  | cons e outer =>
    rcases exists_stackOf_eq hbottom h.lastChild (List.append_nil e.children).symm with
      ⟨top, opened, hserials, hstack⟩
    refine ⟨⟨opened, top, opened.length, []⟩, ?_, hstack⟩
    have hdescending : (List.range (opened.length + 1)).reverse.Pairwise (· > ·) :=
      List.pairwise_reverse.2 List.pairwise_lt_range
    simpa [Ordered, serials_eq, hserials, List.range_succ] using hdescending

/-! ## Void elements are never open -/

theorem LacksVoid.close {t : Trail} (h : t.LacksVoid) (n : Nat) : (close n t).LacksVoid := by
  intro tag htag
  rw [tags_close] at htag
  exact h tag (List.mem_of_mem_drop htag)

theorem LacksVoid.push {t : Trail} (h : t.LacksVoid) {tag : String}
    (hvoid : ¬ Element.isVoidTag tag = true) (kept : Attributes) :
    (t.push tag kept).LacksVoid := by
  intro x hx
  rw [tags_push] at hx
  rcases List.mem_cons.1 hx with rfl | hopen
  · exact hvoid
  · exact h x hopen

theorem LacksVoid.ready {t : Trail} (h : t.LacksVoid) (tag : String) :
    (t.ready tag).LacksVoid := by
  have hclosed : (t.closeImplied tag).LacksVoid := by
    rw [closeImplied_eq_close]
    exact h.close _
  by_cases hlacks : t.LacksBody tag
  · rw [ready_of_lacksBody hlacks]
    exact hclosed.push (by decide) .empty
  · rwa [ready_of_not_lacksBody hlacks]

theorem LacksVoid.enter {t : Trail} (h : t.LacksVoid) (tag : String) (kept : Attributes)
    (isEmpty : Bool) : (t.enter tag kept isEmpty).LacksVoid := by
  by_cases hvoid : Element.isVoidTag tag = true
  · -- A void element ends at once, so what is open is what was open around it.
    rw [LacksVoid, tags, frames_enter_of_void t kept isEmpty hvoid]
    exact h.ready tag
  · rw [enter_of_not_void t kept isEmpty hvoid]
    exact (h.ready tag).push hvoid kept

theorem lacksVoid_replay {t : Trail} (h : t.LacksVoid) (node : RawNode) :
    (t.replay node).LacksVoid := by
  refine replay_invariant ?_ (fun _ tag kept isEmpty h => h.enter tag kept isEmpty)
    (fun _ n h => h.close n) t node h
  intro t content h
  rw [LacksVoid, tags_append]
  exact h

/-! ## What is open behind a node -/

/-- The frame is that of a table body that was implied, when nodes with these origins were placed
from a position on. -/
def ImpliedAmong (origins : List (Option Nat)) (position : Nat) (f : Frame) : Prop :=
  ∃ before after, origins = before ++ none :: after ∧ f.position = position + before.length

theorem ImpliedAmong.append_right {origins : List (Option Nat)} {position : Nat} {f : Frame}
    (h : ImpliedAmong origins position f) (later : List (Option Nat)) :
    ImpliedAmong (origins ++ later) position f := by
  rcases h with ⟨before, after, rfl, hposition⟩
  exact ⟨before, after ++ later, by simp, hposition⟩

theorem ImpliedAmong.append_left {origins earlier : List (Option Nat)} {position : Nat} {f : Frame}
    (h : ImpliedAmong origins (position + earlier.length) f) :
    ImpliedAmong (earlier ++ origins) position f := by
  rcases h with ⟨before, after, rfl, hposition⟩
  exact ⟨earlier ++ before, after, by simp, by simp [hposition, Nat.add_assoc]⟩

section

variable {f : Frame} {outer : List Frame}

theorem suffix_or_implied_of_ready {t : Trail} {tag : String} (first : Nat)
    (h : f :: outer <:+ (t.ready tag).frames) :
    f :: outer <:+ t.frames ∨ ImpliedAmong (t.startOrigins first tag) t.count f := by
  have hclosed := suffix_frames_closeImplied t tag
  by_cases hlacks : t.LacksBody tag
  · rw [ready_of_lacksBody hlacks, frames_openBody, count_closeImplied] at h
    rcases List.suffix_cons_iff.1 h with heq | hleft
    · cases heq
      rw [startOrigins, if_pos hlacks]
      exact .inr ⟨[], [some first], rfl, rfl⟩
    · exact .inl (hleft.trans hclosed)
  · rw [ready_of_not_lacksBody hlacks] at h
    exact .inl (h.trans hclosed)

/-- A body that was implied in the content of an element was implied in the element. -/
theorem ImpliedAmong.of_content {t : Trail} {first : Nat} {name : String}
    {attributes : List (String × AttributeValue)} {children : List RawNode}
    (h :
      let entered := t.enter (Text.lower name) (builtAttributes attributes) children.isEmpty
      ImpliedAmong (entered.originsAll (first + 1) children) entered.count f) :
    ImpliedAmong (t.origins first (.element name attributes children)) t.count f := by
  simp only [count_enter_eq t first] at h
  exact h.append_left

mutual

theorem suffix_or_implied_of_replay {t : Trail} (hordered : t.Ordered) (first : Nat)
    (node : RawNode) (h : f :: outer <:+ (t.replay node).frames) :
    f :: outer <:+ t.frames ∨ ImpliedAmong (t.origins first node) t.count f := by
  cases node with
  | text content =>
    rw [replay_text, frames_append] at h
    exact .inl h
  | aside kind content =>
    rw [replay_aside] at h
    exact .inl h
  | element name attributes children =>
    have hentered := hordered.enter (Text.lower name) (builtAttributes attributes) children.isEmpty
    have hready (hleft : f :: outer <:+ (t.ready (Text.lower name)).frames) :
        f :: outer <:+ t.frames ∨
          ImpliedAmong (t.origins first (.element name attributes children)) t.count f :=
      (suffix_or_implied_of_ready first hleft).imp_right fun himplied => himplied.append_right _
    by_cases hvoid : Element.isVoidTag (Text.lower name) = true
    · rw [replay_of_void t attributes children hvoid] at h
      rcases suffix_or_implied_of_replayAll hentered (first + 1) children h with hleft | hinside
      · rw [frames_enter_of_void t _ _ hvoid] at hleft
        exact hready hleft
      · exact .inr hinside.of_content
    · rw [replay_of_not_void t attributes children hvoid] at h
      rcases (ordered_replayAll hentered children).finish (t.ready (Text.lower name)).next with
        ⟨hsuffix, habsent, -⟩
      rcases suffix_or_implied_of_replayAll hentered (first + 1) children (h.trans hsuffix) with
        hleft | hinside
      · rw [enter_of_not_void t _ _ hvoid, frames_push] at hleft
        rcases List.suffix_cons_iff.1 hleft with heq | hleft
        · -- The element itself is not open any more behind its end tag.
          cases heq
          exact absurd (List.mem_map_of_mem (h.subset List.mem_cons_self)) habsent
        · exact hready hleft
      · exact .inr hinside.of_content

/-- An element that is open behind a forest was open before it, with the same elements around it, or
is a table body that was implied. -/
theorem suffix_or_implied_of_replayAll {t : Trail} (hordered : t.Ordered) (first : Nat)
    (forest : List RawNode) (h : f :: outer <:+ (t.replayAll forest).frames) :
    f :: outer <:+ t.frames ∨ ImpliedAmong (t.originsAll first forest) t.count f := by
  cases forest with
  | nil =>
    rw [replayAll_nil] at h
    exact .inl h
  | cons node rest =>
    rw [replayAll_cons] at h
    rcases suffix_or_implied_of_replayAll (ordered_replay hordered node) (first + node.size) rest h
      with hleft | hlater
    · exact (suffix_or_implied_of_replay hordered first node hleft).imp_right fun himplied =>
        himplied.append_right _
    · rw [count_replay t first node] at hlater
      exact .inr hlater.append_left

end

end

/-! ## The discipline of the stack -/

/-- What stands on the stack behind a node: what is left of the stack in front of it, the document
at least, and on a table perhaps one body that was implied for it. -/
def StackLeft (before : Trail) (node : RawNode) (after : Trail) : Prop :=
  after.standingFrames ≠ [] ∧
    (after.standingFrames <:+ before.standingFrames ∨
      ∃ body table outer, after.standingFrames = some body :: some table :: outer ∧
        body.tag = "tbody" ∧ table.tag = "table" ∧
        some table :: outer <:+ before.standingFrames ∧
        ImpliedAmong (before.origins 0 node) before.count body)

theorem suffix_standingFrames {t : Trail} {left : List Frame} (h : left <:+ t.frames) :
    left.map some ++ [none] <:+ t.standingFrames := by
  rw [standingFrames_eq]
  exact List.suffix_append_self_iff.2 (h.map some)

theorem stackLeft_replay {t : Trail} (hordered : t.Ordered) (node : RawNode) :
    t.StackLeft node (t.replay node) := by
  have hafter := standingFrames_eq (t.replay node)
  refine ⟨by simp [hafter], ?_⟩
  rcases remains_replay hordered node with
    hleft | ⟨body, table, outer, hframes, hbody, htable, houter⟩
  · left
    rw [hafter]
    exact suffix_standingFrames hleft
  · have hwhole : body :: table :: outer <:+ (t.replay node).frames := ⟨[], hframes.symm⟩
    rw [hframes] at hafter
    rcases suffix_or_implied_of_replay hordered 0 node hwhole with hopen | himplied
    · -- The body was open in front of the node already.
      left
      rw [hafter]
      exact suffix_standingFrames hopen
    · right
      have hkept := suffix_standingFrames houter
      rw [List.map_cons, List.cons_append] at hkept
      exact ⟨body, table, outer.map some ++ [none], by simpa using hafter, hbody, htable, hkept,
        himplied⟩

end Trail

/-- Replaying a node leaves the stack from the document up to some element, and if this is a table,
perhaps a body on it that was implied. What is left is a stack again, so the body is the last child
of the table. This is true of every stack: it is that of some trail, and whatever trail it is that
of, the node leaves such a stack. -/
theorem stack_replay {elements : List Element} (hstack : Trail.IsStack elements) (node : RawNode) :
    (∃ t : Trail, t.Ordered ∧ t.elements = elements) ∧
      ∀ t : Trail, t.Ordered → t.elements = elements →
        t.StackLeft node (t.replay node) ∧ Trail.IsStack (t.replay node).elements := by
  refine ⟨Trail.exists_trail_of_isStack hstack, ?_⟩
  rintro t hordered rfl
  have hvoid : t.LacksVoid := Trail.isStack_elements_iff.1 hstack
  exact ⟨Trail.stackLeft_replay hordered node,
    Trail.isStack_elements_iff.2 (Trail.lacksVoid_replay hvoid node)⟩

/-- Behind a row the body that it lacked is still open. -/
theorem stack_replay_row :
    let t := Trail.start.push "table" .empty
    let row : RawNode := .element "TR" [] []
    let elements : List Element :=
      [⟨"table", .empty, []⟩, ⟨Document.rootTag, .empty, [.element "table" .empty []]⟩]
    Trail.IsStack elements ∧ t.Ordered ∧ t.elements = elements ∧
      (t.replay row).standingFrames =
        [some ⟨⟨1, "tbody"⟩, 1⟩, some ⟨⟨0, "table"⟩, 0⟩, none] ∧
      t.StackLeft row (t.replay row) ∧ Trail.IsStack (t.replay row).elements := by
  intro t row elements
  have hstack : Trail.IsStack elements :=
    ⟨⟨.ofNodes "" [.element "table" .empty []], rfl⟩,
      List.isChain_cons_cons.2 ⟨rfl, .singleton _⟩, by decide⟩
  have hordered : t.Ordered := Trail.ordered_start.push "table" .empty
  exact ⟨hstack, hordered, rfl, by decide, (stack_replay hstack row).2 t hordered rfl⟩

end MarkupAudit
