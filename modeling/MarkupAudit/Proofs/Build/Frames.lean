import MarkupAudit.Proofs.Document.Outline

/-!
# The outline of a trail

A trail is a tree that is still being built: its open elements are the path to the place where the
next node goes. So it has an outline too, which lists finished and open elements alike, and its open
elements are seen as frames, each with its mark in that outline.

Adding a node or opening an element adds to the end of the outline, inside the elements of the
frames. Closing elements takes frames away and leaves the outline as it is.

Main statements: what each operation of a trail does to its frames and its outline
(`frames_append`, `outline_append`, `frames_push`, `outline_push`, `frames_close`, `outline_close`);
the outline of a trail is that of the nodes that it gives (`outlineAll_nodes`).
-/

namespace MarkupAudit

open Outline

namespace Trail

/-- An open element with its mark in the outline. -/
structure Frame extends Mark where
  serial : Nat
  deriving DecidableEq, Repr

/-- How many nodes there are when the document has the finished children `top`. -/
def countOf (top : List Node) : List OpenElement → Nat
  | [] => Walk.sizeAll top
  | e :: outer => countOf top outer + 1 + Walk.sizeAll e.children

def framesOf (top : List Node) : List OpenElement → List Frame
  | [] => []
  | e :: outer => ⟨⟨countOf top outer, e.tag⟩, e.serial⟩ :: framesOf top outer

def outlineOf (top : List Node) : List OpenElement → List Entry
  | [] => Node.outlineAll [] 0 top
  | e :: outer =>
    -- The children of an open element stand behind everything outside it.
    outlineOf top outer ++
      ⟨countOf top outer, .element e.tag e.attributes.entries,
          (framesOf top outer).map Frame.toMark⟩ ::
        Node.outlineAll ((framesOf top (e :: outer)).map Frame.toMark) (countOf top outer + 1)
          e.children

/-- How many texts and elements have been placed. -/
def count (t : Trail) : Nat :=
  countOf t.top t.opened

/-- The open elements, the innermost first. -/
def frames (t : Trail) : List Frame :=
  framesOf t.top t.opened

/-- The marks of the open elements, the innermost first. -/
def marks (t : Trail) : List Mark :=
  t.frames.map Frame.toMark

/-- The tags of the open elements, the innermost first. -/
def tags (t : Trail) : List String :=
  t.frames.map (·.tag)

/-- What has been placed so far, in document order. -/
def outline (t : Trail) : List Entry :=
  outlineOf t.top t.opened

/-! ## What the frames show -/

theorem length_outlineOf (top : List Node) (opened : List OpenElement) :
    (outlineOf top opened).length = countOf top opened := by
  induction opened with
  | nil => simp [outlineOf, countOf, Node.length_outlineAll]
  | cons e outer ih =>
    simp [outlineOf, countOf, Node.length_outlineAll, ih]
    omega

theorem length_outline (t : Trail) : t.outline.length = t.count :=
  length_outlineOf t.top t.opened

theorem map_tag_framesOf (top : List Node) (opened : List OpenElement) :
    (framesOf top opened).map (·.tag) = opened.map (·.tag) := by
  induction opened with
  | nil => rfl
  | cons e outer ih => simp [framesOf, ih]

theorem tags_eq (t : Trail) : t.tags = t.opened.map (·.tag) :=
  map_tag_framesOf t.top t.opened

theorem map_serial_framesOf (top : List Node) (opened : List OpenElement) :
    (framesOf top opened).map (·.serial) = opened.map (·.serial) := by
  induction opened with
  | nil => rfl
  | cons e outer ih => simp [framesOf, ih]

theorem currentTag?_eq (t : Trail) : t.currentTag? = t.tags.head? := by
  simp [tags_eq, currentTag?]

@[simp] theorem frames_start : start.frames = [] := rfl

@[simp] theorem outline_start : start.outline = [] := rfl

/-! ## Adding a node -/

section

variable (t : Trail) (node : Node)

@[simp] theorem frames_append : (t.append node).frames = t.frames := by
  rcases t with ⟨opened, top, next, notices⟩
  cases opened with
  | nil => rfl
  | cons e outer => rfl

@[simp] theorem tags_append : (t.append node).tags = t.tags := by
  simp [tags]

@[simp] theorem next_append : (t.append node).next = t.next := by
  unfold append
  split <;> rfl

@[simp] theorem notices_append : (t.append node).notices = t.notices := by
  unfold append
  split <;> rfl

/-- A node that is added comes last, inside the open elements. -/
theorem outline_append :
    (t.append node).outline = t.outline ++ node.outline t.marks t.count := by
  rcases t with ⟨opened, top, next, notices⟩
  -- Only the innermost list of children grows, and the outline ends with it.
  cases opened with
  | nil =>
    simp [append, outline, outlineOf, marks, frames, framesOf, count, countOf,
      Node.outlineAll_append, Node.outlineAll]
  | cons e outer =>
    simp [append, outline, outlineOf, marks, frames, framesOf, count, countOf,
      Node.outlineAll_append, Node.outlineAll]

theorem count_append : (t.append node).count = t.count + Walk.size node := by
  have hlength := congrArg List.length (outline_append t node)
  simpa [length_outline, Node.length_outline] using hlength

end

theorem foldl_append_nil (top : List Node) (next : Nat) (notices : List Notice)
    (nodes : List Node) :
    nodes.foldl append ⟨[], top, next, notices⟩ = ⟨[], top ++ nodes, next, notices⟩ := by
  induction nodes generalizing top with
  | nil => simp
  | cons node rest ih => simp [append, ih]

theorem foldl_append_cons (e : OpenElement) (outer : List OpenElement) (top : List Node)
    (next : Nat) (notices : List Notice) (nodes : List Node) :
    nodes.foldl append ⟨e :: outer, top, next, notices⟩ =
      ⟨{ e with children := e.children ++ nodes } :: outer, top, next, notices⟩ := by
  induction nodes generalizing e with
  | nil => simp
  | cons node rest ih => simp [append, ih]

/-! ## Opening an element -/

section

variable (t : Trail) (tag : String) (attributes : Attributes)

@[simp] theorem frames_push :
    (t.push tag attributes).frames = ⟨⟨t.count, tag⟩, t.next⟩ :: t.frames := rfl

@[simp] theorem tags_push : (t.push tag attributes).tags = tag :: t.tags := by
  rw [tags, frames_push, List.map_cons, tags]

@[simp] theorem notices_push : (t.push tag attributes).notices = t.notices := rfl

@[simp] theorem outline_push :
    (t.push tag attributes).outline =
      t.outline ++ [⟨t.count, .element tag attributes.entries, t.marks⟩] := rfl

end

/-! ## Notices -/

section

variable (t : Trail) (notice : Notice)

@[simp] theorem frames_note : (t.note notice).frames = t.frames := rfl

@[simp] theorem outline_note : (t.note notice).outline = t.outline := rfl

end

/-! ## Closing elements -/

section

variable (t : Trail)

theorem frames_pop : t.pop.frames = t.frames.tail := by
  rcases t with ⟨opened, top, next, notices⟩
  cases opened with
  | nil => rfl
  | cons e outer => exact frames_append _ _

/-- Closing an element changes nothing in the outline: the finished element stands where the open
one stood. -/
theorem outline_pop : t.pop.outline = t.outline := by
  rcases t with ⟨opened, top, next, notices⟩
  cases opened with
  | nil => rfl
  | cons e outer =>
    -- The finished element is added where the open one stood, with the same mark.
    have happend := outline_append ⟨outer, top, next, notices⟩ e.node
    simp only [OpenElement.node, Node.outline] at happend
    exact happend

theorem next_pop : t.pop.next = t.next := by
  unfold pop
  split <;> simp

theorem notices_pop : t.pop.notices = t.notices := by
  unfold pop
  split <;> simp

end

section

variable (n : Nat) (t : Trail)

@[simp] theorem frames_close : (close n t).frames = t.frames.drop n := by
  induction n generalizing t with
  | zero => rfl
  | succ n ih => rw [close, ih, frames_pop, List.drop_tail]

@[simp] theorem tags_close : (close n t).tags = t.tags.drop n := by
  simp [tags, List.map_drop]

@[simp] theorem outline_close : (close n t).outline = t.outline := by
  induction n generalizing t with
  | zero => rfl
  | succ n ih => rw [close, ih, outline_pop]

@[simp] theorem count_close : (close n t).count = t.count := by
  have hlength := congrArg List.length (outline_close n t)
  simpa only [length_outline] using hlength

@[simp] theorem next_close : (close n t).next = t.next := by
  induction n generalizing t with
  | zero => rfl
  | succ n ih => rw [close, ih, next_pop]

@[simp] theorem notices_close : (close n t).notices = t.notices := by
  induction n generalizing t with
  | zero => rfl
  | succ n ih => rw [close, ih, notices_pop]

end

/-- A trail gives the nodes whose outline it has. -/
theorem outlineAll_nodes (t : Trail) : Node.outlineAll [] 0 t.nodes = t.outline := by
  have hlength : t.tags.length = t.opened.length := by simp [tags_eq]
  have htags : (close t.opened.length t).tags = [] := by
    simp only [tags_close, ← hlength, List.drop_length]
  have hopened : (close t.opened.length t).opened = [] :=
    List.map_eq_nil_iff.1 ((tags_eq _).symm.trans htags)
  have houtline : (close t.opened.length t).outline = t.outline := outline_close _ t
  -- With nothing open, the outline of the trail is that of its finished children.
  rwa [outline, hopened] at houtline

end Trail

end MarkupAudit
