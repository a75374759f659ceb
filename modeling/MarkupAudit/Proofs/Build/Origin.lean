import MarkupAudit.Proofs.Build.Steps

/-!
# Where the nodes of a document come from

A replay makes every node either for one node of the forest, or as a table body that a row lacked.
Its origins tell which, node by node in document order. With them the outline of the built document
can be read in terms of the forest: implied table bodies are left out, and each element is told by
the position of the node that it was made for.

Main statements: there is one origin for each node that is placed (`Trail.count_replayAll`); what a
start tag adds in terms of the forest is its own element (`Trail.traced_enter`).
-/

namespace MarkupAudit

open Build Markup Outline
open scoped List

/-! ## Origins -/

namespace Trail

/-- The origins of what a start tag places. -/
def startOrigins (t : Trail) (first : Nat) (tag : String) : List (Option Nat) :=
  if t.LacksBody tag then [none, some first] else [some first]

mutual

/-- The origins of what replaying a node places, when the texts and elements of the forest are
counted from `first` on; an implied table body has none. -/
def origins (t : Trail) (first : Nat) : RawNode → List (Option Nat)
  | .text _ => [some first]
  | .aside _ _ => []
  | .element name attributes children =>
    let tag := Text.lower name
    t.startOrigins first tag ++
      (t.enter tag (builtAttributes attributes) children.isEmpty).originsAll (first + 1) children

def originsAll (t : Trail) (first : Nat) : List RawNode → List (Option Nat)
  | [] => []
  | node :: rest => t.origins first node ++ (t.replay node).originsAll (first + node.size) rest

end

/-! ### Every node that is placed has an origin -/

theorem count_enter_eq (t : Trail) {tag : String} (first : Nat) (kept : Attributes)
    (isEmpty : Bool) :
    (t.enter tag kept isEmpty).count = t.count + (t.startOrigins first tag).length := by
  have hcount := count_enter t tag kept isEmpty
  by_cases hlacks : t.LacksBody tag
  · simpa [startOrigins, hlacks, ready_of_lacksBody hlacks, count_openBody] using hcount
  · simpa [startOrigins, hlacks, ready_of_not_lacksBody hlacks] using hcount

mutual

theorem count_replay (t : Trail) (first : Nat) (node : RawNode) :
    (t.replay node).count = t.count + (t.origins first node).length := by
  cases node with
  | text content => simp [replay_text, count_append, origins, Walk.size]
  | aside kind content => simp [replay_aside, origins]
  | element name attributes children =>
    have hcontent := count_replayAll
      (t.enter (Text.lower name) (builtAttributes attributes) children.isEmpty) (first + 1) children
    rw [count_enter_eq t first, Nat.add_assoc, ← List.length_append] at hcontent
    -- An end tag places nothing, so void elements differ from others in nothing here.
    by_cases hvoid : Element.isVoidTag (Text.lower name) = true
    · simpa only [replay_of_void t attributes children hvoid, origins] using hcontent
    · simpa only [replay_of_not_void t attributes children hvoid, count_finish, origins]
        using hcontent

/-- A replay places as many nodes as there are origins. -/
theorem count_replayAll (t : Trail) (first : Nat) (forest : List RawNode) :
    (t.replayAll forest).count = t.count + (t.originsAll first forest).length := by
  cases forest with
  | nil => simp [replayAll_nil, originsAll]
  | cons node rest =>
    have hnode := count_replay t first node
    have hrest := count_replayAll (t.replay node) (first + node.size) rest
    simp [replayAll_cons, originsAll, hrest, hnode, Nat.add_assoc]

end

end Trail

namespace Build

/-- The outline of the document that a forest gives. -/
def outline (forest : List RawNode) : List Entry :=
  Node.outlineAll [] 0 (replay forest).1

/-- The position in the forest of the node for which the node at a position of the document was
made; nothing for an implied table body. -/
def origin (forest : List RawNode) (position : Nat) : Option Nat :=
  (Trail.start.originsAll 0 forest).getD position none

theorem outline_eq (forest : List RawNode) :
    outline forest = (Trail.start.replayAll forest).outline :=
  Trail.outlineAll_nodes _

end Build

/-! ## Agreement with a list of origins -/

/-- From `position` on, origins are those of the list. -/
def Agrees (origin : Nat → Option Nat) : Nat → List (Option Nat) → Prop
  | _, [] => True
  | position, o :: rest => origin position = o ∧ Agrees origin (position + 1) rest

theorem agrees_append {origin : Nat → Option Nat} {position : Nat} {a b : List (Option Nat)} :
    Agrees origin position (a ++ b) ↔
      Agrees origin position a ∧ Agrees origin (position + a.length) b := by
  induction a generalizing position with
  | nil => simp [Agrees]
  | cons o rest ih =>
    have hshift : position + 1 + rest.length = position + (rest.length + 1) := by omega
    simp [Agrees, ih, and_assoc, hshift]

theorem agrees_getD (before os : List (Option Nat)) :
    Agrees (fun position => (before ++ os).getD position none) before.length os := by
  induction os generalizing before with
  | nil => trivial
  | cons o rest ih =>
    refine ⟨by simp, ?_⟩
    simpa using ih (before ++ [o])

theorem Build.agrees_origin (forest : List RawNode) :
    Agrees (Build.origin forest) 0 (Trail.start.originsAll 0 forest) :=
  agrees_getD [] _

/-! ## Outlines in terms of a forest -/

section

variable (origin : Nat → Option Nat)

def Outline.Mark.traced (m : Mark) : Option Mark :=
  (origin m.position).map fun position => ⟨position, m.tag⟩

/-- The entry in terms of the forest. -/
def Outline.Entry.traced (e : Entry) : Option Entry :=
  (origin e.position).map fun position =>
    ⟨position, e.content, e.ancestors.filterMap (Mark.traced origin)⟩

def Trail.Frame.traced (f : Trail.Frame) : Option Trail.Frame :=
  (f.toMark.traced origin).map fun m => ⟨m, f.serial⟩

end

/-- The outline of the document that a forest gives, in terms of the forest. -/
def Build.tracedOutline (forest : List RawNode) : List Entry :=
  (Build.outline forest).filterMap (Entry.traced (Build.origin forest))

/-- An entry of a built document stands for an entry of the forest: it has the same content, and of
the elements around it only some that are no tables are missing. -/
structure Outline.Entry.StandsFor (built written : Entry) : Prop where
  position : built.position = written.position
  content : built.content = written.content
  ancestors : built.ancestors <+ written.ancestors
  tables : ∀ m ∈ written.ancestors, m.tag = "table" → m ∈ built.ancestors

namespace Trail

section

variable (origin : Nat → Option Nat)

/-- The outline of a trail in terms of the forest. -/
def traced (t : Trail) : List Entry :=
  t.outline.filterMap (Entry.traced origin)

/-- The open elements that are no implied table bodies, in terms of the forest. -/
def written (t : Trail) : List Frame :=
  t.frames.filterMap (Frame.traced origin)

theorem filterMap_traced_marks (t : Trail) :
    t.marks.filterMap (Mark.traced origin) = (t.written origin).map Frame.toMark := by
  have hframe : ∀ f : Frame, (f.traced origin).map Frame.toMark = f.toMark.traced origin := by
    intro f
    simp [Frame.traced, Function.comp_def]
  simp [marks, written, List.filterMap_map, List.map_filterMap, hframe]

variable {origin}

theorem mem_written {t : Trail} {f : Frame} :
    f ∈ t.written origin ↔ ∃ g ∈ t.frames, origin g.position = some f.position ∧
      g.tag = f.tag ∧ g.serial = f.serial := by
  rcases f with ⟨⟨position, tag⟩, serial⟩
  simp only [written, List.mem_filterMap, Frame.traced, Mark.traced, Option.map_map,
    Option.map_eq_some_iff, Function.comp_apply, Frame.mk.injEq, Mark.mk.injEq]
  constructor
  · rintro ⟨g, hg, p, hp, ⟨rfl, rfl⟩, rfl⟩
    exact ⟨g, hg, hp, rfl, rfl⟩
  · rintro ⟨g, hg, hp, rfl, rfl⟩
    exact ⟨g, hg, position, hp, ⟨rfl, rfl⟩, rfl⟩

end

/-! ### Start tags in terms of the forest -/

section

variable {origin : Nat → Option Nat} {t : Trail} {first : Nat} {tag : String}

theorem agrees_startOrigins (hagrees : Agrees origin t.count (t.startOrigins first tag)) :
    (t.LacksBody tag → origin t.count = none) ∧ origin (t.ready tag).count = some first := by
  by_cases hlacks : t.LacksBody tag
  · have horigins : origin t.count = none ∧ origin (t.count + 1) = some first := by
      simpa [startOrigins, hlacks, Agrees] using hagrees
    refine ⟨fun _ => horigins.1, ?_⟩
    simpa [ready_of_lacksBody hlacks, count_openBody] using horigins.2
  · have horigin : origin t.count = some first := by
      simpa [startOrigins, hlacks, Agrees] using hagrees
    refine ⟨fun h => absurd h hlacks, ?_⟩
    simpa [ready_of_not_lacksBody hlacks] using horigin

theorem traced_ready (himplied : t.LacksBody tag → origin t.count = none) :
    (t.ready tag).traced origin = t.traced origin := by
  by_cases hlacks : t.LacksBody tag
  · -- An implied table body has no origin, so it is left out.
    have hnone := himplied hlacks
    simp [Trail.traced, ready_of_lacksBody hlacks, outline_openBody, Entry.traced, hnone]
  · simp [Trail.traced, ready_of_not_lacksBody hlacks]

theorem traced_enter (kept : Attributes) (isEmpty : Bool)
    (hagrees : Agrees origin t.count (t.startOrigins first tag)) :
    (t.enter tag kept isEmpty).traced origin =
      t.traced origin ++
        [⟨first, .element tag kept.entries, ((t.ready tag).written origin).map Frame.toMark⟩] := by
  rcases agrees_startOrigins hagrees with ⟨himplied, hmade⟩
  have hready : (t.ready tag).outline.filterMap (Entry.traced origin) = t.traced origin :=
    traced_ready himplied
  simp [Trail.traced, outline_enter, hready, Entry.traced, hmade, filterMap_traced_marks]

end

end Trail

end MarkupAudit
