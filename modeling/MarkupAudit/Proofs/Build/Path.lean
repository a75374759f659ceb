import MarkupAudit.Proofs.Build.Origin
import Mathlib.Data.List.Forall2

/-!
# Replaying along the path to a node

While a node of the forest is replayed, the open elements lie on the path to that node, which an
implied end tag may leave early and an implied table body never joins. Tables are never left early.

The invariant is `Follows`: of the path, the open elements are some, in order, and all tables. A
start tag keeps it for the path to the element, the end tag gives it back for the path to the
parent, whether or not the element is still open.

Main statement: replaying a node adds the outline of that node, in terms of the forest, with
ancestors left out but no tables (`Trail.run_replay`). So the entries of a document stand for those
of its forest (`Build.standsFor_tracedOutline`).
-/

namespace MarkupAudit

open Build Markup Outline
open scoped List

namespace Trail

/-! ## Following the path to a node of the forest -/

/-- The path to a node of a forest, as frames: ancestors of the node in order, tables included. -/
structure IsPath (path : List Frame) (ancestors : List Mark) : Prop where
  sublist : path.map Frame.toMark <+ ancestors
  tables : ∀ m ∈ ancestors, m.tag = "table" → m ∈ path.map Frame.toMark

/-- The open elements of the trail that are no implied table bodies lie on the path, and the tables
of the path are open. -/
structure Follows (origin : Nat → Option Nat) (t : Trail) (path : List Frame) : Prop where
  sublist : t.written origin <+ path
  tables : ∀ f ∈ path, f.tag = "table" → f ∈ t.written origin

theorem IsPath.push {path : List Frame} {ancestors : List Mark} (h : IsPath path ancestors)
    (f : Frame) : IsPath (f :: path) (f.toMark :: ancestors) where
  sublist := h.sublist.cons_cons _
  tables := by
    intro m hm htable
    rcases List.mem_cons.1 hm with rfl | hm
    · simp
    · exact List.mem_cons_of_mem _ (h.tables m hm htable)

/-- An element that is never opened need not be on the path to its content. -/
theorem IsPath.skip {path : List Frame} {ancestors : List Mark} (h : IsPath path ancestors)
    {m : Mark} (htag : m.tag ≠ "table") : IsPath path (m :: ancestors) where
  sublist := h.sublist.cons m
  tables := by
    intro n hn htable
    rcases List.mem_cons.1 hn with rfl | hn
    · exact absurd htable htag
    · exact h.tables n hn htable

section

variable {origin : Nat → Option Nat} {t : Trail} {path : List Frame}

theorem Follows.standsFor (h : Follows origin t path) {ancestors : List Mark}
    (hpath : IsPath path ancestors) (position : Nat) (content : Content) :
    Entry.StandsFor ⟨position, content, (t.written origin).map Frame.toMark⟩
      ⟨position, content, ancestors⟩ where
  position := rfl
  content := rfl
  ancestors := (h.sublist.map _).trans hpath.sublist
  tables := by
    intro m hm htable
    rcases List.mem_map.1 (hpath.tables m hm htable) with ⟨f, hf, rfl⟩
    exact List.mem_map_of_mem (h.tables f hf htable)

theorem Follows.of_written_eq {t' : Trail} (h : Follows origin t path)
    (hwritten : t'.written origin = t.written origin) : Follows origin t' path where
  sublist := by simpa only [hwritten] using h.sublist
  tables := by simpa only [hwritten] using h.tables

/-- Closing elements keeps a trail on its path, as long as no table is closed. -/
theorem Follows.close (h : Follows origin t path) {n : Nat} (hspares : "table" ∉ t.tags.take n) :
    Follows origin (close n t) path where
  sublist := by
    have hsub : (Trail.close n t).written origin <+ t.written origin := by
      simpa [written] using (List.drop_sublist n t.frames).filterMap (Frame.traced origin)
    exact hsub.trans h.sublist
  tables := by
    intro f hf htable
    rcases mem_written.1 (h.tables f hf htable) with ⟨g, hg, horigin, htag, hserial⟩
    have hcases : g ∈ t.frames.take n ∨ g ∈ t.frames.drop n := by
      rw [← List.mem_append, List.take_append_drop]
      exact hg
    rcases hcases with hclosed | hopen
    · -- A table among the closed elements contradicts `hspares`.
      have hmem : g.tag ∈ t.tags.take n := by
        simpa only [tags, ← List.map_take] using List.mem_map_of_mem hclosed
      exact absurd (htag.trans htable ▸ hmem) hspares
    · exact mem_written.2 ⟨g, by simpa using hopen, horigin, htag, hserial⟩

theorem Follows.closeImplied (h : Follows origin t path) (tag : String) :
    Follows origin (t.closeImplied tag) path := by
  rcases closeImplied_spares_tables t tag with ⟨n, hclose, hspares⟩
  simpa only [hclose] using h.close hspares

/-- An implied table body is on no path. -/
theorem Follows.openBody (h : Follows origin t path) (himplied : origin t.count = none) :
    Follows origin t.openBody path := by
  have hwritten : t.openBody.written origin = t.written origin := by
    simp [frames_openBody, written, Frame.traced, Mark.traced, himplied]
  exact h.of_written_eq hwritten

theorem Follows.ready (h : Follows origin t path) {tag : String}
    (himplied : t.LacksBody tag → origin t.count = none) : Follows origin (t.ready tag) path := by
  have hclosed := h.closeImplied tag
  by_cases hlacks : t.LacksBody tag
  · have hnone : origin (t.closeImplied tag).count = none := by
      simpa only [count_closeImplied] using himplied hlacks
    simpa only [ready_of_lacksBody hlacks] using hclosed.openBody hnone
  · simpa only [ready_of_not_lacksBody hlacks] using hclosed

theorem Follows.push (h : Follows origin t path) {first : Nat}
    (hmade : origin t.count = some first) (tag : String) (kept : Attributes) :
    Follows origin (t.push tag kept) (⟨⟨first, tag⟩, t.next⟩ :: path) := by
  have hwritten : (t.push tag kept).written origin =
      ⟨⟨first, tag⟩, t.next⟩ :: t.written origin := by
    simp [written, Frame.traced, Mark.traced, hmade]
  constructor
  · simpa only [hwritten] using h.sublist.cons_cons _
  · intro f hf htable
    rw [hwritten]
    rcases List.mem_cons.1 hf with rfl | hf
    · exact List.mem_cons_self
    · exact List.mem_cons_of_mem _ (h.tables f hf htable)

/-- An end tag takes its element off the path. The tables further out stay open, for they were
opened before it. -/
theorem Follows.finish {f : Frame} (h : Follows origin t (f :: path)) (hordered : t.Ordered)
    (holder : ∀ g ∈ path, g.tag = "table" → g.serial < f.serial) :
    Follows origin (t.finish f.serial) path := by
  rcases hordered.finish f.serial with ⟨hsuffix, habsent, hkept⟩
  constructor
  · have hsub : (t.finish f.serial).written origin <+ f :: path :=
      (hsuffix.sublist.filterMap _).trans h.sublist
    have hoff : f ∉ (t.finish f.serial).written origin := by
      intro hf
      rcases mem_written.1 hf with ⟨g, hg, -, -, hserial⟩
      exact habsent (List.mem_map.2 ⟨g, hg, hserial⟩)
    rcases List.sublist_cons_iff.1 hsub with hsub | ⟨rest, heq, -⟩
    · exact hsub
    · exact absurd (by simp [heq]) hoff
  · intro g hg htable
    have hopen := h.tables g (List.mem_cons_of_mem _ hg) htable
    rcases mem_written.1 hopen with ⟨k, hk, horigin, htag, hserial⟩
    have hlt : k.serial < f.serial := by
      simpa only [hserial] using holder g hg htable
    exact mem_written.2 ⟨k, hkept k hk hlt, horigin, htag, hserial⟩

/-- A table on the path was opened before anything that is still to be opened. -/
theorem Follows.older (h : Follows origin t path) (hordered : t.Ordered) :
    ∀ f ∈ path, f.tag = "table" → f.serial < t.next := by
  intro f hf htable
  rcases mem_written.1 (h.tables f hf htable) with ⟨g, hg, -, -, hserial⟩
  have hmem : f.serial ∈ t.serials := hserial ▸ List.mem_map_of_mem hg
  exact List.rel_of_pairwise_cons hordered hmem

end

/-! ## The replay in terms of the forest -/

/-- From `t` to `t'`, what is placed without being implied stands for the entries. -/
structure Run (origin : Nat → Option Nat) (path : List Frame) (t t' : Trail)
    (entries : List Entry) : Prop where
  follows : Follows origin t' path
  standsFor : ∃ added, t'.traced origin = t.traced origin ++ added ∧
    List.Forall₂ Entry.StandsFor added entries

section

variable {origin : Nat → Option Nat} {path : List Frame}

theorem Run.refl {t : Trail} (h : Follows origin t path) : Run origin path t t [] where
  follows := h
  standsFor := ⟨[], by simp, .nil⟩

theorem Run.trans {t u v : Trail} {a b : List Entry} (h : Run origin path t u a)
    (hnext : Run origin path u v b) : Run origin path t v (a ++ b) where
  follows := hnext.follows
  standsFor := by
    rcases h.standsFor with ⟨added, hadded, hmatch⟩
    rcases hnext.standsFor with ⟨added', hadded', hmatch'⟩
    refine ⟨added ++ added', ?_, List.rel_append hmatch hmatch'⟩
    calc
      v.traced origin = u.traced origin ++ added' := hadded'
      _ = t.traced origin ++ added ++ added' := by rw [hadded]
      _ = t.traced origin ++ (added ++ added') := List.append_assoc _ _ _

theorem run_text {t : Trail} {ancestors : List Mark} {first : Nat} (content : String)
    (hfollows : Follows origin t path) (hpath : IsPath path ancestors)
    (hmade : origin t.count = some first) :
    Run origin path t (t.append (.text content)) [⟨first, .text content, ancestors⟩] where
  follows := hfollows.of_written_eq (by simp [written])
  standsFor := by
    refine ⟨[⟨first, .text content, (t.written origin).map Frame.toMark⟩], ?_, ?_⟩
    · simp [Trail.traced, outline_append, Node.outline, Entry.traced, hmade, filterMap_traced_marks]
    · exact .cons (hfollows.standsFor hpath first _) .nil

/-- The run of an element, made of its start tag, the run of its content and its end. -/
theorem Run.element {inner : List Frame} {t inside content t' : Trail} {built written : Entry}
    {entries : List Entry} (hstart : inside.traced origin = t.traced origin ++ [built])
    (hstands : built.StandsFor written) (hrun : Run origin inner inside content entries)
    (hend : t'.outline = content.outline) (hfollows : Follows origin t' path) :
    Run origin path t t' (written :: entries) where
  follows := hfollows
  standsFor := by
    rcases hrun.standsFor with ⟨added, hadded, hmatch⟩
    refine ⟨built :: added, ?_, .cons hstands hmatch⟩
    calc
      t'.traced origin = content.traced origin := by rw [Trail.traced, hend, Trail.traced]
      _ = inside.traced origin ++ added := hadded
      _ = t.traced origin ++ built :: added := by simp [hstart]

end

section

variable {origin : Nat → Option Nat}

mutual

/-- Replaying a node adds its outline in terms of the forest, with ancestors left out but no
tables. -/
theorem run_replay {path : List Frame} {t : Trail} {ancestors : List Mark} {first : Nat}
    (node : RawNode) (hordered : t.Ordered) (hfollows : Follows origin t path)
    (hpath : IsPath path ancestors) (hagrees : Agrees origin t.count (t.origins first node)) :
    Run origin path t (t.replay node) (node.outline ancestors first) := by
  cases node with
  | text content =>
    have hmade : origin t.count = some first := by
      simpa [origins, Agrees] using hagrees
    simpa only [replay_text, RawNode.outline] using run_text content hfollows hpath hmade
  | aside kind content =>
    simpa only [replay_aside, RawNode.outline] using Run.refl hfollows
  | element name attributes children =>
    rw [origins] at hagrees
    rcases agrees_append.1 hagrees with ⟨hstart, hcontent⟩
    rcases agrees_startOrigins hstart with ⟨himplied, hmade⟩
    rw [← count_enter_eq t first (builtAttributes attributes) children.isEmpty] at hcontent
    have hready := hfollows.ready himplied
    have hentered := hordered.enter (Text.lower name) (builtAttributes attributes) children.isEmpty
    have htraced := traced_enter (builtAttributes attributes) children.isEmpty hstart
    have hstands := hready.standsFor hpath first
      (.element (Text.lower name) (builtAttributes attributes).entries)
    rw [RawNode.outline, ← entries_builtAttributes]
    by_cases hvoid : Element.isVoidTag (Text.lower name) = true
    · -- A void element is not opened, so its content is replayed on the path to the element itself.
      have htag : Text.lower name ≠ "table" := by
        intro htable
        simp [htable, show Element.isVoidTag "table" = false by decide] at hvoid
      have hinside : Follows origin
          (t.enter (Text.lower name) (builtAttributes attributes) children.isEmpty) path :=
        hready.of_written_eq (by simp only [written, frames_enter_of_void t _ _ hvoid])
      have hskip : IsPath path (⟨first, Text.lower name⟩ :: ancestors) := hpath.skip htag
      have hrun := run_replayAll children hentered hinside hskip hcontent
      rw [replay_of_void t attributes children hvoid]
      exact .element htraced hstands hrun rfl hrun.follows
    · -- Any other one is on the path to its content, and its end tag takes it off again.
      have hopened := hready.push hmade (Text.lower name) (builtAttributes attributes)
      rw [← enter_of_not_void t (builtAttributes attributes) children.isEmpty hvoid] at hopened
      have hrun := run_replayAll children hentered hopened (hpath.push _) hcontent
      have holder := hready.older (hordered.ready _)
      have hfinish := hrun.follows.finish (ordered_replayAll hentered children) holder
      rw [replay_of_not_void t attributes children hvoid]
      exact .element htraced hstands hrun (outline_finish _ _) hfinish

theorem run_replayAll {path : List Frame} {t : Trail} {ancestors : List Mark} {first : Nat}
    (forest : List RawNode) (hordered : t.Ordered) (hfollows : Follows origin t path)
    (hpath : IsPath path ancestors) (hagrees : Agrees origin t.count (t.originsAll first forest)) :
    Run origin path t (t.replayAll forest) (RawNode.outlineAll ancestors first forest) := by
  cases forest with
  | nil => simpa only [replayAll_nil, RawNode.outlineAll] using Run.refl hfollows
  | cons node rest =>
    rw [originsAll] at hagrees
    rcases agrees_append.1 hagrees with ⟨hnode, hrest⟩
    rw [← count_replay] at hrest
    have hrun := run_replay node hordered hfollows hpath hnode
    have hruns := run_replayAll rest (ordered_replay hordered node) hrun.follows hpath hrest
    simpa only [replayAll_cons, RawNode.outlineAll] using hrun.trans hruns

end

end

end Trail

theorem Build.standsFor_tracedOutline (forest : List RawNode) :
    List.Forall₂ Entry.StandsFor (Build.tracedOutline forest)
      (RawNode.outlineAll [] 0 forest) := by
  have hfollows : Trail.Follows (Build.origin forest) Trail.start [] :=
    ⟨by simp [Trail.written], by simp⟩
  have hrun := Trail.run_replayAll forest Trail.ordered_start hfollows ⟨.slnil, by simp⟩
    (Build.agrees_origin forest)
  rcases hrun.standsFor with ⟨added, hadded, hmatch⟩
  have htraced : Build.tracedOutline forest = added := by
    simpa [Build.tracedOutline, Build.outline_eq, Trail.traced] using hadded
  exact htraced ▸ hmatch

end MarkupAudit
