import MarkupAudit.Proofs.Build.Extent

/-!
# Forests one after another

The nodes at the top of a forest are built independently of each other. Nothing is left open behind
such a node: all that can stay open behind any node is what was open before it, less what it closed,
and a table body that was implied for it. So the next node is replayed in a trail with nothing open,
and such a trail differs from the starting one only in what it has collected.

Main statement: `replay_append`.
-/

namespace MarkupAudit

open Build Markup
open scoped List

namespace Trail

/-! ## What stays open -/

/-- What may be open behind a node when `before` was open in front of it: what is left of that, and
inside a table a body that was implied. -/
def Remains (before after : List Frame) : Prop :=
  after <:+ before ∨
    ∃ body table outer, after = body :: table :: outer ∧ body.tag = "tbody" ∧
      table.tag = "table" ∧ table :: outer <:+ before

theorem Remains.suffix {before mid after : List Frame} (h : Remains before mid)
    (hsuffix : after <:+ mid) : Remains before after := by
  rcases h with hmid | ⟨body, table, outer, rfl, hbody, htable, houter⟩
  · exact .inl (hsuffix.trans hmid)
  · rcases List.suffix_cons_iff.1 hsuffix with rfl | hsuffix
    · exact .inr ⟨body, table, outer, rfl, hbody, htable, houter⟩
    · exact .inl (hsuffix.trans houter)

theorem Remains.trans {before mid after : List Frame} (h : Remains before mid)
    (hnext : Remains mid after) : Remains before after := by
  rcases hnext with hafter | ⟨body, table, outer, rfl, hbody, htable, houter⟩
  · exact h.suffix hafter
  · rcases h with hmid | ⟨body', table', outer', rfl, hbody', htable', houter'⟩
    · exact .inr ⟨body, table, outer, rfl, hbody, htable, houter.trans hmid⟩
    · rcases List.suffix_cons_iff.1 houter with heq | hsuffix
      · -- A table body is no table, so no other body was implied in it.
        cases heq
        exact absurd (hbody'.symm.trans htable) (by decide)
      · exact .inr ⟨body, table, outer, rfl, hbody, htable, hsuffix.trans houter'⟩

theorem suffix_frames_closeImplied (t : Trail) (tag : String) :
    (t.closeImplied tag).frames <:+ t.frames := by
  rw [closeImplied_eq_close, frames_close]
  exact List.drop_suffix _ _

theorem remains_ready (t : Trail) (tag : String) : Remains t.frames (t.ready tag).frames := by
  have hclosed := suffix_frames_closeImplied t tag
  by_cases hlacks : t.LacksBody tag
  · rw [ready_of_lacksBody hlacks, frames_openBody]
    have hcurrent : (t.closeImplied tag).tags.head? = some "table" :=
      (currentTag?_eq _).symm.trans hlacks.2
    rcases List.head?_eq_some_iff.1 hcurrent with ⟨_, htags⟩
    rcases List.map_eq_cons_iff.1 htags with ⟨table, outer, hframes, htable, -⟩
    rw [hframes] at hclosed ⊢
    exact .inr ⟨_, table, outer, rfl, rfl, htable, hclosed⟩
  · rw [ready_of_not_lacksBody hlacks]
    exact .inl hclosed

/-- An end tag leaves nothing of its element open. -/
theorem Remains.finish {t : Trail} {f : Frame} {outer : List Frame}
    (h : Remains (f :: outer) t.frames) (hordered : t.Ordered) :
    Remains outer (t.finish f.serial).frames := by
  rcases hordered.finish f.serial with ⟨hsuffix, habsent, -⟩
  have hgone : f ∉ (t.finish f.serial).frames :=
    fun hmem => habsent (List.mem_map_of_mem hmem)
  rcases h.suffix hsuffix with hleft | ⟨body, table, rest, hframes, hbody, htable, hrest⟩
  · rcases List.suffix_cons_iff.1 hleft with heq | hleft
    · exact absurd (heq ▸ List.mem_cons_self) hgone
    · exact .inl hleft
  · rcases List.suffix_cons_iff.1 hrest with heq | hrest
    · -- The body stands in the element itself, which the end tag has closed.
      cases heq
      exact absurd (hframes ▸ by simp) hgone
    · exact .inr ⟨body, table, rest, hframes, hbody, htable, hrest⟩

mutual

theorem remains_replay {t : Trail} (hordered : t.Ordered) (node : RawNode) :
    Remains t.frames (t.replay node).frames := by
  cases node with
  | text content =>
    rw [replay_text, frames_append]
    exact .inl List.suffix_rfl
  | aside kind content =>
    rw [replay_aside]
    exact .inl List.suffix_rfl
  | element name attributes children =>
    have hready := remains_ready t (Text.lower name)
    have hentered := hordered.enter (Text.lower name) (builtAttributes attributes) children.isEmpty
    have hcontent := remains_replayAll hentered children
    by_cases hvoid : Element.isVoidTag (Text.lower name) = true
    · rw [frames_enter_of_void t _ _ hvoid] at hcontent
      rw [replay_of_void t attributes children hvoid]
      exact hready.trans hcontent
    · have hframes : (t.enter (Text.lower name) (builtAttributes attributes)
          children.isEmpty).frames =
            ⟨⟨(t.ready (Text.lower name)).count, Text.lower name⟩,
              (t.ready (Text.lower name)).next⟩ :: (t.ready (Text.lower name)).frames := by
        rw [enter_of_not_void t _ _ hvoid, frames_push]
      rw [hframes] at hcontent
      rw [replay_of_not_void t attributes children hvoid]
      exact hready.trans (hcontent.finish (ordered_replayAll hentered children))

/-- Behind a forest nothing is open but what was open before, and perhaps an implied body. -/
theorem remains_replayAll {t : Trail} (hordered : t.Ordered) (forest : List RawNode) :
    Remains t.frames (t.replayAll forest).frames := by
  cases forest with
  | nil =>
    rw [replayAll_nil]
    exact .inl List.suffix_rfl
  | cons node rest =>
    rw [replayAll_cons]
    exact (remains_replay hordered node).trans
      (remains_replayAll (ordered_replay hordered node) rest)

end

/-- Behind a node at the top of the document nothing is open. -/
theorem opened_replayAll_start (forest : List RawNode) : (start.replayAll forest).opened = [] := by
  have hframes : (start.replayAll forest).frames = [] := by
    rcases remains_replayAll ordered_start forest with hnone | ⟨_, _, _, -, -, -, hinside⟩
    · simpa using hnone
    · simp at hinside
  have htags : (start.replayAll forest).tags = [] := by simp [tags, hframes]
  exact List.map_eq_nil_iff.1 ((tags_eq _).symm.trans htags)

/-! ## Going on behind a finished part -/

/-- The trail `u` behind the finished part of a document that `t` describes: serials go on from
those of `t`, and what `u` has collected comes behind what `t` has. -/
def followedBy (t u : Trail) : Trail where
  opened := u.opened.map fun e => { e with serial := t.next + e.serial }
  top := t.top ++ u.top
  next := t.next + u.next
  notices := t.notices ++ u.notices

section

variable (t u : Trail)

theorem tags_followedBy : (t.followedBy u).tags = u.tags := by
  simp [tags_eq, followedBy]

theorem append_followedBy (node : Node) :
    (t.followedBy u).append node = t.followedBy (u.append node) := by
  rcases u with ⟨opened, top, next, notices⟩
  cases opened with
  | nil => simp [followedBy, append]
  | cons e outer => simp [followedBy, append]

theorem push_followedBy (tag : String) (attributes : Attributes) :
    (t.followedBy u).push tag attributes = t.followedBy (u.push tag attributes) := rfl

theorem note_followedBy (notice : Notice) :
    (t.followedBy u).note notice = t.followedBy (u.note notice) := by
  simp [followedBy, note]

theorem pop_followedBy : (t.followedBy u).pop = t.followedBy u.pop := by
  rcases u with ⟨opened, top, next, notices⟩
  cases opened with
  | nil => rfl
  | cons e outer => exact append_followedBy t ⟨outer, top, next, notices⟩ e.node

theorem close_followedBy (n : Nat) : close n (t.followedBy u) = t.followedBy (close n u) := by
  induction n generalizing u with
  | zero => rfl
  | succ n ih => rw [close, pop_followedBy, ih, close]

theorem closeImplied_followedBy (tag : String) :
    (t.followedBy u).closeImplied tag = t.followedBy (u.closeImplied tag) := by
  rw [closeImplied_eq_close, closeImplied_eq_close, tags_followedBy, close_followedBy]

theorem ready_followedBy (tag : String) :
    (t.followedBy u).ready tag = t.followedBy (u.ready tag) := by
  have hlacks : (t.followedBy u).LacksBody tag ↔ u.LacksBody tag := by
    rw [lacksBody_iff, lacksBody_iff, tags_followedBy]
  by_cases h : u.LacksBody tag
  · rw [ready_of_lacksBody h, ready_of_lacksBody (hlacks.2 h), closeImplied_followedBy, openBody,
      push_followedBy, note_followedBy, openBody]
  · rw [ready_of_not_lacksBody h, ready_of_not_lacksBody (mt hlacks.1 h), closeImplied_followedBy]

theorem enter_followedBy (tag : String) (kept : Attributes) (isEmpty : Bool) :
    (t.followedBy u).enter tag kept isEmpty = t.followedBy (u.enter tag kept isEmpty) := by
  unfold enter
  split_ifs
  · simp only [ready_followedBy, append_followedBy]
  · simp only [ready_followedBy, append_followedBy, note_followedBy]
  · rw [ready_followedBy, push_followedBy]

theorem depthOf?_map (opened : List OpenElement) (serial : Nat) :
    depthOf? (t.next + serial) (opened.map fun e => { e with serial := t.next + e.serial }) =
      depthOf? serial opened := by
  induction opened with
  | nil => rfl
  | cons e outer ih => simp [depthOf?, ih]

theorem finish_followedBy (serial : Nat) :
    (t.followedBy u).finish (t.next + serial) = t.followedBy (u.finish serial) := by
  have hdepth : depthOf? (t.next + serial) (t.followedBy u).opened = depthOf? serial u.opened :=
    depthOf?_map t u.opened serial
  unfold finish
  rw [hdepth]
  cases depthOf? serial u.opened with
  | none => rfl
  | some depth => exact close_followedBy t u (depth + 1)

mutual

theorem replay_followedBy (t u : Trail) (node : RawNode) :
    (t.followedBy u).replay node = t.followedBy (u.replay node) := by
  cases node with
  | text content => rw [replay_text, replay_text, append_followedBy]
  | aside kind content => rw [replay_aside, replay_aside]
  | element name attributes children =>
    by_cases hvoid : Element.isVoidTag (Text.lower name) = true
    · rw [replay_of_void _ _ _ hvoid, replay_of_void _ _ _ hvoid, enter_followedBy,
        replayAll_followedBy]
    · have hnext : ((t.followedBy u).ready (Text.lower name)).next =
          t.next + (u.ready (Text.lower name)).next := by
        rw [ready_followedBy]
        rfl
      rw [replay_of_not_void _ _ _ hvoid, replay_of_not_void _ _ _ hvoid, hnext, enter_followedBy,
        replayAll_followedBy, finish_followedBy]

/-- A finished part of the document has no influence on what is built behind it. -/
theorem replayAll_followedBy (t u : Trail) (forest : List RawNode) :
    (t.followedBy u).replayAll forest = t.followedBy (u.replayAll forest) := by
  cases forest with
  | nil => rw [replayAll_nil, replayAll_nil]
  | cons node rest =>
    rw [replayAll_cons, replayAll_cons, replay_followedBy, replayAll_followedBy]

end

theorem followedBy_start {t : Trail} (hopened : t.opened = []) : t.followedBy start = t := by
  rcases t with ⟨opened, top, next, notices⟩
  cases hopened
  simp [followedBy, start]

theorem nodes_of_opened_eq_nil {t : Trail} (hopened : t.opened = []) : t.nodes = t.top := by
  simp [nodes, hopened, close]

end

end Trail

/-! ## Independence -/

/-- Two forests one after another give the nodes of the first and then those of the second, and
their notices likewise. Nothing that the first opens is open when the second starts, and no start
tag or end tag ever closes more elements than are open, so the document itself stays open. -/
theorem replay_append (a b : List RawNode) :
    Build.replay (a ++ b) =
        ((Build.replay a).1 ++ (Build.replay b).1, (Build.replay a).2 ++ (Build.replay b).2) ∧
      (Trail.start.replayAll a).opened = [] ∧
      ∀ t : Trail,
        (∀ tag, t.closeImplied tag = Trail.close (impliedExtent tag t.tags) t ∧
          impliedExtent tag t.tags ≤ t.opened.length) ∧
        ∀ serial depth, Trail.depthOf? serial t.opened = some depth →
          t.finish serial = Trail.close (depth + 1) t ∧ depth + 1 ≤ t.opened.length := by
  have hopened := Trail.opened_replayAll_start a
  have hopened' := Trail.opened_replayAll_start b
  have hseq : Trail.start.replayAll (a ++ b) =
      (Trail.start.replayAll a).followedBy (Trail.start.replayAll b) := by
    rw [Trail.replayAll_append, ← Trail.replayAll_followedBy, Trail.followedBy_start hopened]
  refine ⟨?_, hopened, ?_⟩
  · have hnodes : (Trail.start.replayAll (a ++ b)).top =
        (Trail.start.replayAll a).top ++ (Trail.start.replayAll b).top := by
      rw [hseq]
      rfl
    have hclosed : (Trail.start.replayAll (a ++ b)).opened = [] :=
      Trail.opened_replayAll_start (a ++ b)
    simp only [Build.replay, Trail.nodes_of_opened_eq_nil hopened,
      Trail.nodes_of_opened_eq_nil hopened', Trail.nodes_of_opened_eq_nil hclosed, hnodes]
    rw [hseq]
    rfl
  · intro t
    have hlength : t.tags.length = t.opened.length := by rw [Trail.tags_eq, List.length_map]
    constructor
    · intro tag
      exact ⟨Trail.closeImplied_eq_close t tag, hlength ▸ Trail.impliedExtent_le_length t tag⟩
    · intro serial depth hdepth
      rcases Trail.depthOf?_eq_some hdepth with ⟨inner, outer, hsplit, rfl⟩
      have hcount : t.opened.length = inner.length + (outer.length + 1) := by
        simpa using congrArg List.length hsplit
      refine ⟨by simp [Trail.finish, hdepth], ?_⟩
      omega

end MarkupAudit
