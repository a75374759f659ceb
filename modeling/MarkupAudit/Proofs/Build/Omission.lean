import MarkupAudit.Proofs.Build.Contents
import MarkupAudit.Proofs.Build.Extent

/-!
# Omitted end tags

When the end tags of list items, paragraphs, options or cells are left out, the forest nests each
item in the one before it. With the end tags the items are siblings. Both forests give the same
document.

The reason is that the start tag of an item closes the item before it first, and then does what it
would do behind the end tag. So wherever the next item begins, the two replays are in the same
trail, serials included. The end tags that come later find their elements closed and change nothing.

Main statement: `replay_nested_eq_siblings`.
-/

namespace MarkupAudit

open Build Markup Outline

/-! ## Forests with and without the end tags -/

/-- An element of a forest with one of the tags, without its children. -/
structure Tagged (tags : List String) where
  name : String
  attributes : List (String × AttributeValue)
  tag_mem : Text.lower name ∈ tags

def Tagged.node {tags : List String} (e : Tagged tags) (children : List RawNode) : RawNode :=
  .element e.name e.attributes children

namespace Markup.RawNode

mutual

/-- The start tags in the node close nothing, wherever it stands. -/
def IsPlain : RawNode → Prop
  | .text _ => True
  | .aside _ _ => True
  | .element name _ children =>
    Text.lower name ∉ special ++ paragraphClosers ++ ["option", "optgroup"] ∧ AllPlain children

def AllPlain : List RawNode → Prop
  | [] => True
  | node :: rest => node.IsPlain ∧ AllPlain rest

end

end Markup.RawNode

/-- An element whose end tag may be omitted, with its contents. -/
structure Item (tags : List String) extends Tagged tags where
  contents : List RawNode
  plain : RawNode.AllPlain contents

namespace Item

variable {tags : List String}

/-- The items, each with its end tag. -/
def siblings (items : List (Item tags)) : List RawNode :=
  items.map fun item => item.node item.contents

@[simp] theorem siblings_nil : siblings ([] : List (Item tags)) = [] := rfl

@[simp] theorem siblings_cons (item : Item tags) (rest : List (Item tags)) :
    siblings (item :: rest) = item.node item.contents :: siblings rest := rfl

/-- The items without their end tags, and what comes behind the last one. -/
def nested : List (Item tags) → List RawNode → List RawNode
  | [], behind => behind
  | item :: rest, behind => [item.node (item.contents ++ nested rest behind)]

end Item

/-- A group of items, such as a row of cells. -/
structure ItemGroup (tag : String) (tags : List String) extends Tagged [tag] where
  items : List (Item tags)

namespace ItemGroup

variable {tag : String} {tags : List String}

/-- The groups, each with all its end tags. -/
def siblings (groups : List (ItemGroup tag tags)) : List RawNode :=
  groups.map fun group => group.node (Item.siblings group.items)

@[simp] theorem siblings_nil : siblings ([] : List (ItemGroup tag tags)) = [] := rfl

@[simp] theorem siblings_cons (group : ItemGroup tag tags) (rest : List (ItemGroup tag tags)) :
    siblings (group :: rest) = group.node (Item.siblings group.items) :: siblings rest := rfl

/-- The groups without end tags. -/
def nested : List (ItemGroup tag tags) → List RawNode
  | [] => []
  | group :: rest => [group.node (Item.nested group.items (nested rest))]

end ItemGroup

namespace Trail

/-! ## Plain contents -/

theorem ready_of_plain (t : Trail) {tag : String}
    (hplain : tag ∉ special ++ paragraphClosers ++ ["option", "optgroup"]) : t.ready tag = t := by
  have hlisted : ∀ x ∈ ["li", "dt", "dd", "td", "th", "tr"] ++ headings ++ tableSections,
      x ∈ special := by decide
  have hnone : closings tag = [] := by
    refine List.eq_nil_iff_forall_not_mem.2 fun c hc => hplain ?_
    rcases mem_closings_iff.1 hc with ⟨rfl, -⟩ | ⟨rfl | rfl, -⟩ | ⟨htag, -⟩ | ⟨htag, -⟩ |
      ⟨rfl, -⟩ | ⟨rfl, -⟩ | ⟨rfl | rfl, -⟩ | ⟨rfl, -⟩ | ⟨htag, -⟩
    all_goals simp [*]
  have hextent : impliedExtent tag t.tags = 0 := by rw [impliedExtent, hnone, extentAll]
  refine ready_eq_self hextent fun hrow => hplain ?_
  simp [hrow.1, hlisted]

/-- From `t` to `t'`, everything stays open and no table body is implied. -/
structure Keeps (t t' : Trail) : Prop where
  frames : t'.frames = t.frames
  bodies : t'.notices.count .impliedTableBody = t.notices.count .impliedTableBody

theorem Keeps.refl (t : Trail) : Keeps t t := ⟨rfl, rfl⟩

theorem Keeps.trans {t u v : Trail} (h : Keeps t u) (hnext : Keeps u v) : Keeps t v :=
  ⟨hnext.frames.trans h.frames, hnext.bodies.trans h.bodies⟩

theorem Keeps.tags {t t' : Trail} (h : Keeps t t') : t'.tags = t.tags := by
  rw [Trail.tags, h.frames, Trail.tags]

theorem finish_of_frames {t : Trail} {m : Mark} {serial : Nat} {outer : List Frame}
    (hframes : t.frames = ⟨m, serial⟩ :: outer) : t.finish serial = close 1 t := by
  have hserials : t.opened.map (·.serial) = serial :: outer.map (·.serial) := by
    rw [← serials_eq, serials, hframes, List.map_cons]
  rcases List.map_eq_cons_iff.1 hserials with ⟨e, rest, hopened, hserial, -⟩
  simp [finish, hopened, depthOf?, hserial]

/-- The trail in which the content of an element that is not void is replayed. -/
def inside (t : Trail) (name : String) (attributes : List (String × AttributeValue)) : Trail :=
  (t.ready (Text.lower name)).push (Text.lower name) (builtAttributes attributes)

section

variable {t : Trail} {name : String} {attributes : List (String × AttributeValue)}

theorem frames_inside :
    (t.inside name attributes).frames =
      ⟨⟨(t.ready (Text.lower name)).count, Text.lower name⟩, (t.ready (Text.lower name)).next⟩ ::
        (t.ready (Text.lower name)).frames := by
  rw [inside, frames_push]

theorem tags_inside :
    (t.inside name attributes).tags = Text.lower name :: (t.ready (Text.lower name)).tags := by
  rw [inside, tags_push]

theorem Ordered.inside (h : t.Ordered) : (t.inside name attributes).Ordered :=
  (h.ready _).push _ _

theorem replay_eq_finish_inside (hvoid : ¬ Element.isVoidTag (Text.lower name) = true)
    (children : List RawNode) :
    t.replay (.element name attributes children) =
      ((t.inside name attributes).replayAll children).finish (t.ready (Text.lower name)).next := by
  rw [replay_of_not_void t attributes children hvoid, enter_of_not_void _ _ _ hvoid, inside]

/-- When the content of an element leaves it the innermost one, its end tag closes it alone. -/
theorem replay_of_keeps (hvoid : ¬ Element.isVoidTag (Text.lower name) = true)
    {children : List RawNode}
    (h : Keeps (t.inside name attributes) ((t.inside name attributes).replayAll children)) :
    t.replay (.element name attributes children) =
        close 1 ((t.inside name attributes).replayAll children) ∧
      Keeps (t.ready (Text.lower name)) (t.replay (.element name attributes children)) := by
  have hclosed : t.replay (.element name attributes children) =
      close 1 ((t.inside name attributes).replayAll children) := by
    rw [replay_eq_finish_inside hvoid]
    exact finish_of_frames (h.frames.trans frames_inside)
  refine ⟨hclosed, ?_, ?_⟩
  · rw [hclosed, frames_close, h.frames, frames_inside, List.drop_one, List.tail_cons]
  · rw [hclosed, notices_close, h.bodies, inside, notices_push]

end

mutual

theorem keeps_replay (t : Trail) (node : RawNode) (hplain : node.IsPlain) :
    Keeps t (t.replay node) := by
  cases node with
  | text content =>
    rw [replay_text]
    exact ⟨frames_append t _, by rw [notices_append]⟩
  | aside kind content =>
    rw [replay_aside]
    exact .refl t
  | element name attributes children =>
    have hready := ready_of_plain t hplain.1
    by_cases hvoid : Element.isVoidTag (Text.lower name) = true
    · -- Content that is hoisted out of a void element is plain as well.
      have henter : Keeps t
          (t.enter (Text.lower name) (builtAttributes attributes) children.isEmpty) :=
        ⟨by rw [frames_enter_of_void _ _ _ hvoid, hready], by rw [count_notices_enter, hready]⟩
      rw [replay_of_void _ _ _ hvoid]
      exact henter.trans (keeps_replayAll _ children hplain.2)
    · have hcontent := keeps_replayAll (t.inside name attributes) children hplain.2
      have hkeeps := (replay_of_keeps hvoid hcontent).2
      rwa [hready] at hkeeps

/-- Plain contents leave everything open. -/
theorem keeps_replayAll (t : Trail) (forest : List RawNode) (hplain : RawNode.AllPlain forest) :
    Keeps t (t.replayAll forest) := by
  cases forest with
  | nil =>
    rw [replayAll_nil]
    exact .refl t
  | cons node rest =>
    rw [replayAll_cons]
    exact (keeps_replay t node hplain.1).trans (keeps_replayAll _ rest hplain.2)

end

/-! ## The next item inside an element and behind it -/

/-- Nothing, or one element with one of the tags. -/
inductive Starts (tags : List String) : List RawNode → Prop where
  | nothing : Starts tags []
  | element (next : Tagged tags) (children : List RawNode) : Starts tags [next.node children]

/-- An element with the serial was opened and is closed. -/
def Ended (serial : Nat) (t : Trail) : Prop :=
  serial < t.next ∧ serial ∉ t.serials

theorem Ended.close {serial : Nat} {t : Trail} (h : Ended serial t) (n : Nat) :
    Ended serial (close n t) := by
  refine ⟨by simpa using h.1, ?_⟩
  rw [serials, frames_close, List.map_drop]
  exact fun hmem => h.2 (List.mem_of_mem_drop hmem)

theorem Ended.push {serial : Nat} {t : Trail} (h : Ended serial t) (tag : String)
    (kept : Attributes) : Ended serial (t.push tag kept) := by
  refine ⟨Nat.lt_succ_of_lt h.1, ?_⟩
  rw [serials, frames_push, List.map_cons, List.mem_cons, not_or]
  exact ⟨Nat.ne_of_lt h.1, h.2⟩

theorem Ended.append {serial : Nat} {t : Trail} (h : Ended serial t) (node : Node) :
    Ended serial (t.append node) := by
  refine ⟨by simpa using h.1, ?_⟩
  rw [serials, frames_append]
  exact h.2

theorem Ended.enter {serial : Nat} {t : Trail} (h : Ended serial t) (tag : String)
    (kept : Attributes) (isEmpty : Bool) : Ended serial (t.enter tag kept isEmpty) :=
  enter_invariant (fun _ node h => h.append node) (fun _ tag kept h => h.push tag kept)
    (fun _ _ h => h) (fun _ n h => h.close n) t tag kept isEmpty h

/-- An element that is closed is never opened again. -/
theorem Ended.replay {serial : Nat} {t : Trail} (h : Ended serial t) (node : RawNode) :
    Ended serial (t.replay node) :=
  replay_invariant (fun _ _ h => h.append _) (fun _ tag kept isEmpty h => h.enter tag kept isEmpty)
    (fun _ n h => h.close n) t node h

theorem Ended.finish {serial : Nat} {t : Trail} (h : Ended serial t) : t.finish serial = t := by
  rcases finish_cases t serial with ⟨inner, outer, hsplit, -⟩ | ⟨-, hfinish⟩
  · exact absurd (by simp [hsplit]) h.2
  · exact hfinish

theorem Ordered.ended {t : Trail} (h : t.Ordered) {m : Mark} {serial : Nat} {outer : List Frame}
    (hframes : t.frames = ⟨m, serial⟩ :: outer) : Ended serial (Trail.close 1 t) := by
  have hpairwise : (t.next :: serial :: outer.map (·.serial)).Pairwise (· > ·) := by
    simpa [Ordered, serials, hframes] using h
  rw [List.pairwise_cons, List.pairwise_cons] at hpairwise
  rcases hpairwise with ⟨hnext, houter, -⟩
  refine ⟨?_, ?_⟩
  · rw [next_close]
    exact hnext _ List.mem_cons_self
  · rw [serials, frames_close, hframes, List.drop_one, List.tail_cons]
    exact fun hmem => Nat.lt_irrefl _ (houter _ hmem)

/-- A start tag that finds an element closed, which it would close first, does the same as inside
that element. -/
theorem ready_close {t : Trail} {tag inner : String} {outer : List String}
    (htags : t.tags = inner :: outer)
    (hextent : impliedExtent tag (inner :: outer) = impliedExtent tag outer + 1) :
    (close 1 t).ready tag = t.ready tag := by
  have houter : (close 1 t).tags = outer := by rw [tags_close, htags, List.drop_one, List.tail_cons]
  have hclosed : (close 1 t).closeImplied tag = t.closeImplied tag := by
    rw [closeImplied_eq_close, closeImplied_eq_close, houter, htags, hextent, close_close,
      Nat.add_comm]
  rw [ready, hclosed, ready]

theorem replay_congr {t t' : Trail} {name : String} (h : t.ready (Text.lower name) =
    t'.ready (Text.lower name)) (attributes : List (String × AttributeValue))
    (children : List RawNode) :
    t.replay (.element name attributes children) =
      t'.replay (.element name attributes children) := by
  by_cases hvoid : Element.isVoidTag (Text.lower name) = true
  · rw [replay_of_void _ _ _ hvoid, replay_of_void _ _ _ hvoid, enter, enter, h]
  · rw [replay_eq_finish_inside hvoid, replay_eq_finish_inside hvoid, inside, inside, h]

/-- What begins inside an element and ends it first might as well begin behind it. -/
theorem replay_of_inside {t : Trail} (hordered : t.Ordered) {name : String}
    {attributes : List (String × AttributeValue)} {children all behind : List RawNode}
    {following : List String} (hvoid : ¬ Element.isVoidTag (Text.lower name) = true)
    (hkeeps : Keeps (t.inside name attributes) ((t.inside name attributes).replayAll children))
    (hall : (t.inside name attributes).replayAll all =
      ((t.inside name attributes).replayAll children).replayAll behind)
    (hstarts : Starts following behind)
    (hends : ∀ next ∈ following,
      impliedExtent next (Text.lower name :: (t.ready (Text.lower name)).tags) =
        impliedExtent next (t.ready (Text.lower name)).tags + 1) :
    t.replay (.element name attributes all) =
      (t.replay (.element name attributes children)).replayAll behind := by
  rw [replay_eq_finish_inside hvoid, hall]
  cases hstarts with
  | nothing => rw [replayAll_nil, replayAll_nil, replay_eq_finish_inside hvoid]
  | element next nextChildren =>
    rcases replay_of_keeps hvoid hkeeps with ⟨hclosed, -⟩
    have hready : (t.replay (.element name attributes children)).ready (Text.lower next.name) =
        ((t.inside name attributes).replayAll children).ready (Text.lower next.name) := by
      rw [hclosed]
      exact ready_close (hkeeps.tags.trans tags_inside) (hends _ next.tag_mem)
    have hended : Ended (t.ready (Text.lower name)).next
        (t.replay (.element name attributes children)) := by
      rw [hclosed]
      exact (ordered_replayAll hordered.inside children).ended
        (hkeeps.frames.trans frames_inside)
    rw [replayAll_cons, replayAll_nil, replayAll_cons, replayAll_nil, Tagged.node,
      ← replay_congr hready]
    exact (hended.replay _).finish

end Trail

/-! ## Runs of items -/

/-- Among open elements with the tags `outer`, an element with one of `tags` is simply opened, and
while it is the innermost one, the start tag of one of `following` ends it before all else. -/
def Build.Separates (tags following outer : List String) : Prop :=
  ∀ tag ∈ tags, Element.isVoidTag tag = false ∧ impliedExtent tag outer = 0 ∧
    ¬ (tag = "tr" ∧ outer.head? = some "table") ∧
      ∀ next ∈ following, impliedExtent next (tag :: outer) = impliedExtent next outer + 1

instance (tags following outer : List String) : Decidable (Build.Separates tags following outer) :=
  inferInstanceAs (Decidable (∀ tag ∈ tags, Element.isVoidTag tag = false ∧
    impliedExtent tag outer = 0 ∧ ¬ (tag = "tr" ∧ outer.head? = some "table") ∧
      ∀ next ∈ following, impliedExtent next (tag :: outer) = impliedExtent next outer + 1))

open Trail (Keeps Starts)

namespace Item

variable {tags following : List String} {t : Trail}

theorem keeps_replay (item : Item tags) (h : Separates tags following t.tags) :
    Keeps t (t.replay (item.node item.contents)) := by
  rcases h _ item.tag_mem with ⟨hvoid, hextent, hrow, -⟩
  have hcontent := Trail.keeps_replayAll (t.inside item.name item.attributes) item.contents
    item.plain
  have hkeeps := (Trail.replay_of_keeps (by simp [hvoid]) hcontent).2
  rwa [Trail.ready_eq_self hextent hrow] at hkeeps

theorem keeps_siblings (items : List (Item tags)) (h : Separates tags following t.tags) :
    Keeps t (t.replayAll (siblings items)) := by
  induction items generalizing t with
  | nil =>
    rw [siblings_nil, Trail.replayAll_nil]
    exact .refl t
  | cons item rest ih =>
    have hitem := item.keeps_replay h
    rw [siblings_cons, Trail.replayAll_cons]
    exact hitem.trans (ih (hitem.tags.symm ▸ h))

theorem starts_nested (hsub : tags ⊆ following) (items : List (Item tags))
    {behind : List RawNode} (h : Starts following behind) :
    Starts following (nested items behind) := by
  cases items with
  | nil => exact h
  | cons item rest =>
    exact .element ⟨item.name, item.attributes, hsub item.tag_mem⟩ _

/-- Items without end tags are replayed like items with them, and so is what begins behind them and
ends the last one. -/
theorem replayAll_nested (hordered : t.Ordered) (h : Separates tags following t.tags)
    (hsub : tags ⊆ following) (items : List (Item tags)) {behind : List RawNode}
    (hbehind : Starts following behind) :
    t.replayAll (nested items behind) = (t.replayAll (siblings items)).replayAll behind := by
  induction items generalizing t with
  | nil => rw [nested, siblings_nil, Trail.replayAll_nil]
  | cons item rest ih =>
    rcases h _ item.tag_mem with ⟨hvoid, hextent, hrow, hends⟩
    have hready := Trail.ready_eq_self hextent hrow
    have hitem : t.replay (item.node (item.contents ++ nested rest behind)) =
        (t.replay (item.node item.contents)).replayAll (nested rest behind) := by
      refine Trail.replay_of_inside hordered (by simp [hvoid])
        (Trail.keeps_replayAll _ item.contents item.plain) (Trail.replayAll_append _ _ _)
        (starts_nested hsub rest hbehind) ?_
      rw [hready]
      exact hends
    have hkeeps := item.keeps_replay h
    rw [nested, Trail.replayAll_cons, Trail.replayAll_nil, hitem,
      ih (Trail.ordered_replay hordered _) (hkeeps.tags.symm ▸ h), siblings_cons,
      Trail.replayAll_cons]

end Item

namespace ItemGroup

variable {tag : String} {tags inner : List String} {t : Trail}

theorem lower_name (group : ItemGroup tag tags) : Text.lower group.name = tag :=
  List.mem_singleton.1 group.tag_mem

theorem tags_inside (group : ItemGroup tag tags) (hready : (t.ready tag).tags = inner) :
    (t.inside group.name group.attributes).tags = tag :: inner := by
  rw [Trail.tags_inside, group.lower_name, hready]

theorem keeps_inside (group : ItemGroup tag tags) (hready : (t.ready tag).tags = inner)
    (hitems : Separates tags (tag :: tags) (tag :: inner)) :
    Keeps (t.inside group.name group.attributes)
      ((t.inside group.name group.attributes).replayAll (Item.siblings group.items)) :=
  Item.keeps_siblings group.items ((group.tags_inside hready).symm ▸ hitems)

theorem starts_nested {following : List String} (hmem : tag ∈ following)
    (groups : List (ItemGroup tag tags)) : Starts following (nested groups) := by
  cases groups with
  | nil => exact .nothing
  | cons group rest =>
    exact .element ⟨group.name, group.attributes, group.lower_name.symm ▸ hmem⟩ _

section

variable (hgroup : Separates [tag] [tag] inner)
include hgroup

theorem not_void (group : ItemGroup tag tags) :
    ¬ Element.isVoidTag (Text.lower group.name) = true := by
  simp [group.lower_name, (hgroup tag List.mem_cons_self).1]

theorem ready_eq_self (htags : t.tags = inner) : t.ready tag = t := by
  rcases hgroup tag List.mem_cons_self with ⟨-, hextent, hrow, -⟩
  exact Trail.ready_eq_self (htags.symm ▸ hextent) (htags.symm ▸ hrow)

variable (hitems : Separates tags (tag :: tags) (tag :: inner))
include hitems

theorem keeps_replay (group : ItemGroup tag tags) (hready : (t.ready tag).tags = inner) :
    Keeps (t.ready tag) (t.replay (group.node (Item.siblings group.items))) := by
  have hkeeps := (Trail.replay_of_keeps (group.not_void hgroup)
    (group.keeps_inside hready hitems)).2
  rwa [group.lower_name] at hkeeps

theorem keeps_siblings (groups : List (ItemGroup tag tags)) (htags : t.tags = inner) :
    Keeps t (t.replayAll (siblings groups)) := by
  induction groups generalizing t with
  | nil =>
    rw [siblings_nil, Trail.replayAll_nil]
    exact .refl t
  | cons group rest ih =>
    have hready := ready_eq_self hgroup htags
    have hfirst := group.keeps_replay hgroup hitems (hready.symm ▸ htags)
    rw [hready] at hfirst
    rw [siblings_cons, Trail.replayAll_cons]
    exact hfirst.trans (ih (hfirst.tags.trans htags))

/-- Groups without end tags are replayed like groups with them. -/
theorem replayAll_nested (hordered : t.Ordered) (hready : (t.ready tag).tags = inner)
    (groups : List (ItemGroup tag tags)) :
    t.replayAll (nested groups) = t.replayAll (siblings groups) := by
  induction groups generalizing t with
  | nil => rfl
  | cons group rest ih =>
    have hinside := group.tags_inside hready
    have hitem : t.replay (group.node (Item.nested group.items (nested rest))) =
        (t.replay (group.node (Item.siblings group.items))).replayAll (nested rest) := by
      -- What follows the last item ends that item first, and then the group.
      refine Trail.replay_of_inside hordered (group.not_void hgroup)
        (group.keeps_inside hready hitems) ?_ (starts_nested (List.mem_singleton_self tag) rest) ?_
      · exact Item.replayAll_nested hordered.inside (hinside.symm ▸ hitems)
          (List.subset_cons_self _ _) group.items (starts_nested List.mem_cons_self rest)
      · rw [group.lower_name, hready]
        exact (hgroup tag List.mem_cons_self).2.2.2
    have htags := (group.keeps_replay hgroup hitems hready).tags.trans hready
    have hagain := ready_eq_self hgroup htags
    rw [nested, Trail.replayAll_cons, Trail.replayAll_nil, hitem,
      ih (Trail.ordered_replay hordered _) (hagain.symm ▸ htags), siblings_cons,
      Trail.replayAll_cons]

end

end ItemGroup

/-! ## Documents -/

section

variable {tags : List String} (container : Tagged tags)

theorem tags_inside_start :
    (Trail.start.inside container.name container.attributes).tags =
      [Text.lower container.name] := by
  rw [Trail.tags_inside, Trail.tags_ready]
  simp [Trail.tags, surroundings]

/-- The content of an element at the top of a document is replayed with that element alone open. -/
theorem replay_container (hvoid : ∀ tag ∈ tags, Element.isVoidTag tag = false)
    {a b : List RawNode} (h : ∀ tag ∈ tags, ∀ t : Trail, t.Ordered → t.tags = [tag] →
      t.replayAll a = t.replayAll b) :
    Build.replay [container.node a] = Build.replay [container.node b] := by
  have hnot : ¬ Element.isVoidTag (Text.lower container.name) = true := by
    simp [hvoid _ container.tag_mem]
  have hsame := h _ container.tag_mem _ Trail.ordered_start.inside (tags_inside_start container)
  simp only [Build.replay, Trail.replayAll_cons, Trail.replayAll_nil, Tagged.node,
    Trail.replay_eq_finish_inside hnot, hsame]

end

/-- A cell ends the cell before it, and a row the cell and the row. -/
theorem separates_cells : Separates ["td", "th"] ["tr", "td", "th"] ["tr", "tbody", "table"] := by
  decide

theorem separates_rows : Separates ["tr"] ["tr"] ["tbody", "table"] := by
  decide

/-- The first row of a table implies a body, and all further rows stand in it. -/
theorem count_bodies_siblings {t : Trail} (htags : t.tags = ["table"])
    (rows : List (ItemGroup "tr" ["td", "th"])) :
    (t.replayAll (ItemGroup.siblings rows)).notices.count .impliedTableBody =
      t.notices.count .impliedTableBody + if rows.isEmpty then 0 else 1 := by
  cases rows with
  | nil =>
    rw [ItemGroup.siblings_nil, Trail.replayAll_nil, List.isEmpty_nil, if_pos rfl, Nat.add_zero]
  | cons row rest =>
    have hlacks : t.LacksBody "tr" := by
      rw [Trail.lacksBody_iff, htags]
      decide
    have hready : (t.ready "tr").tags = ["tbody", "table"] := by
      rw [Trail.tags_ready, htags]
      decide
    have hfirst := row.keeps_replay separates_rows separates_cells hready
    have hrest := ItemGroup.keeps_siblings separates_rows separates_cells rest
      (hfirst.tags.trans hready)
    rw [ItemGroup.siblings_cons, Trail.replayAll_cons, (hfirst.trans hrest).bodies,
      Trail.ready_of_lacksBody hlacks, Trail.notices_openBody, Trail.notices_closeImplied,
      List.count_append]
    rfl

theorem count_bodies_replay (table : Tagged ["table"])
    (rows : List (ItemGroup "tr" ["td", "th"])) :
    (Build.replay [table.node (ItemGroup.siblings rows)]).2.count .impliedTableBody =
      if rows.isEmpty then 0 else 1 := by
  have htag : Text.lower table.name = "table" := List.mem_singleton.1 table.tag_mem
  have hvoid : ¬ Element.isVoidTag (Text.lower table.name) = true := by
    rw [htag]
    decide
  have htags : (Trail.start.inside table.name table.attributes).tags = ["table"] := by
    rw [tags_inside_start, htag]
  have hnotices : (Trail.start.inside table.name table.attributes).notices = [] := by
    rw [Trail.inside, Trail.notices_push, Trail.ready_of_not_lacksBody, Trail.notices_closeImplied]
    · rfl
    · simp [Trail.LacksBody, htag]
  have hrows := count_bodies_siblings htags rows
  rw [hnotices, List.count_nil, Nat.zero_add] at hrows
  rw [Build.replay, Trail.replayAll_cons, Trail.replayAll_nil, Tagged.node,
    Trail.replay_eq_finish_inside hvoid]
  exact (congrArg _ (Trail.notices_finish _ _)).trans hrows

/-- Leaving out the end tags of items changes neither the document nor the notices: for the items of
a list, for terms and descriptions, for options in groups, for the cells and rows of a table, and
for paragraphs. A table whose rows stand directly in it is given one body, or none if it has no
rows. -/
theorem replay_nested_eq_siblings :
    (∀ (list : Tagged ["ul", "ol"]) (items : List (Item ["li"])),
        Build.replay [list.node (Item.nested items [])] =
          Build.replay [list.node (Item.siblings items)]) ∧
      (∀ (list : Tagged ["dl"]) (items : List (Item ["dt", "dd"])),
        Build.replay [list.node (Item.nested items [])] =
          Build.replay [list.node (Item.siblings items)]) ∧
      (∀ (select : Tagged ["select"]) (groups : List (ItemGroup "optgroup" ["option"])),
        Build.replay [select.node (ItemGroup.nested groups)] =
          Build.replay [select.node (ItemGroup.siblings groups)]) ∧
      (∀ (table : Tagged ["table"]) (rows : List (ItemGroup "tr" ["td", "th"])),
        let forest := [table.node (ItemGroup.siblings rows)]
        let bodies := (Build.outline forest).filter fun e => (Build.origin forest e.position).isNone
        Build.replay [table.node (ItemGroup.nested rows)] = Build.replay forest ∧
          bodies.length = (if rows.isEmpty then 0 else 1) ∧
          (Build.replay forest).2.count .impliedTableBody = bodies.length) ∧
      ∀ items : List (Item ["p"]),
        Build.replay (Item.nested items []) = Build.replay (Item.siblings items) := by
  refine ⟨?list, ?definitions, ?select, ?table, ?paragraphs⟩
  case list =>
    intro list items
    have hitems : ∀ tag ∈ ["ul", "ol"], Separates ["li"] ["li"] [tag] := by decide
    refine replay_container list (by decide) fun tag htag t hordered htags => ?_
    exact Item.replayAll_nested hordered (htags.symm ▸ hitems tag htag) (List.Subset.refl _) items
      .nothing
  case definitions =>
    intro list items
    have hitems : ∀ tag ∈ ["dl"], Separates ["dt", "dd"] ["dt", "dd"] [tag] := by decide
    refine replay_container list (by decide) fun tag htag t hordered htags => ?_
    exact Item.replayAll_nested hordered (htags.symm ▸ hitems tag htag) (List.Subset.refl _) items
      .nothing
  case select =>
    intro select groups
    have hready : ∀ tag ∈ ["select"], surroundings "optgroup" [tag] = ["select"] := by decide
    have hgroups : Separates ["optgroup"] ["optgroup"] ["select"] := by decide
    have hoptions : Separates ["option"] ["optgroup", "option"] ["optgroup", "select"] := by decide
    refine replay_container select (by decide) fun tag htag t hordered htags => ?_
    exact ItemGroup.replayAll_nested hgroups hoptions hordered
      (by rw [Trail.tags_ready, htags, hready tag htag]) groups
  case table =>
    intro table rows forest bodies
    have hready : ∀ tag ∈ ["table"], surroundings "tr" [tag] = ["tbody", "table"] := by decide
    have hcount := count_bodies_replay table rows
    have hbodies : bodies.length = (Build.replay forest).2.count .impliedTableBody :=
      Build.length_impliedBodies forest
    refine ⟨?_, hbodies.trans hcount, hbodies.symm⟩
    refine replay_container table (by decide) fun tag htag t hordered htags => ?_
    exact ItemGroup.replayAll_nested separates_rows separates_cells hordered
      (by rw [Trail.tags_ready, htags, hready tag htag]) rows
  case paragraphs =>
    intro items
    have hitems : Separates ["p"] ["p"] Trail.start.tags := by decide
    have hsame := Item.replayAll_nested Trail.ordered_start hitems (List.Subset.refl _) items
      .nothing
    rw [Trail.replayAll_nil] at hsame
    rw [Build.replay, hsame, Build.replay]

theorem replay_nested_eq_siblings_list :
    let item : List RawNode → RawNode := .element "LI" []
    Build.replay [.element "ul" [] [item [.text "one", item [.text "two", item []]]]] =
      Build.replay [.element "ul" [] [item [.text "one"], item [.text "two"], item []]] :=
  replay_nested_eq_siblings.1 ⟨"ul", [], by decide⟩
    [⟨⟨"LI", [], by decide⟩, [.text "one"], trivial, trivial⟩,
      ⟨⟨"LI", [], by decide⟩, [.text "two"], trivial, trivial⟩,
      ⟨⟨"LI", [], by decide⟩, [], trivial⟩]

end MarkupAudit
