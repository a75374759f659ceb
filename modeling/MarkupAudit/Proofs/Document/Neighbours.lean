import MarkupAudit.Proofs.Document.Ancestry
import Mathlib.Data.List.Induction
import Mathlib.Data.List.Sort

/-!
# Going from neighbour to neighbour

An element finds its neighbours by looking for itself among the children of its parent, each time
anew. This comes to the same as going along the list of the children: a step on and a step back undo
each other, going on from the first child passes all children in order, and going back from a child
passes those before it.

Main statements: `Place.next_eq_some_iff` and `Place.previous_eq_some_iff` (the steps undo each
other), `Place.walk_next_iff` and `Place.walk_previous` (what going on and going back pass), and
`Document.filter_hasChild` (the children of a parent are found among all elements by their
positions).
-/

namespace MarkupAudit

/-! ## Walks -/

/-- Going from place to place by a step passes the places of the list and ends behind the last. -/
inductive Walk (step : Place → Except Fault (Option Place)) : Option Place → List Place → Prop
  | done : Walk step none []
  | go {p : Place} {onward : Option Place} {rest : List Place} (hstep : step p = .ok onward)
      (hrest : Walk step onward rest) : Walk step (some p) (p :: rest)

theorem Walk.unique {step : Place → Except Fault (Option Place)} {start : Option Place}
    {ps qs : List Place} (h : Walk step start ps) (h' : Walk step start qs) : ps = qs := by
  induction h generalizing qs with
  | done =>
    cases h'
    rfl
  | go hstep _ ih =>
    cases h' with
    | go hstep' hrest' =>
      rcases Except.ok.inj (hstep.symm.trans hstep') with rfl
      rw [ih hrest']

namespace Place

variable {parent p q : Place} {front back : List Place}

/-! ## A child between those before and those behind it -/

theorem siblings_of_children (hchildren : parent.children = front ++ p :: back) :
    p.siblings = front ++ p :: back := by
  have hchild : p ∈ parent.children := by simp [hchildren]
  rw [siblings_of_mem_children hchild, hchildren]

theorem index_of_children (hchildren : parent.children = front ++ p :: back) :
    p.index = .ok front.length := by
  have hthere : p.siblings[front.length]? = some p := by simp [siblings_of_children hchildren]
  exact index_of_getElem? hthere

theorem next_of_children (hchildren : parent.children = front ++ p :: back) :
    p.next = .ok back.head? := by
  rw [next_of_index (index_of_children hchildren), siblings_of_children hchildren]
  cases back <;> simp

theorem previous_of_children (hchildren : parent.children = front ++ p :: back) :
    p.previous = .ok front.getLast? := by
  rw [previous_of_index (index_of_children hchildren), siblings_of_children hchildren,
    List.take_left]

theorem searchBack_of_children (test : Place → Bool)
    (hchildren : parent.children = front ++ p :: back) :
    p.searchBack test = .ok (front.reverse.find? test) := by
  rw [searchBack_of_index (index_of_children hchildren), siblings_of_children hchildren,
    List.take_left]

/-! ## Steps on and back -/

theorem next_eq_some_iff_adjacent (hp : p ∈ parent.children) :
    p.next = .ok (some q) ↔ ∃ front back, parent.children = front ++ p :: q :: back := by
  constructor
  · intro hnext
    rcases List.append_of_mem hp with ⟨front, behind, hchildren⟩
    rw [next_of_children hchildren] at hnext
    rcases List.head?_eq_some_iff.1 (Except.ok.inj hnext) with ⟨back, rfl⟩
    exact ⟨front, back, hchildren⟩
  · rintro ⟨front, back, hchildren⟩
    exact next_of_children hchildren

theorem previous_eq_some_iff_adjacent (hq : q ∈ parent.children) :
    q.previous = .ok (some p) ↔ ∃ front back, parent.children = front ++ p :: q :: back := by
  constructor
  · intro hprevious
    rcases List.append_of_mem hq with ⟨before, back, hchildren⟩
    rw [previous_of_children hchildren] at hprevious
    rcases List.getLast?_eq_some_iff.1 (Except.ok.inj hprevious) with ⟨front, rfl⟩
    exact ⟨front, back, by simpa using hchildren⟩
  · rintro ⟨front, back, hchildren⟩
    have hsplit : parent.children = (front ++ [p]) ++ q :: back := by simpa using hchildren
    rw [previous_of_children hsplit, List.getLast?_concat]

theorem next_eq_some_iff (hp : p ∈ parent.children) :
    p.next = .ok (some q) ↔ q ∈ parent.children ∧ q.previous = .ok (some p) := by
  rw [next_eq_some_iff_adjacent hp]
  constructor
  · rintro ⟨front, back, hchildren⟩
    have hq : q ∈ parent.children := by simp [hchildren]
    exact ⟨hq, (previous_eq_some_iff_adjacent hq).2 ⟨front, back, hchildren⟩⟩
  · rintro ⟨hq, hprevious⟩
    exact (previous_eq_some_iff_adjacent hq).1 hprevious

theorem previous_eq_some_iff (hq : q ∈ parent.children) :
    q.previous = .ok (some p) ↔ p ∈ parent.children ∧ p.next = .ok (some q) := by
  rw [previous_eq_some_iff_adjacent hq]
  constructor
  · rintro ⟨front, back, hchildren⟩
    have hp : p ∈ parent.children := by simp [hchildren]
    exact ⟨hp, (next_eq_some_iff_adjacent hp).2 ⟨front, back, hchildren⟩⟩
  · rintro ⟨hp, hnext⟩
    exact (next_eq_some_iff_adjacent hp).1 hnext

/-! ## Going all the way -/

theorem walk_next (hchildren : parent.children = front ++ back) : Walk next back.head? back := by
  -- With each step one more child is behind, so the ones before are kept general.
  induction back generalizing front with
  | nil => exact .done
  | cons p back ih =>
    have hbehind : parent.children = (front ++ [p]) ++ back := by simpa using hchildren
    exact .go (next_of_children hchildren) (ih hbehind)

/-- Going on from the first child passes the children, and nothing else. -/
theorem walk_next_iff (parent : Place) {ps : List Place} :
    Walk next parent.firstChild? ps ↔ ps = parent.children := by
  have hall : Walk next parent.firstChild? parent.children := walk_next (List.nil_append _).symm
  constructor
  · intro hwalk
    exact hwalk.unique hall
  · rintro rfl
    exact hall

theorem walk_previous (hchildren : parent.children = front ++ back) :
    Walk previous front.getLast? front.reverse := by
  -- The way back starts at the end of the children that are passed.
  induction front using List.reverseRecOn generalizing back with
  | nil => exact .done
  | append_singleton front p ih =>
    have hbefore : parent.children = front ++ p :: back := by simpa using hchildren
    rw [List.getLast?_concat, List.reverse_concat]
    exact .go (previous_of_children hbefore) (ih hbefore)

/-! ## Children told by their positions -/

theorem eq_of_same (hp : p ∈ parent.children) (hq : q ∈ parent.children) (h : p.same q = true) :
    p = q := by
  have hnodup : (parent.children.map (·.position)).Nodup :=
    List.pairwise_map.2 (parent.pairwise_children.imp Nat.ne_of_lt)
  exact List.inj_on_of_nodup_map hnodup hp hq (by simpa [same] using h)

theorem any_same_iff (hp : p ∈ parent.children) {q? : Option Place}
    (hchild : ∀ q, q? = some q → q ∈ parent.children) :
    q?.any p.same = true ↔ q? = some p := by
  cases q? with
  | none => simp
  | some q =>
    rw [Option.any_some, Option.some.injEq]
    constructor
    · intro hsame
      exact (eq_of_same hp (hchild q rfl) hsame).symm
    · rintro rfl
      simp [same]

/-- The other place stands where one of the children does. -/
def hasChild (parent p : Place) : Bool :=
  parent.children.any p.same

theorem hasChild_of_mem (hp : p ∈ parent.children) : parent.hasChild p = true :=
  List.any_eq_true.2 ⟨p, hp, by simp [same]⟩

end Place

namespace Document

variable {d : Document} {parent p : Place}

/-- The places that have children: the document itself and its elements. -/
def parents (d : Document) : List Place :=
  d.rootPlace :: d.places

theorem children_subset (hparent : parent ∈ d.parents) : parent.children ⊆ d.places := by
  intro p hp
  rcases List.mem_cons.1 hparent with rfl | hplace
  · exact Place.mem_descendants_of_mem_children hp
  · exact mem_places_of_mem_children hplace hp

theorem exists_mem_parents (hp : p ∈ d.places) : ∃ parent ∈ d.parents, p ∈ parent.children := by
  rcases exists_parent hp with ⟨parent, hparent, hchild⟩
  exact ⟨parent, List.mem_cons.2 (parent_eq_or_mem_places hp hparent), hchild⟩

/-- The children of a parent are those of all elements that stand where a child does. -/
theorem filter_hasChild (hparent : parent ∈ d.parents) :
    d.places.filter parent.hasChild = parent.children := by
  have hirrefl : Std.Irrefl fun p q : Place => p.position < q.position :=
    ⟨fun _ => Nat.lt_irrefl _⟩
  have hantisymm : Std.Antisymm fun p q : Place => p.position < q.position :=
    ⟨fun _ _ hlt hgt => absurd hlt (Nat.lt_asymm hgt)⟩
  have hsubset := children_subset hparent
  -- Both are in document order, so it is enough that they have the same members.
  refine List.Pairwise.eq_of_mem_iff ((pairwise_places d).filter _) parent.pairwise_children
    fun p => ?_
  rw [List.mem_filter]
  constructor
  · rintro ⟨hp, hchild⟩
    rcases List.any_eq_true.1 hchild with ⟨q, hq, hsame⟩
    rcases (same_iff_eq hp (hsubset hq)).1 hsame with rfl
    exact hq
  · intro hp
    exact ⟨hsubset hp, Place.hasChild_of_mem hp⟩

end Document

end MarkupAudit
