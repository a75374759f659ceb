import MarkupAudit.Proofs.Build.Placement
import MarkupAudit.Proofs.Build.Sequence
import MarkupAudit.Proofs.Document.Descent

/-!
# Items in items and rows in rows

A new list item closes the open one, unless an element between the two hides it. If that element
stands in an open paragraph, which it does not hide, the new item closes the paragraph with all that
is in it, and what holds the paragraph is open again. So an item may stand in an item, but only
behind such a paragraph. The same holds for terms and descriptions. A row closes one of row, caption
and group of columns, so a row may stand in a row behind a caption or a group of columns, but in no
table.

The proofs keep for every open element that it stands where it may, given the finished children of
what it is in. Closing puts one finished element behind them and takes none away.

Main statement: `items_stand_in_items_only_behind_paragraphs`.
-/

namespace MarkupAudit

open Build Markup

/-! ## Where an item may stand in an item -/

namespace Build

/-- Groups of which a new element closes the open one. -/
def itemGroups : List (List String) := [["li"], ["dt", "dd"]]

/-- An element that hides an open item from a new one but no open paragraph, and that closes none
itself. -/
def HidesItems (tag : String) : Prop :=
  tag ∈ listItemBoundary ∧ tag ∉ paragraphClosers ∧ tag ∉ buttonScope

instance (tag : String) : Decidable (HidesItems tag) :=
  inferInstanceAs (Decidable (_ ∧ _))

end Build

namespace Node

def tag? : Node → Option String
  | .text _ => none
  | .element tag _ _ => some tag

mutual

/-- The tags of a node and of all elements in it, in document order. -/
def tags : Node → List String
  | .text _ => []
  | .element tag _ children => tag :: tagsAll children

def tagsAll : List Node → List String
  | [] => []
  | node :: rest => node.tags ++ tagsAll rest

end

theorem tagsAll_append (a b : List Node) : tagsAll (a ++ b) = tagsAll a ++ tagsAll b := by
  induction a with
  | nil => rfl
  | cons node rest ih => simp [tagsAll, ih]

/-- A paragraph with an element in it that hides items. -/
def Uncovers (node : Node) : Prop :=
  ∃ attributes children, node = .element "p" attributes children ∧
    ∃ tag ∈ tagsAll children, HidesItems tag

/-- A child with the tag may stand in an element behind its earlier children. -/
structure MayHold (parent : String) (earlier : List Node) (child : String) : Prop where
  item : ∀ group ∈ itemGroups, parent ∈ group → child ∈ group → ∃ node ∈ earlier, node.Uncovers
  row : parent = "tr" → child = "tr" →
    ∃ node ∈ earlier, ∃ tag ∈ node.tag?, tag ∈ ["caption", "colgroup"]

mutual

/-- In a node, every child stands where it may. -/
def Spaced : Node → Prop
  | .text _ => True
  | .element tag _ children => SpacedBehind tag [] children

/-- Every child stands where it may, when the first stands behind the earlier ones. -/
def SpacedBehind (parent : String) (earlier : List Node) : List Node → Prop
  | [] => True
  | node :: rest =>
    (∀ tag ∈ node.tag?, MayHold parent earlier tag) ∧ node.Spaced ∧
      SpacedBehind parent (earlier ++ [node]) rest

end

theorem spacedBehind_append {parent : String} {earlier a b : List Node} :
    SpacedBehind parent earlier (a ++ b) ↔
      SpacedBehind parent earlier a ∧ SpacedBehind parent (earlier ++ a) b := by
  induction a generalizing earlier with
  | nil => simp [SpacedBehind]
  | cons node rest ih => simp [SpacedBehind, ih, and_assoc]

theorem spacedBehind_singleton {parent : String} {earlier : List Node} {node : Node} :
    SpacedBehind parent earlier [node] ↔
      (∀ tag ∈ node.tag?, MayHold parent earlier tag) ∧ node.Spaced := by
  simp [SpacedBehind]

end Node

open Node

/-! ## Trails in which every child stands where it may -/

namespace Trail

/-- The tag and the finished children of the innermost open element, or of the document. -/
def level (top : List Node) : List OpenElement → String × List Node
  | [] => (Document.rootTag, top)
  | e :: _ => (e.tag, e.children)

def SpacedOut (top : List Node) : List OpenElement → Prop
  | [] => SpacedBehind Document.rootTag [] top
  | e :: outer =>
    SpacedBehind e.tag [] e.children ∧ MayHold (level top outer).1 (level top outer).2 e.tag ∧
      SpacedOut top outer

/-- All that is finished or open in the trail stands where it may. -/
def Spaced (t : Trail) : Prop :=
  SpacedOut t.top t.opened

/-- An element with the tag may be placed in the trail. -/
def Admits (t : Trail) (tag : String) : Prop :=
  MayHold (level t.top t.opened).1 (level t.top t.opened).2 tag

theorem level_append (t : Trail) (node : Node) :
    level (t.append node).top (t.append node).opened =
      ((level t.top t.opened).1, (level t.top t.opened).2 ++ [node]) := by
  rcases t with ⟨opened, top, next, notices⟩
  cases opened <;> rfl

/-! ### Adding and closing -/

section

variable {t : Trail}

theorem spaced_start : start.Spaced := by
  simp [Spaced, SpacedOut, start, SpacedBehind]

theorem Spaced.append (h : t.Spaced) {node : Node} (hnode : node.Spaced)
    (hadmits : ∀ tag ∈ node.tag?, t.Admits tag) : (t.append node).Spaced := by
  rcases t with ⟨opened, top, next, notices⟩
  cases opened with
  | nil => exact spacedBehind_append.2 ⟨h, spacedBehind_singleton.2 ⟨hadmits, hnode⟩⟩
  | cons e outer =>
    rcases h with ⟨hchildren, hrest⟩
    exact ⟨spacedBehind_append.2 ⟨hchildren, spacedBehind_singleton.2 ⟨hadmits, hnode⟩⟩, hrest⟩

theorem Spaced.push (h : t.Spaced) {tag : String} (hadmits : t.Admits tag)
    (kept : Attributes) : (t.push tag kept).Spaced :=
  ⟨by simp [SpacedBehind], hadmits, h⟩

theorem Spaced.pop (h : t.Spaced) : t.pop.Spaced := by
  rcases t with ⟨opened, top, next, notices⟩
  cases opened with
  | nil => exact h
  | cons e outer =>
    rcases h with ⟨hchildren, hadmits, houter⟩
    have hrest : (⟨outer, top, next, notices⟩ : Trail).Spaced := houter
    refine hrest.append hchildren ?_
    rintro _ ⟨rfl⟩
    exact hadmits

theorem Spaced.close (h : t.Spaced) (n : Nat) : (close n t).Spaced := by
  induction n generalizing t with
  | zero => exact h
  | succ n ih => exact ih h.pop

theorem mayHold_of_spacedOut {top : List Node} {inner outer : List OpenElement} {e : OpenElement}
    (h : SpacedOut top (inner ++ e :: outer)) :
    MayHold (level top outer).1 (level top outer).2 e.tag := by
  induction inner with
  | nil => exact h.2.1
  | cons f inner ih => exact ih h.2.2

/-- An open element may stand where it does, whatever is open in it. -/
theorem Spaced.mayHold (h : t.Spaced) {inner outer : List OpenElement} {e : OpenElement}
    (hopened : t.opened = inner ++ e :: outer) :
    MayHold (level t.top outer).1 (level t.top outer).2 e.tag := by
  rw [Spaced, hopened] at h
  exact mayHold_of_spacedOut h

end

theorem tags_node_append (e : OpenElement) (node : Node) :
    ({ e with children := e.children ++ [node] } : OpenElement).node.tags =
      e.node.tags ++ node.tags := by
  simp [OpenElement.node, Node.tags, tagsAll_append, tagsAll]

/-- Closing through an element finishes it with what is open in it at the end of its content. -/
theorem close_through (inner : List OpenElement) (e : OpenElement) (outer : List OpenElement)
    (top : List Node) (next : Nat) (notices : List Notice) :
    ∃ more, close (inner.length + 1) ⟨inner ++ e :: outer, top, next, notices⟩ =
        (⟨outer, top, next, notices⟩ : Trail).append
          (.element e.tag e.attributes (e.children ++ more)) ∧
      ∀ f ∈ inner, f.node.tags ⊆ tagsAll more := by
  generalize hlength : inner.length = n
  induction n generalizing inner e with
  | zero =>
    rw [List.eq_nil_of_length_eq_zero hlength]
    exact ⟨[], by simp [close, pop, OpenElement.node], by simp⟩
  | succ n ih =>
    rcases List.exists_cons_of_length_eq_add_one hlength with ⟨f, inner, rfl⟩
    have hn : inner.length = n := by simpa using hlength
    cases inner with
    | nil =>
      -- The innermost element is finished in the one that is closed through.
      have hn : n = 0 := hn.symm
      subst hn
      refine ⟨[f.node], rfl, ?_⟩
      intro g hg
      simp [List.mem_singleton.1 hg, tagsAll]
    | cons g inner =>
      rcases ih ({ g with children := g.children ++ [f.node] } :: inner) e hn with
        ⟨more, hclose, htags⟩
      refine ⟨more, hclose, ?_⟩
      -- What was open in the next element is part of its content now.
      have hboth := htags _ List.mem_cons_self
      rw [tags_node_append, List.append_subset] at hboth
      intro x hx
      rcases List.mem_cons.1 hx with rfl | hx
      · exact hboth.2
      · rcases List.mem_cons.1 hx with rfl | hx
        · exact hboth.1
        · exact htags x (List.mem_cons_of_mem _ hx)

/-! ### What a start tag uncovers -/

/-- Closing through the nearest target finishes it, with what is open in it, as the last child of
what holds it; without one it changes nothing. -/
theorem apply_through (t : Trail) (targets boundary : List String) :
    (∃ inner e outer more, t.opened = inner ++ e :: outer ∧ e.tag ∈ targets ∧
        (∀ f ∈ inner, f.tag ∉ targets ++ boundary) ∧ (∀ f ∈ inner, f.tag ∈ tagsAll more) ∧
        t.apply (.through targets boundary) =
          (⟨outer, t.top, t.next, t.notices⟩ : Trail).append
            (.element e.tag e.attributes (e.children ++ more))) ∨
      (t.apply (.through targets boundary) = t ∧
        ∀ x, t.tags.find? (targets ++ boundary).contains = some x → x ∉ targets) := by
  rw [tags_eq, apply]
  cases hdepth : depth? targets boundary t.opened with
  | none => exact .inr ⟨rfl, depth?_eq_none hdepth⟩
  | some depth =>
    left
    rcases depth?_eq_some hdepth with ⟨before, tag, behind, hsplit, rfl, htag, hbefore⟩
    rcases List.map_eq_append_iff.1 hsplit with ⟨inner, rest, hopened, rfl, hrest⟩
    rcases List.map_eq_cons_iff.1 hrest with ⟨e, outer, rfl, rfl, rfl⟩
    rcases close_through inner e outer t.top t.next t.notices with ⟨more, hclose, hmore⟩
    have hself : t = ⟨inner ++ e :: outer, t.top, t.next, t.notices⟩ := by rw [← hopened]
    refine ⟨inner, e, outer, more, hopened, htag, ?_, ?_, ?_⟩
    · exact fun f hf => hbefore _ (List.mem_map_of_mem hf)
    · exact fun f hf => hmore f hf List.mem_cons_self
    · rw [← hclose, ← hself, List.length_map]

/-- A search that looks for targets and boundaries finds the first of them. -/
theorem find?_of_nearest {targets boundary inner outer : List String} {x : String}
    (hinner : ∀ y ∈ inner, y ∉ targets ++ boundary) (hx : x ∈ targets ++ boundary) :
    (inner ++ x :: outer).find? (targets ++ boundary).contains = some x := by
  have hpass : inner.find? (targets ++ boundary).contains = none := by
    rw [List.find?_eq_none]
    exact fun y hy => by simpa using hinner y hy
  rw [List.find?_append, hpass, Option.none_or,
    List.find?_cons_of_pos (by simpa using hx)]

/-- A target that is closed had to be allowed where it stood, and what is placed then stands behind
it in the same element. -/
theorem level_apply {t : Trail} {outer : List OpenElement} {node : Node} {c : Closing}
    (happly : t.apply c = (⟨outer, t.top, t.next, t.notices⟩ : Trail).append node) :
    level (t.apply c).top (t.apply c).opened =
      ((level t.top outer).1, (level t.top outer).2 ++ [node]) := by
  rw [happly, level_append]

section

variable {t : Trail}

/-- If an element is the nearest target or boundary where the search finds no target, it is no
target. -/
theorem tag_not_mem_of_nearest {targets boundary : List String} {inner outer : List OpenElement}
    {e : OpenElement}
    (hnearest : ∀ x, t.tags.find? (targets ++ boundary).contains = some x → x ∉ targets)
    (hopened : t.opened = inner ++ e :: outer)
    (hinner : ∀ f ∈ inner, f.tag ∉ targets ++ boundary) : e.tag ∉ targets := by
  intro htag
  have htags : t.tags = inner.map (·.tag) ++ e.tag :: outer.map (·.tag) := by
    simp [tags_eq, hopened]
  have hfind : t.tags.find? (targets ++ boundary).contains = some e.tag := by
    rw [htags]
    exact find?_of_nearest (by simpa using hinner) (List.mem_append_left _ htag)
  exact hnearest e.tag hfind htag

/-- A new item whose search finds an open one leaves no paragraph to be closed: the open item closed
it. -/
theorem apply_paragraph_of_item {e : OpenElement} {outer : List OpenElement}
    (hplaced : WellPlaced e.tag (outer.map (·.tag))) (hcloser : e.tag ∈ paragraphClosers)
    (htags : t.tags = outer.map (·.tag)) : t.apply (.through ["p"] buttonScope) = t := by
  rcases apply_through t ["p"] buttonScope with
    ⟨inner, f, behind, -, hopened, hf, hinner, -⟩ | ⟨happly, -⟩
  · have hnearest := hplaced.paragraph hcloser
    rw [← htags] at hnearest
    exact absurd hf (tag_not_mem_of_nearest hnearest hopened hinner)
  · exact happly

/-- What is open in a paragraph that a new item closes, and hides an open item around the paragraph,
hides items only. -/
theorem exists_hidesItems {group : List String} (hgroup : "p" ∉ group ++ listItemBoundary)
    (hplaced : AllPlaced t.tags) {inner outer : List OpenElement} {e : OpenElement}
    (hopened : t.opened = inner ++ e :: outer) (he : e.tag = "p")
    (hinner : ∀ f ∈ inner, f.tag ∉ ["p"] ++ buttonScope)
    (hhidden : ∀ x, t.tags.find? (group ++ listItemBoundary).contains = some x → x ∉ group)
    (hparent : ∃ tag ∈ (outer.map (·.tag)).head?, tag ∈ group) :
    ∃ f ∈ inner, HidesItems f.tag := by
  rcases hparent with ⟨tag, hhead, htag⟩
  rcases List.head?_eq_some_iff.1 hhead with ⟨far, hfar⟩
  have htags : t.tags = inner.map (·.tag) ++ "p" :: outer.map (·.tag) := by
    simp [tags_eq, hopened, he]
  cases hfind : (inner.map (·.tag)).find? (group ++ listItemBoundary).contains with
  | none =>
    -- With nothing between, the search would find the item that holds the paragraph.
    have hpass : ∀ y ∈ inner.map (·.tag) ++ ["p"], y ∉ group ++ listItemBoundary := by
      intro y hy
      rcases List.mem_append.1 hy with hy | hy
      · simpa using List.find?_eq_none.1 hfind y hy
      · rw [List.mem_singleton.1 hy]
        exact hgroup
    have hfound : t.tags.find? (group ++ listItemBoundary).contains = some tag := by
      have hsplit : t.tags = (inner.map (·.tag) ++ ["p"]) ++ tag :: far := by simp [htags, hfar]
      rw [hsplit]
      exact find?_of_nearest hpass (List.mem_append_left _ htag)
    exact absurd htag (hhidden tag hfound)
  | some x =>
    have hfound : t.tags.find? (group ++ listItemBoundary).contains = some x := by
      rw [htags, List.find?_append, hfind, Option.some_or]
    have hmem : x ∈ group ++ listItemBoundary := by simpa using List.find?_some hfind
    have hboundary : x ∈ listItemBoundary :=
      (List.mem_append.1 hmem).resolve_left (hhidden x hfound)
    rcases List.mem_map.1 (List.mem_of_find?_eq_some hfind) with ⟨f, hf, rfl⟩
    rcases List.mem_iff_append.1 hf with ⟨before, behind, rfl⟩
    refine ⟨f, hf, hboundary, ?_, ?_⟩
    · -- An element that closes paragraphs would have closed this one.
      intro hcloser
      have hwell : WellPlaced f.tag (behind.map (·.tag) ++ "p" :: outer.map (·.tag)) :=
        hplaced _ _ (by simp [htags])
      have hnearest : (behind.map (·.tag) ++ "p" :: outer.map (·.tag)).find?
          (["p"] ++ buttonScope).contains = some "p" := by
        refine find?_of_nearest ?_ (by simp)
        intro y hy
        rcases List.mem_map.1 hy with ⟨g, hg, rfl⟩
        exact hinner g (by simp [hg])
      exact hwell.paragraph hcloser "p" hnearest (by simp)
    · intro hscope
      exact hinner f hf (List.mem_append_right _ hscope)

/-- The innermost open element is the nearest of all. -/
theorem level_not_mem_of_nearest {targets boundary : List String}
    (hnearest : ∀ x, t.tags.find? (targets ++ boundary).contains = some x → x ∉ targets)
    (hroot : Document.rootTag ∉ targets) : (level t.top t.opened).1 ∉ targets := by
  cases hopened : t.opened with
  | nil => exact hroot
  | cons e outer =>
    have hsplit : t.opened = [] ++ e :: outer := hopened
    exact tag_not_mem_of_nearest hnearest hsplit (by simp)

/-- Where a new item would stand in one of its group, a paragraph stands before it that hides
items. -/
theorem exists_uncovers (h : t.Spaced) (hplaced : AllPlaced t.tags) {group : List String}
    (hgroup : group ∈ itemGroups) {tag : String} (htag : tag ∈ group)
    (hparent : (level (t.ready tag).top (t.ready tag).opened).1 ∈ group) :
    ∃ node ∈ (level (t.ready tag).top (t.ready tag).opened).2, node.Uncovers := by
  have hrow : ∀ group ∈ itemGroups, ∀ tag ∈ group, tag ≠ "tr" := by decide
  have hclosings : ∀ group ∈ itemGroups, ∀ tag ∈ group, closings tag =
      [.through group listItemBoundary, .through ["p"] buttonScope] := by decide
  have hcloser : ∀ group ∈ itemGroups, ∀ tag ∈ group, tag ∈ paragraphClosers := by decide
  have hroot : ∀ group ∈ itemGroups, Document.rootTag ∉ group := by decide
  have hparagraph : ∀ group ∈ itemGroups, "p" ∉ group ++ listItemBoundary := by decide
  have hready : t.ready tag =
      (t.apply (.through group listItemBoundary)).apply (.through ["p"] buttonScope) := by
    simp [ready_eq_foldl (hrow group hgroup tag htag), hclosings group hgroup tag htag]
  rw [hready] at hparent ⊢
  rcases apply_through t group listItemBoundary with
    ⟨inner, e, outer, more, hopened, he, -, -, happly⟩ | ⟨happly, hhidden⟩
  · -- An open item is closed, and no paragraph. Where that item stood, the new one may stand too.
    have hwell : WellPlaced e.tag (outer.map (·.tag)) :=
      hplaced _ _ (by simp [tags_eq, hopened])
    have htags : (t.apply (.through group listItemBoundary)).tags = outer.map (·.tag) := by
      rw [happly, tags_append, tags_eq]
    have hstood : MayHold (level t.top outer).1 (level t.top outer).2 e.tag :=
      h.mayHold hopened
    rw [apply_paragraph_of_item hwell (hcloser group hgroup e.tag he) htags, level_apply happly]
      at hparent ⊢
    rcases hstood.item group hgroup hparent he with ⟨node, hnode, huncovers⟩
    exact ⟨node, List.mem_append_left _ hnode, huncovers⟩
  · rw [happly] at hparent ⊢
    rcases apply_through t ["p"] buttonScope with
      ⟨inner, e, outer, more, hopened, he, hinner, hmore, hclose⟩ | ⟨hclose, -⟩
    · have he : e.tag = "p" := List.mem_singleton.1 he
      rw [level_apply hclose] at hparent ⊢
      have houter : ∃ tag ∈ (outer.map (·.tag)).head?, tag ∈ group := by
        cases outer with
        | nil => exact absurd hparent (hroot group hgroup)
        | cons f outer => exact ⟨f.tag, rfl, hparent⟩
      rcases exists_hidesItems (hparagraph group hgroup) hplaced hopened he hinner hhidden houter
        with ⟨f, hf, hhides⟩
      refine ⟨_, List.mem_append_right _ (List.mem_singleton_self _), e.attributes,
        e.children ++ more, by rw [he], f.tag, ?_, hhides⟩
      rw [tagsAll_append]
      exact List.mem_append_right _ (hmore f hf)
    · rw [hclose] at hparent
      exact absurd hparent (level_not_mem_of_nearest hhidden (hroot group hgroup))

/-- Where a new row would stand in a row, a caption or a group of columns stands before it. -/
theorem exists_tablePart (h : t.Spaced)
    (hparent : (level (t.ready "tr").top (t.ready "tr").opened).1 = "tr") :
    ∃ node ∈ (level (t.ready "tr").top (t.ready "tr").opened).2,
      ∃ tag ∈ node.tag?, tag ∈ ["caption", "colgroup"] := by
  have hclosings : closings "tr" = [.through ["tr", "caption", "colgroup"] rowBoundary] := by decide
  by_cases hlacks : t.LacksBody "tr"
  · have hbody : (level (t.ready "tr").top (t.ready "tr").opened).1 = "tbody" := by
      rw [ready_of_lacksBody hlacks]
      rfl
    exact absurd (hbody.symm.trans hparent) (by decide)
  · have hready : t.ready "tr" = t.apply (.through ["tr", "caption", "colgroup"] rowBoundary) := by
      simp [ready_of_not_lacksBody hlacks, closeImplied, hclosings]
    rw [hready] at hparent ⊢
    rcases apply_through t ["tr", "caption", "colgroup"] rowBoundary with
      ⟨inner, e, outer, more, hopened, he, -, -, happly⟩ | ⟨happly, hnearest⟩
    · rw [level_apply happly] at hparent ⊢
      rcases List.mem_cons.1 he with hrow | hpart
      · have hstood : MayHold (level t.top outer).1 (level t.top outer).2 e.tag :=
          h.mayHold hopened
        rcases hstood.row hparent hrow with ⟨node, hnode, hpart⟩
        exact ⟨node, List.mem_append_left _ hnode, hpart⟩
      · exact ⟨_, List.mem_append_right _ (List.mem_singleton_self _), e.tag, rfl, hpart⟩
    · rw [happly] at hparent
      have hnot := level_not_mem_of_nearest hnearest (by decide)
      exact absurd (by simp [hparent]) hnot

theorem admits_ready (h : t.Spaced) (hplaced : AllPlaced t.tags) (tag : String) :
    (t.ready tag).Admits tag where
  item _ hgroup hparent htag := exists_uncovers h hplaced hgroup htag hparent
  row hparent htag := by
    subst htag
    exact exists_tablePart h hparent

end

/-! ### The run -/

section

variable {t : Trail}

theorem Spaced.ready (h : t.Spaced) (tag : String) : (t.ready tag).Spaced := by
  have hbody : ∀ group ∈ itemGroups, "tbody" ∉ group := by decide
  rcases closeImplied_spares_tables t tag with ⟨n, hclose, -⟩
  have hclosed : (t.closeImplied tag).Spaced := by
    rw [hclose]
    exact h.close n
  by_cases hlacks : t.LacksBody tag
  · rw [ready_of_lacksBody hlacks]
    exact hclosed.push ⟨fun group hgroup _ hmem => absurd hmem (hbody group hgroup),
      fun _ heq => absurd heq (by decide)⟩ .empty
  · rw [ready_of_not_lacksBody hlacks]
    exact hclosed

/-- What a start tag places stands where it may. -/
theorem Spaced.enter (h : t.Spaced) (hplaced : AllPlaced t.tags) (tag : String)
    (kept : Attributes) (isEmpty : Bool) : (t.enter tag kept isEmpty).Spaced := by
  have hadmits := admits_ready h hplaced tag
  by_cases hvoid : Element.isVoidTag tag = true
  · have happend : ((t.ready tag).append (.element tag kept [])).Spaced := by
      refine (h.ready tag).append (by simp [Node.Spaced, SpacedBehind]) ?_
      rintro _ ⟨rfl⟩
      exact hadmits
    unfold Trail.enter
    rw [if_pos hvoid]
    split
    · exact happend
    · exact happend
  · rw [enter_of_not_void t kept isEmpty hvoid]
    exact (h.ready tag).push hadmits kept

theorem spaced_replayAll (forest : List RawNode) : (start.replayAll forest).Spaced := by
  -- Where an element may stand is told from where the open elements stand, so both are kept.
  have hboth : (start.replayAll forest).Sound ∧ (start.replayAll forest).Spaced := by
    refine replayAll_invariant (I := fun t => t.Sound ∧ t.Spaced) ?_ ?_ ?_ start forest
      ⟨sound_start, spaced_start⟩
    · rintro t content ⟨hsound, hspaced⟩
      exact ⟨hsound.append_text content, hspaced.append trivial (by simp [Node.tag?])⟩
    · rintro t tag kept isEmpty ⟨hsound, hspaced⟩
      exact ⟨hsound.enter tag kept isEmpty, hspaced.enter hsound.opened tag kept isEmpty⟩
    · rintro t n ⟨hsound, hspaced⟩
      exact ⟨hsound.close n, hspaced.close n⟩
  exact hboth.2

end

end Trail

/-- Every element of a built document stands where it may among the children of its parent. -/
theorem Build.spaced_replay (forest : List RawNode) :
    SpacedBehind Document.rootTag [] (Build.replay forest).1 := by
  have hopened := Trail.opened_replayAll_start forest
  have hspaced := Trail.spaced_replayAll forest
  rw [Trail.Spaced, hopened] at hspaced
  rw [Build.replay, Trail.nodes_of_opened_eq_nil hopened]
  exact hspaced

/-! ## Built documents -/

namespace Node

mutual

theorem map_tag_places (enclosing : List Located) (position : Nat) (node : Node) :
    (node.places enclosing position).map (·.element.tag) = node.tags := by
  cases node with
  | text content => rfl
  | element tag attributes children =>
    simp only [places, tags, List.map_cons, map_tag_placesAll]

theorem map_tag_placesAll (enclosing : List Located) (position : Nat) (nodes : List Node) :
    (placesAll enclosing position nodes).map (·.element.tag) = tagsAll nodes := by
  cases nodes with
  | nil => rfl
  | cons node rest =>
    simp only [placesAll, tagsAll, List.map_append, map_tag_places, map_tag_placesAll]

end

mutual

theorem spacedBehind_of_mem_places {enclosing : List Located} {position : Nat} (node : Node)
    (h : node.Spaced) {p : Place} (hp : p ∈ node.places enclosing position) :
    SpacedBehind p.element.tag [] p.element.children := by
  cases node with
  | text content => cases hp
  | element tag attributes children =>
    rcases List.mem_cons.1 hp with rfl | hinner
    · exact h
    · exact spacedBehind_of_mem_placesAll children h hinner

/-- In every element of spaced nodes, every child stands where it may. -/
theorem spacedBehind_of_mem_placesAll {parent : String} {earlier : List Node}
    {enclosing : List Located} {position : Nat} (nodes : List Node)
    (h : SpacedBehind parent earlier nodes) {p : Place}
    (hp : p ∈ placesAll enclosing position nodes) :
    SpacedBehind p.element.tag [] p.element.children := by
  cases nodes with
  | nil => cases hp
  | cons node rest =>
    rcases h with ⟨-, hnode, hrest⟩
    rcases List.mem_append.1 hp with hfirst | hlater
    · exact spacedBehind_of_mem_places node hnode hfirst
    · exact spacedBehind_of_mem_placesAll rest hrest hlater

end

/-- A place at the top has its element among the nodes, and the elements before it have their places
before it. -/
theorem split_of_mem_topPlaces {enclosing : List Located} {position : Nat} {nodes : List Node}
    {q : Place} (hq : q ∈ topPlaces enclosing position nodes) :
    ∃ before behind, nodes = before ++ q.element.node :: behind ∧
      ∀ e : Element, e.node ∈ before →
        ∃ s ∈ topPlaces enclosing position nodes, s.position < q.position ∧ s.element = e := by
  induction nodes generalizing position with
  | nil => cases hq
  | cons node rest ih =>
    rw [topPlaces_cons] at hq ⊢
    rcases List.mem_append.1 hq with hfirst | hlater
    · cases node with
      | text content => cases hfirst
      | element tag attributes children =>
        rcases List.mem_singleton.1 hfirst with rfl
        exact ⟨[], rest, rfl, by simp⟩
    · rcases ih hlater with ⟨before, behind, rfl, hbefore⟩
      refine ⟨node :: before, behind, rfl, ?_⟩
      intro e he
      rcases List.mem_cons.1 he with rfl | he
      · -- The later place stands behind the whole first node.
        have hposition := List.mem_map_of_mem (f := Place.position)
          (mem_placesAll_of_mem_topPlaces hlater)
        rw [positions_placesAll, List.mem_range'_1] at hposition
        refine ⟨⟨position, e, enclosing⟩, List.mem_append_left _ List.mem_cons_self, ?_, rfl⟩
        have hcount : 1 ≤ e.node.elementCount := Nat.le_add_left _ _
        exact Nat.lt_of_lt_of_le (Nat.lt_add_of_pos_right hcount) hposition.1
      · rcases hbefore e he with ⟨s, hs, hrest⟩
        exact ⟨s, List.mem_append_right _ hs, hrest⟩

end Node

/-- The ancestors of a child of an element are the element and its ancestors. -/
theorem Document.ancestors_of_mem_children {d : Document} {p q : Place} (hp : p ∈ d.places)
    (hq : q ∈ p.children) : q.ancestors = p.located :: p.ancestors := by
  rcases Document.exists_parent hp with ⟨parent, hparent, -⟩
  have hne : p.enclosing ≠ [] := by
    intro hnil
    simp [Place.parent?, hnil] at hparent
  rw [Place.ancestors, Node.enclosing_of_mem_topPlaces hq, Place.scope,
    List.dropLast_cons_of_ne_nil hne]
  rfl

/-- In every built document, an item stands in an item of its group only behind a paragraph in the
same element that has an element in it which hides items but not paragraphs, and does not close
paragraphs either. A row stands in a row only outside tables, behind a caption or a group of columns
in the same row. -/
theorem items_stand_in_items_only_behind_paragraphs (source : String) (noticed : List Notice)
    (forest : List RawNode) (p q : Place)
    (hp : p ∈ (Document.ofForest source noticed forest).places) (hq : q ∈ p.children) :
    (∀ group ∈ itemGroups, p.element.tag ∈ group → q.element.tag ∈ group →
        ∃ s ∈ p.children, s.position < q.position ∧ s.element.tag = "p" ∧
          ∃ x ∈ s.descendants, HidesItems x.element.tag) ∧
      (p.element.tag = "tr" → q.element.tag = "tr" →
        "table" ∉ q.ancestors.map (·.element.tag) ∧
          ∃ s ∈ p.children, s.position < q.position ∧ s.element.tag ∈ ["caption", "colgroup"]) := by
  have hspaced : SpacedBehind p.element.tag [] p.element.children :=
    Node.spacedBehind_of_mem_placesAll _ (Build.spaced_replay forest) hp
  rcases Node.split_of_mem_topPlaces hq with ⟨before, behind, hsplit, hbefore⟩
  rw [hsplit, Node.spacedBehind_append] at hspaced
  have hmay : MayHold p.element.tag before q.element.tag := by
    simpa using hspaced.2.1 q.element.tag rfl
  constructor
  · intro group hgroup hparent hchild
    rcases hmay.item group hgroup hparent hchild with
      ⟨_, hnode, attributes, children, rfl, tag, htag, hhides⟩
    rcases hbefore ⟨"p", attributes, children⟩ hnode with ⟨s, hs, hposition, helement⟩
    have hdescendants : tag ∈ s.descendants.map (·.element.tag) := by
      rw [Place.descendants, Node.map_tag_placesAll, helement]
      exact htag
    rcases List.mem_map.1 hdescendants with ⟨x, hx, rfl⟩
    exact ⟨s, hs, hposition, by rw [helement], x, hx, hhides⟩
  · intro hparent hchild
    constructor
    · intro htable
      have hwell := (wellPlaced_of_mem_places source noticed forest q
        (Document.mem_places_of_mem_children hp hq)).2
      rcases hwell.rowScope hchild htable with ⟨a, ha, hnearest⟩
      -- The nearest boundary is the row itself, which is none of the boundaries of rows.
      have hrow : a = "tr" := by
        rw [Document.ancestors_of_mem_children hp hq, List.map_cons, Place.located, hparent]
          at hnearest
        simpa using hnearest.symm
      exact absurd ha (hrow ▸ by decide)
    · rcases hmay.row hparent hchild with ⟨node, hnode, tag, htag, hpart⟩
      cases node with
      | text content => cases htag
      | element _ attributes children =>
        cases htag
        rcases hbefore ⟨tag, attributes, children⟩ hnode with ⟨s, hs, hposition, helement⟩
        exact ⟨s, hs, hposition, by rw [helement]; exact hpart⟩

/-- The tags of all elements of a document with those of their children. -/
def Document.nestings (d : Document) : List (String × String) :=
  d.places.flatMap fun p => p.children.map fun q => (p.element.tag, q.element.tag)

theorem Document.exists_of_mem_nestings {d : Document} {parent child : String}
    (h : (parent, child) ∈ d.nestings) :
    ∃ p ∈ d.places, ∃ q ∈ p.children, p.element.tag = parent ∧ q.element.tag = child := by
  rcases List.mem_flatMap.1 h with ⟨p, hp, hmem⟩
  rcases List.mem_map.1 hmem with ⟨q, hq, heq⟩
  rcases Prod.mk.inj heq with ⟨hparent, hchild⟩
  exact ⟨p, hp, q, hq, hparent, hchild⟩

/-- Behind a paragraph with a hiding element in it, an item stands in an item. -/
theorem items_stand_in_items_only_behind_paragraphs_select :
    let forest : List RawNode := [.element "LI" [] [.element "p" [] [.element "select" []
      [.element "li" [] [.text "x"]]]]]
    ∃ p ∈ (Document.ofForest "" [] forest).places, ∃ q ∈ p.children,
      p.element.tag = "li" ∧ q.element.tag = "li" ∧
        ∃ s ∈ p.children, s.position < q.position ∧ s.element.tag = "p" ∧
          ∃ x ∈ s.descendants, HidesItems x.element.tag := by
  intro forest
  have hnested : ("li", "li") ∈ (Document.ofForest "" [] forest).nestings := by decide
  rcases Document.exists_of_mem_nestings hnested with ⟨p, hp, q, hq, hparent, hchild⟩
  have hitems := (items_stand_in_items_only_behind_paragraphs "" [] forest p q hp hq).1
  refine ⟨p, hp, q, hq, hparent, hchild, hitems ["li"] (by decide) ?_ ?_⟩
  · simp [hparent]
  · simp [hchild]

/-- Items stand in items, terms in descriptions and rows in rows where what is between hides them or
is closed in their place. -/
theorem items_and_rows_stand_in_each_other :
    ("li", "li") ∈ (Document.ofForest "" [] [.element "li" [] [.element "p" []
        [.element "noscript" [] [.element "li" [] []]]]]).nestings ∧
      ("dd", "dt") ∈ (Document.ofForest "" [] [.element "dd" [] [.element "p" []
        [.element "noscript" [] [.element "dt" [] []]]]]).nestings ∧
      ("tr", "tr") ∈ (Document.ofForest "" [] [.element "tr" [] [.element "caption" []
        [.element "tr" [] []]]]).nestings := by
  decide

end MarkupAudit
