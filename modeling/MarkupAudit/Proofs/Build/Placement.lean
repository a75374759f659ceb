import MarkupAudit.Document.Query
import MarkupAudit.Proofs.Build.Steps

/-!
# Where elements stand in a built document

Start tags close what must not hold their elements, so every element of a built document is well
placed among its ancestors. Each condition holds because the elements that remain open satisfy it
already: closing through one of them uncovers what was around it.

Main statement: `wellPlaced_of_mem_places`.
-/

namespace MarkupAudit

open Build Markup Outline

/-! ## Well placed elements -/

/-- Where an element with the tag may stand; the tags of its ancestors are given from the nearest
outwards. -/
structure Build.WellPlaced (tag : String) (ancestors : List String) : Prop where
  paragraph : tag ∈ paragraphClosers →
    ∀ a, ancestors.find? (["p"] ++ buttonScope).contains = some a → a ∉ ["p"]
  heading : tag ∈ headings → ∀ parent, ancestors.head? = some parent → parent ∉ headings
  option : tag = "option" → ancestors.head? ≠ some "option"
  optgroup : tag = "optgroup" →
    ancestors.head? ≠ some "option" ∧ ancestors.head? ≠ some "optgroup"
  cell : tag = "td" ∨ tag = "th" →
    ∀ a, ancestors.find? (["td", "th"] ++ cellBoundary).contains = some a → a ∉ ["td", "th"]
  tablePart : tag ∈ tableSections → ancestors.head? = some "table" ∨ "table" ∉ ancestors
  rowParent : tag = "tr" → ancestors.head? ≠ some "table"
  rowScope : tag = "tr" → "table" ∈ ancestors →
    ∃ a ∈ rowBoundary,
      ancestors.find? (["tr", "caption", "colgroup"] ++ rowBoundary).contains = some a

/-- Every one of the open elements is well placed inside those further out. -/
def Build.AllPlaced (tags : List String) : Prop :=
  ∀ tag outer, tag :: outer <:+ tags → WellPlaced tag outer

theorem Build.AllPlaced.drop {tags : List String} (h : AllPlaced tags) (n : Nat) :
    AllPlaced (tags.drop n) := by
  intro tag outer hsuffix
  exact h tag outer (hsuffix.trans (List.drop_suffix n tags))

theorem Build.AllPlaced.head {tag : String} {outer : List String} (h : AllPlaced (tag :: outer)) :
    WellPlaced tag outer :=
  h tag outer (List.suffix_refl _)

theorem Build.AllPlaced.cons {tag : String} {tags : List String} (h : AllPlaced tags)
    (hplaced : WellPlaced tag tags) : AllPlaced (tag :: tags) := by
  intro x outer hsuffix
  rcases List.suffix_cons_iff.1 hsuffix with heq | hsuffix
  · cases heq
    exact hplaced
  · exact h x outer hsuffix

/-! ## What remains open after closing -/

namespace Trail

theorem tags_apply (t : Trail) (c : Closing) :
    ∃ n, c.Closes t.tags n ∧ (t.apply c).tags = t.tags.drop n := by
  rcases apply_closes t c with ⟨n, hcloses, happly⟩
  exact ⟨n, hcloses, by simp [happly]⟩

theorem allPlaced_apply {t : Trail} (h : AllPlaced t.tags) (c : Closing) :
    AllPlaced (t.apply c).tags := by
  rcases tags_apply t c with ⟨n, -, htags⟩
  simpa only [htags] using h.drop n

theorem allPlaced_foldl_apply {t : Trail} (h : AllPlaced t.tags) (cs : List Closing) :
    AllPlaced (cs.foldl apply t).tags := by
  induction cs generalizing t with
  | nil => exact h
  | cons c rest ih => exact ih (allPlaced_apply h c)

section

variable {t : Trail}

/-- When the targets are not nested in each other, closing through the nearest one uncovers no
other. -/
theorem nearest_apply {targets boundary : List String}
    (h : ∀ tag outer, tag :: outer <:+ t.tags → tag ∈ targets →
      ∀ a, outer.find? (targets ++ boundary).contains = some a → a ∉ targets) :
    ∀ a, (t.apply (.through targets boundary)).tags.find? (targets ++ boundary).contains = some a →
      a ∉ targets := by
  rcases tags_apply t (.through targets boundary) with ⟨n, hcloses, htags⟩
  rw [htags]
  generalize t.tags = tags at h hcloses
  cases hcloses with
  | @target _ _ inner outer tag htag _ =>
    have hdrop : (inner ++ tag :: outer).drop (inner.length + 1) = outer := by simp
    simpa only [hdrop] using h tag outer (List.suffix_append _ _) htag
  | noTarget hnearest => exact hnearest

/-- When the group is not nested in itself, closing one of it uncovers no other. -/
theorem parent_apply {group : List String} (others : List String)
    (h : ∀ tag outer, t.tags = tag :: outer → tag ∈ group →
      ∀ a, outer.head? = some a → a ∉ group ++ others)
    (hothers : ∀ a, t.tags.head? = some a → a ∉ others) :
    ∀ a, (t.apply (.current group)).tags.head? = some a → a ∉ group ++ others := by
  rcases tags_apply t (.current group) with ⟨n, hcloses, htags⟩
  rw [htags]
  generalize t.tags = tags at h hothers hcloses
  cases hcloses with
  | @current _ outer tag htag => exact h tag outer rfl htag
  | notCurrent hgroup =>
    intro a ha
    have hboth : a ∉ group ∧ a ∉ others := ⟨hgroup a ha, hothers a ha⟩
    simpa using hboth

end

/-! ## What surrounds an element that is to be placed -/

section

variable {t : Trail} {tag : String}

theorem ready_eq_foldl (htag : tag ≠ "tr") : t.ready tag = (closings tag).foldl apply t :=
  ready_of_not_lacksBody fun hlacks => htag hlacks.1

/-- Closing through a paragraph leaves none in button scope. -/
theorem paragraph_apply (h : AllPlaced t.tags) :
    ∀ a, (t.apply (.through ["p"] buttonScope)).tags.find? (["p"] ++ buttonScope).contains =
      some a → a ∉ ["p"] := by
  refine nearest_apply ?_
  intro x outer hsuffix hx
  have heq : x = "p" := by simpa using hx
  exact (h x outer hsuffix).paragraph (heq ▸ by decide)

/-- Closing a heading too uncovers no paragraph, for the search for one passes headings. -/
theorem paragraph_apply_heading
    (h : ∀ a, t.tags.find? (["p"] ++ buttonScope).contains = some a → a ∉ ["p"]) :
    ∀ a, (t.apply (.current headings)).tags.find? (["p"] ++ buttonScope).contains = some a →
      a ∉ ["p"] := by
  rcases tags_apply t (.current headings) with ⟨n, hcloses, htags⟩
  rw [htags]
  generalize t.tags = tags at h hcloses
  cases hcloses with
  | @current _ outer x hx =>
    have hpass : ∀ x ∈ headings, (["p"] ++ buttonScope).contains x = false := by decide
    intro a ha
    have hfind : (x :: outer).find? (["p"] ++ buttonScope).contains =
        outer.find? (["p"] ++ buttonScope).contains := by
      simp only [List.find?_cons, hpass x hx]
    exact h a (hfind.trans ha)
  | notCurrent _ => exact h

theorem paragraph_ready (h : AllPlaced t.tags) (hcloser : tag ∈ paragraphClosers) :
    ∀ a, (t.ready tag).tags.find? (["p"] ++ buttonScope).contains = some a → a ∉ ["p"] := by
  have hrow : ∀ tag ∈ paragraphClosers, tag ≠ "tr" := by decide
  have hparagraph : ∀ tag ∈ paragraphClosers,
      paragraphClosings tag = [.through ["p"] buttonScope] := by decide
  have hgroup : ∀ tag ∈ paragraphClosers,
      groupClosings tag = [] ∨ groupClosings tag = [.current headings] := by decide
  -- The paragraph is closed between the list item and the heading.
  have hitem := paragraph_apply (allPlaced_foldl_apply h (itemClosings tag))
  have hready : t.ready tag = (groupClosings tag).foldl apply
      (((itemClosings tag).foldl apply t).apply (.through ["p"] buttonScope)) := by
    simp [ready_eq_foldl (hrow tag hcloser), closings, hparagraph tag hcloser]
  rw [hready]
  rcases hgroup tag hcloser with hnone | hheading
  · simpa only [hnone, List.foldl_nil] using hitem
  · simpa only [hheading, List.foldl_cons, List.foldl_nil] using paragraph_apply_heading hitem

theorem heading_ready (h : AllPlaced t.tags) (hheading : tag ∈ headings) :
    ∀ parent, (t.ready tag).tags.head? = some parent → parent ∉ headings := by
  have hrow : ∀ tag ∈ headings, tag ≠ "tr" := by decide
  have hclosings : ∀ tag ∈ headings,
      closings tag = [.through ["p"] buttonScope, .current headings] := by decide
  have hready : t.ready tag = (t.apply (.through ["p"] buttonScope)).apply (.current headings) := by
    simp [ready_eq_foldl (hrow tag hheading), hclosings tag hheading]
  have hplaced := allPlaced_apply h (.through ["p"] buttonScope)
  have hparent : ∀ x outer, (t.apply (.through ["p"] buttonScope)).tags = x :: outer →
      x ∈ headings → ∀ a, outer.head? = some a → a ∉ headings ++ [] := by
    intro x outer htags hx a ha
    have hx' : WellPlaced x outer := (htags ▸ hplaced).head
    simpa using hx'.heading hx a ha
  rw [hready]
  intro parent hhead
  simpa using parent_apply [] hparent (by simp) parent hhead

theorem option_apply (h : AllPlaced t.tags) :
    ∀ a, (t.apply (.current ["option"])).tags.head? = some a → a ∉ ["option"] := by
  refine parent_apply [] ?_ (by simp)
  intro x outer htags hx a ha hmem
  have hx' : x = "option" := by simpa using hx
  have ha' : a = "option" := by simpa using hmem
  have hplaced : WellPlaced x outer := (htags ▸ h).head
  exact hplaced.option hx' (ha' ▸ ha)

theorem option_ready (h : AllPlaced t.tags) : (t.ready "option").tags.head? ≠ some "option" := by
  have hclosings : closings "option" = [.current ["option"]] := by decide
  have hready : t.ready "option" = t.apply (.current ["option"]) := by
    simp [ready_eq_foldl, hclosings]
  intro hhead
  exact option_apply h "option" (hready ▸ hhead) (by simp)

theorem optgroup_ready (h : AllPlaced t.tags) :
    ∀ a, (t.ready "optgroup").tags.head? = some a → a ∉ ["optgroup"] ++ ["option"] := by
  have hclosings : closings "optgroup" = [.current ["option"], .current ["optgroup"]] := by decide
  have hready : t.ready "optgroup" =
      (t.apply (.current ["option"])).apply (.current ["optgroup"]) := by
    simp [ready_eq_foldl, hclosings]
  have hplaced := allPlaced_apply h (.current ["option"])
  rw [hready]
  refine parent_apply ["option"] ?_ (option_apply h)
  intro x outer htags hx a ha hmem
  have hx' : x = "optgroup" := by simpa using hx
  have hparent : WellPlaced x outer := (htags ▸ hplaced).head
  have ha' : a = "optgroup" ∨ a = "option" := by simpa using hmem
  rcases ha' with rfl | rfl
  · exact (hparent.optgroup hx').2 ha
  · exact (hparent.optgroup hx').1 ha

theorem cell_ready (h : AllPlaced t.tags) (hcell : tag = "td" ∨ tag = "th") :
    ∀ a, (t.ready tag).tags.find? (["td", "th"] ++ cellBoundary).contains = some a →
      a ∉ ["td", "th"] := by
  have hrow : tag ≠ "tr" := by
    rcases hcell with rfl | rfl <;> decide
  have hclosings : closings tag = [.through ["td", "th"] cellBoundary] := by
    rcases hcell with rfl | rfl <;> decide
  have hready : t.ready tag = t.apply (.through ["td", "th"] cellBoundary) := by
    simp [ready_eq_foldl hrow, hclosings]
  rw [hready]
  refine nearest_apply ?_
  intro x outer hsuffix hx
  exact (h x outer hsuffix).cell (by simpa using hx)

theorem tablePart_ready (hpart : tag ∈ tableSections) :
    (t.ready tag).tags.head? = some "table" ∨ "table" ∉ (t.ready tag).tags := by
  have hrow : ∀ tag ∈ tableSections, tag ≠ "tr" := by decide
  have hclosings : ∀ tag ∈ tableSections, closings tag = [.inside "table"] := by decide
  have hready : t.ready tag = t.apply (.inside "table") := by
    simp [ready_eq_foldl (hrow tag hpart), hclosings tag hpart]
  rcases tags_apply t (.inside "table") with ⟨n, hcloses, htags⟩
  rw [hready, htags]
  generalize t.tags = tags at hcloses
  cases hcloses with
  | inside _ =>
    left
    simp
  | notInside habsent =>
    right
    exact habsent

/-- What a row needs around it, apart from a table body. -/
theorem rowScope_closeImplied (h : AllPlaced t.tags)
    (htable : "table" ∈ (t.closeImplied "tr").tags) :
    ∃ a ∈ rowBoundary, (t.closeImplied "tr").tags.find?
      (["tr", "caption", "colgroup"] ++ rowBoundary).contains = some a := by
  have hclosings : closings "tr" = [.through ["tr", "caption", "colgroup"] rowBoundary] := by decide
  have hparts : ∀ x ∈ ["caption", "colgroup"], x ∈ tableSections := by decide
  have hclose : t.closeImplied "tr" =
      t.apply (.through ["tr", "caption", "colgroup"] rowBoundary) := by
    simp [closeImplied, hclosings]
  rcases tags_apply t (.through ["tr", "caption", "colgroup"] rowBoundary) with ⟨n, hcloses, htags⟩
  rw [hclose, htags] at htable ⊢
  generalize t.tags = tags at h hcloses htable ⊢
  cases hcloses with
  | @target _ _ inner outer x hx _ =>
    have hdrop : (inner ++ x :: outer).drop (inner.length + 1) = outer := by simp
    rw [hdrop] at htable ⊢
    have hplaced : WellPlaced x outer := h x outer (List.suffix_append _ _)
    have hcases : x = "tr" ∨ x ∈ ["caption", "colgroup"] := by simpa using hx
    rcases hcases with htr | hpart
    · exact hplaced.rowScope htr htable
    · -- A caption or a group of columns stands in the table itself.
      rcases hplaced.tablePart (hparts x hpart) with hparent | hnone
      · rcases List.head?_eq_some_iff.1 hparent with ⟨rest, rfl⟩
        exact ⟨"table", by decide, rfl⟩
      · exact absurd htable hnone
  | noTarget hnearest =>
    have hsome : (tags.find?
        (["tr", "caption", "colgroup"] ++ rowBoundary).contains).isSome :=
      List.find?_isSome.2 ⟨"table", htable, by decide⟩
    rcases Option.isSome_iff_exists.1 hsome with ⟨a, ha⟩
    have hcases : a ∈ ["tr", "caption", "colgroup"] ∨ a ∈ rowBoundary :=
      List.mem_append.1 (by simpa using List.find?_some ha)
    exact ⟨a, hcases.resolve_left (hnearest a ha), ha⟩

theorem row_ready (h : AllPlaced t.tags) :
    (t.ready "tr").tags.head? ≠ some "table" ∧
      ("table" ∈ (t.ready "tr").tags → ∃ a ∈ rowBoundary, (t.ready "tr").tags.find?
        (["tr", "caption", "colgroup"] ++ rowBoundary).contains = some a) := by
  by_cases hlacks : t.LacksBody "tr"
  · have htags : (t.ready "tr").tags = "tbody" :: (t.closeImplied "tr").tags := by
      simp [ready_of_lacksBody hlacks, tags, frames_openBody]
    rw [htags]
    exact ⟨by simp, fun _ => ⟨"tbody", by decide, rfl⟩⟩
  · rw [ready_of_not_lacksBody hlacks]
    refine ⟨?_, rowScope_closeImplied h⟩
    intro hparent
    exact hlacks ⟨rfl, (currentTag?_eq _).trans hparent⟩

/-- After closing, an element is well placed where it is put. -/
theorem wellPlaced_ready (h : AllPlaced t.tags) : WellPlaced tag (t.ready tag).tags where
  paragraph := paragraph_ready h
  heading := heading_ready h
  option := by
    rintro rfl
    exact option_ready h
  optgroup := by
    rintro rfl
    have hparent := optgroup_ready h
    exact ⟨fun hhead => hparent _ hhead (by simp), fun hhead => hparent _ hhead (by simp)⟩
  cell := cell_ready h
  tablePart := tablePart_ready
  rowParent := by
    rintro rfl
    exact (row_ready h).1
  rowScope := by
    rintro rfl
    exact (row_ready h).2

end

/-! ## Trails with well placed elements -/

/-- Everything in the outline is well placed, and so is what is open; void elements are not open. -/
structure Sound (t : Trail) : Prop where
  opened : AllPlaced t.tags
  notVoid : ∀ tag ∈ t.tags, Element.isVoidTag tag = false
  placed : ∀ e ∈ t.outline, ∀ tag, e.content.tag? = some tag →
    WellPlaced tag (e.ancestors.map (·.tag))
  parents : ∀ e ∈ t.outline, ∀ m ∈ e.ancestors, Element.isVoidTag m.tag = false

theorem map_tag_marks (t : Trail) : t.marks.map (·.tag) = t.tags := by
  simp [marks, tags]

theorem sound_start : start.Sound where
  opened := by
    intro tag outer hsuffix
    simp [tags] at hsuffix
  notVoid := by simp [tags]
  placed := by simp
  parents := by simp

section

variable {t t' : Trail}

theorem Sound.close (h : t.Sound) (n : Nat) : (close n t).Sound where
  opened := by simpa only [tags_close] using h.opened.drop n
  notVoid := by
    intro tag htag
    rw [tags_close] at htag
    exact h.notVoid tag (List.mem_of_mem_drop htag)
  placed := by simpa only [outline_close] using h.placed
  parents := by simpa only [outline_close] using h.parents

/-- One more entry among the open elements, which itself may be opened. -/
theorem Sound.extend (h : t.Sound) {position : Nat} {content : Content}
    (houtline : t'.outline = t.outline ++ [⟨position, content, t.marks⟩])
    (hplaced : ∀ tag, content.tag? = some tag → WellPlaced tag t.tags)
    (htags : t'.tags = t.tags ∨ ∃ tag, t'.tags = tag :: t.tags ∧ content.tag? = some tag ∧
      Element.isVoidTag tag = false) : t'.Sound where
  opened := by
    rcases htags with hsame | ⟨tag, hcons, htag, -⟩
    · simpa only [hsame] using h.opened
    · simpa only [hcons] using h.opened.cons (hplaced tag htag)
  notVoid := by
    intro x hx
    rcases htags with hsame | ⟨tag, hcons, -, hvoid⟩
    · exact h.notVoid x (hsame ▸ hx)
    · rcases List.mem_cons.1 (hcons ▸ hx) with rfl | hx
      · exact hvoid
      · exact h.notVoid x hx
  placed := by
    rw [houtline]
    intro e he tag htag
    rcases List.mem_append.1 he with hold | hnew
    · exact h.placed e hold tag htag
    · have heq := List.mem_singleton.1 hnew
      subst heq
      simpa only [map_tag_marks] using hplaced tag htag
  parents := by
    rw [houtline]
    intro e he m hm
    rcases List.mem_append.1 he with hold | hnew
    · exact h.parents e hold m hm
    · have heq := List.mem_singleton.1 hnew
      subst heq
      have hmem : m.tag ∈ t.tags := map_tag_marks t ▸ List.mem_map_of_mem hm
      exact h.notVoid m.tag hmem

theorem Sound.append_text (h : t.Sound) (content : String) : (t.append (.text content)).Sound := by
  refine h.extend (outline_append t _) ?_ (.inl (tags_append t _))
  simp [Content.tag?]

/-- A table body is well placed in a table. -/
theorem wellPlaced_body {tags : List String} (hparent : tags.head? = some "table") :
    WellPlaced "tbody" tags where
  paragraph h := absurd h (by decide)
  heading h := absurd h (by decide)
  option h := absurd h (by decide)
  optgroup h := absurd h (by decide)
  cell h := absurd h (by decide)
  tablePart _ := .inl hparent
  rowParent h := absurd h (by decide)
  rowScope h := absurd h (by decide)

theorem Sound.closeImplied (h : t.Sound) (tag : String) : (t.closeImplied tag).Sound := by
  rcases closeImplied_spares_tables t tag with ⟨n, hclose, -⟩
  simpa only [hclose] using h.close n

theorem Sound.ready (h : t.Sound) (tag : String) : (t.ready tag).Sound := by
  have hclosed := h.closeImplied tag
  by_cases hlacks : t.LacksBody tag
  · have hparent : (t.closeImplied tag).tags.head? = some "table" :=
      (currentTag?_eq _).symm.trans hlacks.2
    rw [ready_of_lacksBody hlacks]
    refine hclosed.extend (outline_openBody _) ?_ (.inr ⟨"tbody", rfl, rfl, by decide⟩)
    rintro _ ⟨rfl⟩
    exact wellPlaced_body hparent
  · simpa only [ready_of_not_lacksBody hlacks] using hclosed

theorem Sound.enter (h : t.Sound) (tag : String) (kept : Attributes) (isEmpty : Bool) :
    (t.enter tag kept isEmpty).Sound := by
  refine (h.ready tag).extend (outline_enter t tag kept isEmpty) ?_ ?_
  · rintro _ ⟨rfl⟩
    exact wellPlaced_ready h.opened
  · by_cases hvoid : Element.isVoidTag tag = true
    · left
      simp only [tags, frames_enter_of_void t kept isEmpty hvoid]
    · right
      rw [enter_of_not_void t kept isEmpty hvoid]
      exact ⟨tag, rfl, rfl, by simpa using hvoid⟩

end

theorem Sound.replay {t : Trail} (h : t.Sound) (node : RawNode) : (t.replay node).Sound :=
  replay_invariant (fun _ content h => h.append_text content)
    (fun _ tag kept isEmpty h => h.enter tag kept isEmpty) (fun _ n h => h.close n) t node h

theorem Sound.replayAll {t : Trail} (h : t.Sound) (forest : List RawNode) :
    (t.replayAll forest).Sound :=
  replayAll_invariant (fun _ content h => h.append_text content)
    (fun _ tag kept isEmpty h => h.enter tag kept isEmpty) (fun _ n h => h.close n) t forest h

theorem sound_replayAll (forest : List RawNode) : (start.replayAll forest).Sound :=
  sound_start.replayAll forest

end Trail

/-! ## Built documents -/

theorem Build.shows_outline {source : String} {noticed : List Notice} {forest : List RawNode}
    {p : Place} (hp : p ∈ (Document.ofForest source noticed forest).places) :
    Shows (Trail.start.replayAll forest).outline p := by
  have hshows : Shows (Node.outlineAll [] 0 (replay forest).1) p :=
    Node.shows_of_mem_placesAll (by simp [Document.rootPlace, Place.scope])
      (by simp [Document.rootPlace, Place.scope]) _ hp
  have houtline : Node.outlineAll [] 0 (replay forest).1 = (Trail.start.replayAll forest).outline :=
    Trail.outlineAll_nodes _
  exact houtline ▸ hshows

/-- In every built document, a void element has no children, and every element is well placed among
its ancestors. -/
theorem wellPlaced_of_mem_places (source : String) (noticed : List Notice) (forest : List RawNode)
    (p : Place) (hp : p ∈ (Document.ofForest source noticed forest).places) :
    (p.element.isVoid = true → p.element.children = []) ∧
      WellPlaced p.element.tag (p.ancestors.map (·.element.tag)) := by
  have hsound := Trail.sound_replayAll forest
  have hshows := Build.shows_outline hp
  constructor
  · intro hvoid
    by_cases hchildren : p.element.children = []
    · exact hchildren
    · -- A child would stand inside a void element.
      rcases hshows.children hchildren with ⟨e, he, m, hm, htag⟩
      have hnot : Element.isVoidTag p.element.tag = false := htag ▸ hsound.parents e he m hm
      simp [Element.isVoid, hnot] at hvoid
  · rcases hshows.entry with ⟨e, he, htag, hancestors⟩
    simpa only [hancestors] using hsound.placed e he _ htag

/-- A cell that a row was written in is closed by it, and what the row holds is well placed. -/
theorem wellPlaced_inner_cell :
    let forest : List RawNode := [.element "TABLE" [] [.element "tr" [] [.element "td" []
      [.element "Tr" [] [.element "td" [] [.element "p" [] []]]]]]]
    ∃ p ∈ (Document.ofForest "" [] forest).places,
      p.element.tag = "p" ∧ WellPlaced "p" ["td", "tr", "tbody", "table"] := by
  intro forest
  have hshown : ("p", ["td", "tr", "tbody", "table"]) ∈ (Document.ofForest "" [] forest).places.map
      fun p => (p.element.tag, p.ancestors.map (·.element.tag)) := by decide
  rcases List.mem_map.1 hshown with ⟨p, hp, heq⟩
  rcases Prod.mk.inj heq with ⟨htag, hancestors⟩
  have hplaced := (wellPlaced_of_mem_places "" [] forest p hp).2
  rw [htag, hancestors] at hplaced
  exact ⟨p, hp, htag, hplaced⟩

end MarkupAudit
