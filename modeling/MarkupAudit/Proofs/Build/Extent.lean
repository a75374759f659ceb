import MarkupAudit.Proofs.Build.Steps

/-!
# How much a start tag closes

What a start tag closes is decided by the tags of the open elements alone. So there is a number, to
be computed from these tags, that says how many of the innermost elements are closed; the elements
that remain open have the tags behind it.

Main statements: a trail closes so many elements (`Trail.closeImplied_eq_close`), never more than
are open (`Trail.impliedExtent_le_length`); several ways of closing close nothing exactly when none
of them does (`Build.extentAll_eq_zero_iff`); what surrounds a new element is decided by the open
tags (`Trail.tags_ready`).
-/

namespace MarkupAudit

namespace Build

/-! ## What each start tag may close -/

theorem mem_itemClosings_iff {tag : String} {c : Closing} :
    c ∈ itemClosings tag ↔
      tag = "li" ∧ c = .through ["li"] listItemBoundary ∨
      (tag = "dt" ∨ tag = "dd") ∧ c = .through ["dt", "dd"] listItemBoundary := by
  unfold itemClosings
  split_ifs with hitem hdefinition
  · subst hitem
    simp
  · simp [hitem, hdefinition]
  · simp [hitem, hdefinition]

theorem mem_paragraphClosings_iff {tag : String} {c : Closing} :
    c ∈ paragraphClosings tag ↔ tag ∈ paragraphClosers ∧ c = .through ["p"] buttonScope := by
  unfold paragraphClosings
  split_ifs with hcloser
  · simpa using fun _ => by simpa using hcloser
  · simpa using fun hmem => absurd (by simpa using hmem) hcloser

theorem mem_groupClosings_iff {tag : String} {c : Closing} :
    c ∈ groupClosings tag ↔
      tag ∈ headings ∧ c = .current headings ∨
      tag = "option" ∧ c = .current ["option"] ∨
      tag = "optgroup" ∧ (c = .current ["option"] ∨ c = .current ["optgroup"]) ∨
      (tag = "td" ∨ tag = "th") ∧ c = .through ["td", "th"] cellBoundary ∨
      tag = "tr" ∧ c = .through ["tr", "caption", "colgroup"] rowBoundary ∨
      tag ∈ tableSections ∧ c = .inside "table" := by
  -- A tag that passes one test of the chain fails all others.
  have hheadings : ∀ tag ∈ headings, tag ≠ "option" ∧ tag ≠ "optgroup" ∧
      ¬ (tag = "td" ∨ tag = "th") ∧ tag ≠ "tr" ∧ tag ∉ tableSections := by decide
  have hsections : ∀ tag ∈ tableSections, tag ∉ headings ∧ tag ≠ "option" ∧ tag ≠ "optgroup" ∧
      ¬ (tag = "td" ∨ tag = "th") ∧ tag ≠ "tr" := by decide
  have hneither : ∀ tag ∈ ["option", "optgroup", "td", "th", "tr"],
      tag ∉ headings ∧ tag ∉ tableSections := by decide
  unfold groupClosings
  split_ifs with hheading hoption hoptgroup hcell hrow hsection
  · have hmem : tag ∈ headings := by simpa using hheading
    simp [hmem, hheadings tag hmem]
  · subst hoption
    simp [hneither "option" (by decide)]
  · subst hoptgroup
    simp [hneither "optgroup" (by decide)]
  · rcases hcell with rfl | rfl
    · simp [hneither "td" (by decide)]
    · simp [hneither "th" (by decide)]
  · subst hrow
    simp [hneither "tr" (by decide)]
  · have hmem : tag ∈ tableSections := by simpa using hsection
    simp [hmem, hsections tag hmem]
  · simp_all

/-- The ways of closing of every start tag. -/
theorem mem_closings_iff {tag : String} {c : Closing} :
    c ∈ closings tag ↔
      tag = "li" ∧ c = .through ["li"] listItemBoundary ∨
      (tag = "dt" ∨ tag = "dd") ∧ c = .through ["dt", "dd"] listItemBoundary ∨
      tag ∈ paragraphClosers ∧ c = .through ["p"] buttonScope ∨
      tag ∈ headings ∧ c = .current headings ∨
      tag = "option" ∧ c = .current ["option"] ∨
      tag = "optgroup" ∧ (c = .current ["option"] ∨ c = .current ["optgroup"]) ∨
      (tag = "td" ∨ tag = "th") ∧ c = .through ["td", "th"] cellBoundary ∨
      tag = "tr" ∧ c = .through ["tr", "caption", "colgroup"] rowBoundary ∨
      tag ∈ tableSections ∧ c = .inside "table" := by
  rw [closings, List.mem_append, List.mem_append, mem_itemClosings_iff, mem_paragraphClosings_iff,
    mem_groupClosings_iff, or_assoc, or_assoc]

/-! ## Counting closed elements -/

/-- How many of open elements with the tags, the innermost first, are closed. -/
def Closing.extent : Closing → List String → Nat
  | .through targets boundary, tags =>
    match tags.find? (targets ++ boundary).contains with
    | some tag =>
      if tag ∈ targets then (tags.takeWhile fun x => !(targets ++ boundary).contains x).length + 1
      else 0
    | none => 0
  | .current group, tags => if ∃ tag ∈ tags.head?, tag ∈ group then 1 else 0
  | .inside tag, tags => if tag ∈ tags then (tags.takeWhile (· != tag)).length else 0

/-- How many are closed by several ways of closing, one after another. -/
def extentAll : List Closing → List String → Nat
  | [], _ => 0
  | c :: rest, tags => c.extent tags + extentAll rest (tags.drop (c.extent tags))

/-- How many elements the start tag of an element closes. -/
def impliedExtent (tag : String) (tags : List String) : Nat :=
  extentAll (closings tag) tags

/-- The tags of what surrounds an element that is placed among open elements with the tags. -/
def surroundings (tag : String) (tags : List String) : List String :=
  let left := tags.drop (impliedExtent tag tags)
  if tag = "tr" ∧ left.head? = some "table" then "tbody" :: left else left

theorem Closing.Closes.eq_extent {c : Closing} {tags : List String} {n : Nat}
    (h : c.Closes tags n) : n = c.extent tags := by
  cases h with
  | @target targets boundary inner outer tag htag hinner =>
    have hpass : ∀ x ∈ inner, ¬ (targets ++ boundary).contains x = true := by
      intro x hx
      simpa using hinner x hx
    have hfind : (inner ++ tag :: outer).find? (targets ++ boundary).contains = some tag := by
      rw [List.find?_append, List.find?_eq_none.2 hpass]
      simp [htag]
    have hwhile : (inner ++ tag :: outer).takeWhile (fun x => !(targets ++ boundary).contains x) =
        inner := by
      rw [List.takeWhile_append_of_pos (by simpa using hinner)]
      simp [htag]
    simp only [extent, hfind, hwhile, if_pos htag]
  | @noTarget targets boundary _ hnearest =>
    cases hfind : tags.find? (targets ++ boundary).contains with
    | none => simp only [extent, hfind]
    | some x => simp only [extent, hfind, if_neg (hnearest x hfind)]
  | current htag => simp [extent, htag]
  | notCurrent hhead =>
    simp only [extent]
    rw [if_neg]
    rintro ⟨x, hx, hmem⟩
    exact hhead x hx hmem
  | @inside inner outer tag habsent =>
    have hwhile : (inner ++ tag :: outer).takeWhile (· != tag) = inner := by
      rw [List.takeWhile_append_of_pos]
      · simp
      · intro x hx
        simpa using fun heq : x = tag => habsent (heq ▸ hx)
    simp [extent, hwhile]
  | notInside habsent => simp [extent, habsent]

theorem Closing.Closes.le_length {c : Closing} {tags : List String} {n : Nat}
    (h : c.Closes tags n) : n ≤ tags.length := by
  cases h <;> simp

theorem extentAll_eq_zero_iff {cs : List Closing} {tags : List String} :
    extentAll cs tags = 0 ↔ ∀ c ∈ cs, c.extent tags = 0 := by
  induction cs with
  | nil => simp [extentAll]
  | cons c rest ih =>
    simp only [extentAll, Nat.add_eq_zero_iff, List.forall_mem_cons]
    constructor
    · rintro ⟨hfirst, hrest⟩
      exact ⟨hfirst, ih.1 (by simpa only [hfirst, List.drop_zero] using hrest)⟩
    · rintro ⟨hfirst, hrest⟩
      exact ⟨hfirst, by simpa only [hfirst, List.drop_zero] using ih.2 hrest⟩

end Build

open Build

/-! ## Trails close so many elements -/

namespace Trail

theorem apply_eq_close (t : Trail) (c : Closing) :
    t.apply c = close (c.extent t.tags) t ∧ c.extent t.tags ≤ t.tags.length := by
  rcases apply_closes t c with ⟨n, hcloses, happly⟩
  have hn : n = c.extent t.tags := hcloses.eq_extent
  exact ⟨hn ▸ happly, hn ▸ hcloses.le_length⟩

theorem foldl_apply_eq_close (cs : List Closing) (t : Trail) :
    cs.foldl apply t = close (extentAll cs t.tags) t ∧ extentAll cs t.tags ≤ t.tags.length := by
  induction cs generalizing t with
  | nil => exact ⟨rfl, Nat.zero_le _⟩
  | cons c rest ih =>
    rcases apply_eq_close t c with ⟨happly, hfirst⟩
    rcases ih (t.apply c) with ⟨hfold, hrest⟩
    have htags : (t.apply c).tags = t.tags.drop (c.extent t.tags) := by
      rw [happly, tags_close]
    rw [htags] at hfold hrest
    constructor
    · rw [List.foldl_cons, hfold, happly, close_close, extentAll]
    · rw [List.length_drop] at hrest
      rw [extentAll]
      omega

theorem closeImplied_eq_close (t : Trail) (tag : String) :
    t.closeImplied tag = close (impliedExtent tag t.tags) t :=
  (foldl_apply_eq_close (closings tag) t).1

theorem impliedExtent_le_length (t : Trail) (tag : String) :
    impliedExtent tag t.tags ≤ t.tags.length :=
  (foldl_apply_eq_close (closings tag) t).2

theorem tags_closeImplied (t : Trail) (tag : String) :
    (t.closeImplied tag).tags = t.tags.drop (impliedExtent tag t.tags) := by
  rw [closeImplied_eq_close, tags_close]

theorem lacksBody_iff {t : Trail} {tag : String} :
    t.LacksBody tag ↔
      tag = "tr" ∧ (t.tags.drop (impliedExtent tag t.tags)).head? = some "table" := by
  rw [LacksBody, currentTag?_eq, tags_closeImplied]

/-- A start tag that closes nothing and lacks no table body leaves the trail as it is. -/
theorem ready_eq_self {t : Trail} {tag : String} (hextent : impliedExtent tag t.tags = 0)
    (hrow : ¬ (tag = "tr" ∧ t.tags.head? = some "table")) : t.ready tag = t := by
  have hlacks : ¬ t.LacksBody tag := by
    rw [lacksBody_iff, hextent, List.drop_zero]
    exact hrow
  rw [ready_of_not_lacksBody hlacks, closeImplied_eq_close, hextent, close]

theorem tags_ready (t : Trail) (tag : String) :
    (t.ready tag).tags = surroundings tag t.tags := by
  by_cases hlacks : t.LacksBody tag
  · rw [ready_of_lacksBody hlacks, surroundings, if_pos (lacksBody_iff.1 hlacks),
      ← tags_closeImplied]
    rfl
  · rw [ready_of_not_lacksBody hlacks, surroundings, if_neg (mt lacksBody_iff.2 hlacks),
      tags_closeImplied]

end Trail

end MarkupAudit
