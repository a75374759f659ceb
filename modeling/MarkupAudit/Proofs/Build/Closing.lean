import MarkupAudit.Proofs.Build.Frames
import Mathlib.Tactic.SplitIfs

/-!
# What a start tag closes

Each way of closing is described by the number of open elements that it closes, given their tags.
Everything that is proved about closing starts from this description.

Main statements: a trail closes as described (`Trail.apply_closes`); no start tag closes a table
(`Trail.closeImplied_spares_tables`).
-/

namespace MarkupAudit

namespace Build.Closing

/-- `c.Closes tags n`: of open elements with the tags, the innermost first, `c` closes the first
`n`. -/
inductive Closes : Closing → List String → Nat → Prop where
  | target {targets boundary inner outer : List String} {tag : String} :
      tag ∈ targets → (∀ x ∈ inner, x ∉ targets ++ boundary) →
        Closes (.through targets boundary) (inner ++ tag :: outer) (inner.length + 1)
  | noTarget {targets boundary tags : List String} :
      (∀ x, tags.find? (targets ++ boundary).contains = some x → x ∉ targets) →
        Closes (.through targets boundary) tags 0
  | current {group outer : List String} {tag : String} :
      tag ∈ group → Closes (.current group) (tag :: outer) 1
  | notCurrent {group tags : List String} :
      (∀ x, tags.head? = some x → x ∉ group) → Closes (.current group) tags 0
  | inside {inner outer : List String} {tag : String} :
      tag ∉ inner → Closes (.inside tag) (inner ++ tag :: outer) inner.length
  | notInside {tags : List String} {tag : String} :
      tag ∉ tags → Closes (.inside tag) tags 0

/-- A way of closing that never closes a table. -/
def SparesTables : Closing → Prop
  | .through targets boundary => "table" ∉ targets ∧ "table" ∈ boundary
  | .current group => "table" ∉ group
  | .inside tag => tag = "table"

instance : (c : Closing) → Decidable c.SparesTables
  | .through targets boundary =>
    inferInstanceAs (Decidable ("table" ∉ targets ∧ "table" ∈ boundary))
  | .current group => inferInstanceAs (Decidable ("table" ∉ group))
  | .inside tag => inferInstanceAs (Decidable (tag = "table"))

theorem Closes.spares_tables {c : Closing} {tags : List String} {n : Nat} (h : c.Closes tags n)
    (hc : c.SparesTables) : "table" ∉ tags.take n := by
  cases h with
  | @target targets boundary inner outer tag htag hinner =>
    have htake : (inner ++ tag :: outer).take (inner.length + 1) = inner ++ [tag] := by
      simp [List.take_length_add_append]
    intro hmem
    have hcases : "table" ∈ inner ∨ "table" = tag := by
      simpa [htake] using hmem
    rcases hcases with hin | rfl
    · -- The search stops at tables, so none of the elements inside the target is one.
      exact hinner _ hin (List.mem_append_right _ hc.2)
    · exact hc.1 htag
  | noTarget hfind => simp
  | @current group outer tag htag =>
    intro hmem
    have heq : "table" = tag := by simpa using hmem
    exact hc (heq ▸ htag)
  | notCurrent hhead => simp
  | inside htag =>
    cases hc
    simpa using htag
  | notInside htag => simp

theorem spares_tables_of_mem_closings {tag : String} {c : Closing} (hc : c ∈ closings tag) :
    c.SparesTables := by
  have hitem : ∀ c ∈ itemClosings tag, c.SparesTables := by
    unfold itemClosings
    split_ifs <;> decide
  have hparagraph : ∀ c ∈ paragraphClosings tag, c.SparesTables := by
    unfold paragraphClosings
    split_ifs <;> decide
  have hgroup : ∀ c ∈ groupClosings tag, c.SparesTables := by
    unfold groupClosings
    split_ifs <;> decide
  rcases List.mem_append.1 hc with hleft | hright
  · rcases List.mem_append.1 hleft with hleft | hmid
    · exact hitem c hleft
    · exact hparagraph c hmid
  · exact hgroup c hright

end Build.Closing

open Build Outline

namespace Trail

/-! ## Trails close as described -/

theorem depth?_eq_some {targets boundary : List String} {opened : List OpenElement} {depth : Nat}
    (h : depth? targets boundary opened = some depth) :
    ∃ inner tag outer, opened.map (·.tag) = inner ++ tag :: outer ∧ inner.length = depth ∧
      tag ∈ targets ∧ ∀ x ∈ inner, x ∉ targets ++ boundary := by
  induction opened generalizing depth with
  | nil => simp [depth?] at h
  | cons e outer ih =>
    unfold depth? at h
    split_ifs at h with htarget hboundary
    · cases h
      exact ⟨[], e.tag, outer.map (·.tag), rfl, rfl, by simpa using htarget, by simp⟩
    · rcases Option.map_eq_some_iff.1 h with ⟨d, hd, rfl⟩
      rcases ih hd with ⟨inner, tag, rest, hsplit, hlength, htag, hinner⟩
      have he : e.tag ∉ targets ++ boundary := by
        simpa using And.intro htarget hboundary
      refine ⟨e.tag :: inner, tag, rest, by simp [hsplit], by simp [hlength], htag, ?_⟩
      intro x hx
      rcases List.mem_cons.1 hx with rfl | hx
      · exact he
      · exact hinner x hx

theorem depth?_eq_none {targets boundary : List String} {opened : List OpenElement}
    (h : depth? targets boundary opened = none) :
    ∀ x, (opened.map (·.tag)).find? (targets ++ boundary).contains = some x → x ∉ targets := by
  induction opened with
  | nil => simp
  | cons e outer ih =>
    intro x hx
    unfold depth? at h
    split_ifs at h with htarget hboundary
    · -- The boundary is met first, so it is what the search finds.
      have heq : e.tag = x := by
        simpa [List.find?_cons, show e.tag ∈ boundary by simpa using hboundary] using hx
      simpa [heq] using htarget
    · have hpass : ¬ (e.tag ∈ targets ∨ e.tag ∈ boundary) := by
        simpa using And.intro htarget hboundary
      have houter : (outer.map (·.tag)).find? (targets ++ boundary).contains = some x := by
        simpa [List.find?_cons, hpass] using hx
      exact ih (by simpa using h) x houter

/-- What one way of closing does to a trail. -/
theorem apply_closes (t : Trail) (c : Closing) :
    ∃ n, c.Closes t.tags n ∧ t.apply c = close n t := by
  rw [tags_eq]
  cases c with
  | through targets boundary =>
    cases h : depth? targets boundary t.opened with
    | none => exact ⟨0, .noTarget (depth?_eq_none h), by simp [apply, h, close]⟩
    | some depth =>
      rcases depth?_eq_some h with ⟨inner, tag, outer, hsplit, rfl, htag, hinner⟩
      have hcloses : (Closing.through targets boundary).Closes (t.opened.map (·.tag))
          (inner.length + 1) := by
        simpa only [hsplit] using Closing.Closes.target htag hinner
      exact ⟨inner.length + 1, hcloses, by simp [apply, h]⟩
  | current group =>
    cases h : t.opened with
    | nil => exact ⟨0, .notCurrent (by simp), by simp [apply, currentTag?, h, close]⟩
    | cons e outer =>
      by_cases htag : e.tag ∈ group
      · exact ⟨1, .current htag, by simp [apply, currentTag?, h, htag, close]⟩
      · exact ⟨0, .notCurrent (by simpa using htag), by simp [apply, currentTag?, h, htag, close]⟩
  | inside tag =>
    cases h : depth? [tag] [] t.opened with
    | none =>
      have habsent : tag ∉ t.opened.map (·.tag) := by
        intro hmem
        have hsome : ((t.opened.map (·.tag)).find? ([tag] ++ []).contains).isSome :=
          List.find?_isSome.2 ⟨tag, hmem, by simp⟩
        rcases Option.isSome_iff_exists.1 hsome with ⟨x, hx⟩
        exact depth?_eq_none h x hx (by simpa using List.find?_some hx)
      exact ⟨0, .notInside habsent, by simp [apply, h, close]⟩
    | some depth =>
      rcases depth?_eq_some h with ⟨inner, tag', outer, hsplit, rfl, htag, hinner⟩
      cases List.mem_singleton.1 htag
      have habsent : tag ∉ inner := fun hmem => hinner _ hmem (by simp)
      have hcloses : (Closing.inside tag).Closes (t.opened.map (·.tag)) inner.length := by
        simpa only [hsplit] using Closing.Closes.inside habsent
      exact ⟨inner.length, hcloses, by simp [apply, h]⟩

theorem close_close (m n : Nat) (t : Trail) : close n (close m t) = close (m + n) t := by
  induction m generalizing t with
  | zero => simp [close]
  | succ m ih => simp only [close, ih, Nat.succ_add]

/-- Ways of closing that spare tables close some of the innermost elements together, and no
table. -/
theorem foldl_apply_spares_tables {cs : List Closing} (hcs : ∀ c ∈ cs, c.SparesTables) (t : Trail) :
    ∃ n, cs.foldl apply t = close n t ∧ "table" ∉ t.tags.take n := by
  induction cs generalizing t with
  | nil => exact ⟨0, rfl, by simp⟩
  | cons c rest ih =>
    rcases apply_closes t c with ⟨m, hcloses, happly⟩
    rcases ih (fun c hc => hcs c (List.mem_cons_of_mem _ hc)) (close m t) with ⟨n, hfold, hlater⟩
    have hfirst : "table" ∉ t.tags.take m := hcloses.spares_tables (hcs c List.mem_cons_self)
    have htake : t.tags.take (m + n) = t.tags.take m ++ (close m t).tags.take n := by
      simp [List.take_add]
    refine ⟨m + n, ?_, ?_⟩
    · simp only [List.foldl_cons, happly, hfold, close_close]
    · simpa only [htake, List.mem_append, not_or] using And.intro hfirst hlater

/-- A start tag closes some of the innermost elements, and no table. -/
theorem closeImplied_spares_tables (t : Trail) (tag : String) :
    ∃ n, t.closeImplied tag = close n t ∧ "table" ∉ t.tags.take n :=
  foldl_apply_spares_tables (fun _ hc => Closing.spares_tables_of_mem_closings hc) t

end Trail

end MarkupAudit
