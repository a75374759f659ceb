import MarkupAudit.Proofs.Build.Path

/-!
# How a built document is nested

Implied end tags take elements out of others, but they never put anything into an element that does
not hold it in the forest. And they stop at tables: what a table holds in the forest, it holds in
the document.

Main statements: `replay_only_unnests`, `table_isolated`.
-/

namespace MarkupAudit

open Build Markup Outline
open scoped List

/-! ## Elements are only taken out -/

theorem exists_standsFor {built written : List Entry}
    (h : List.Forall₂ Entry.StandsFor built written) {b : Entry} (hb : b ∈ built) :
    ∃ w ∈ written, b.StandsFor w := by
  induction h with
  | nil => cases hb
  | @cons b' w built written hstands hrest ih =>
    rcases List.mem_cons.1 hb with rfl | hb
    · exact ⟨w, List.mem_cons_self, hstands⟩
    · rcases ih hb with ⟨w', hw', hstands'⟩
      exact ⟨w', List.mem_cons_of_mem _ hw', hstands'⟩

theorem Outline.Entry.StandsFor.isBelow {b w : Entry} (h : b.StandsFor w) {position : Nat}
    (hbelow : b.isBelow position = true) : w.isBelow position = true := by
  rcases Entry.isBelow_iff.1 hbelow with ⟨m, hm, hposition⟩
  exact Entry.isBelow_iff.2 ⟨m, h.ancestors.subset hm, hposition⟩

/-- Implied end tags only take elements out of others: without implied table bodies, the ancestors
of a node are some of its ancestors in the forest, in order. So nothing that comes after the end of
an element is inside it, even if the element was closed before its end tag came. -/
theorem replay_only_unnests (forest : List RawNode) :
    let written := RawNode.outlineAll [] 0 forest
    let built := Build.tracedOutline forest
    List.Forall₂
        (fun b w => b.position = w.position ∧ b.content = w.content ∧ b.ancestors <+ w.ancestors)
        built written ∧
      ∀ ended ∈ written, ∀ w ∈ written,
        ended.position < w.position → w.isBelow ended.position = false →
          ∀ b ∈ built, b.position = w.position → b.isBelow ended.position = false := by
  intro written built
  have hmatch := Build.standsFor_tracedOutline forest
  refine ⟨hmatch.imp fun _ _ h => ⟨h.position, h.content, h.ancestors⟩, ?_⟩
  intro ended _ w hw _ hafter b hb hposition
  rcases exists_standsFor hmatch hb with ⟨w', hw', hstands⟩
  have heq : w' = w :=
    RawNode.eq_of_position_eq hw' hw (hstands.position.symm.trans hposition)
  cases hbelow : b.isBelow ended.position with
  | false => rfl
  | true =>
    -- Inside the element in the document, the node would be inside it in the forest too.
    have hwritten : w.isBelow ended.position = true := heq ▸ hstands.isBelow hbelow
    exact absurd hwritten (by simp [hafter])

/-- A paragraph is closed by what cannot be in it, and its end tag closes nothing more. -/
theorem replay_only_unnests_paragraph :
    let forest : List RawNode :=
      [.element "p" [] [.text "one", .element "div" [] [.text "two"]], .text "three"]
    (Build.tracedOutline forest).map (fun b => (b.position, b.ancestors.map (·.tag))) =
        [(0, []), (1, ["p"]), (2, []), (3, ["div"]), (4, [])] ∧
      ∀ b ∈ Build.tracedOutline forest, b.position = 4 → b.isBelow 0 = false := by
  intro forest
  refine ⟨by decide, ?_⟩
  exact (replay_only_unnests forest).2 ⟨0, .element "p" [], []⟩ (by decide)
    ⟨4, .text "three", []⟩ (by decide) (by decide) (by decide)

/-! ## Tables are kept together -/

theorem isBelow_eq_of_table {forest : List RawNode} {table b w : Entry}
    (hmem : table ∈ RawNode.outlineAll [] 0 forest) (htable : table.content.tag? = some "table")
    (hw : w ∈ RawNode.outlineAll [] 0 forest) (hstands : b.StandsFor w) :
    b.isBelow table.position = w.isBelow table.position := by
  rw [Bool.eq_iff_iff]
  constructor
  · exact hstands.isBelow
  · intro hbelow
    rcases Entry.isBelow_iff.1 hbelow with ⟨m, hm, hposition⟩
    rcases RawNode.marks_of_mem_outlineAll forest hw hm with houter | ⟨f, hf, hmark, htag⟩
    · cases houter
    · -- The ancestor is the table itself, for no two entries share a position.
      have heq : f = table := RawNode.eq_of_position_eq hf hmem (hmark.trans hposition)
      have hm_table : m.tag = "table" := by
        simpa [heq, htable, eq_comm] using htag
      exact Entry.isBelow_iff.2 ⟨m, hstands.tables m hm hm_table, hposition⟩

theorem map_filter_eq_of_standsFor {inside : Entry → Bool} {built written : List Entry}
    (h : List.Forall₂ Entry.StandsFor built written)
    (hinside : ∀ w ∈ written, ∀ b : Entry, b.StandsFor w → inside b = inside w) :
    (built.filter inside).map (fun e => (e.position, e.content)) =
      (written.filter inside).map (fun e => (e.position, e.content)) := by
  induction h with
  | nil => rfl
  | @cons b w built written hstands hrest ih =>
    have hb : inside b = inside w := hinside w List.mem_cons_self b hstands
    have htail := ih fun w hw => hinside w (List.mem_cons_of_mem _ hw)
    cases hw : inside w with
    | true => simpa [hb, hw, hstands.position, hstands.content] using htail
    | false => simpa [hb, hw] using htail

/-- What is inside a table of the forest is inside it in the document, and nothing else is, apart
from implied table bodies. -/
theorem table_isolated (forest : List RawNode) (table : Entry)
    (hmem : table ∈ RawNode.outlineAll [] 0 forest)
    (htable : table.content.tag? = some "table") :
    ((Build.tracedOutline forest).filter (·.isBelow table.position)).map
        (fun e => (e.position, e.content)) =
      ((RawNode.outlineAll [] 0 forest).filter (·.isBelow table.position)).map
        (fun e => (e.position, e.content)) := by
  refine map_filter_eq_of_standsFor (Build.standsFor_tracedOutline forest) ?_
  intro w hw b hstands
  exact isBelow_eq_of_table hmem htable hw hstands

/-- A row of a table in a cell does not close the cell that the table is in. -/
theorem table_isolated_inner :
    let forest : List RawNode := [.element "table" [] [.element "tr" [] [.element "td" []
      [.element "Table" [] [.element "tr" [] [.element "td" [] [.text "inner"]]]]], .text "outer"]]
    ((Build.tracedOutline forest).filter (·.isBelow 3)).map (fun e => (e.position, e.content)) =
      [(4, .element "tr" []), (5, .element "td" []), (6, .text "inner")] := by
  intro forest
  have hisolated := table_isolated forest
    ⟨3, .element "table" [], [⟨2, "td"⟩, ⟨1, "tr"⟩, ⟨0, "table"⟩]⟩ (by decide) rfl
  exact hisolated.trans (by decide)

end MarkupAudit
