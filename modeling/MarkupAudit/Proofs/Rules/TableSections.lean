import MarkupAudit.Proofs.Rule.Subjects
import MarkupAudit.Rules.Tables
import Mathlib.Data.List.Pairwise

/-!
# The order of the sections of a table

The rule goes through a list of pairs of sections and looks for the second one behind the first. The
pairs are all those that stand in the wrong order, so nothing is found exactly if the sections are
sorted.

Main statement: `sorted_tables_pass`.
-/

namespace MarkupAudit

namespace Rules

/-- The sections of a table in the order in which they may stand. -/
def sectionOrder : List String := ["colgroup", "thead", "tfoot", "tbody"]

/-- The tags of the children that are sections. -/
def sectionTags (table : Place) : List String :=
  (table.children.map (·.element.tag)).filter sectionOrder.contains

/-- No section stands behind one that may not come before it. -/
def InOrder (tags : List String) : Prop :=
  tags.Pairwise fun a b => sectionOrder.idxOf a ≤ sectionOrder.idxOf b

/-- The pairs that the rule looks for. -/
def forbiddenPairs : List (String × String) :=
  sectionOrderRules.map fun rule => (rule.1, rule.2.1)

/-- The pairs that the rule looks for are those of sections in the wrong order. -/
theorem mem_forbiddenPairs_iff (a b : String) :
    (a, b) ∈ forbiddenPairs ↔
      a ∈ sectionOrder ∧ b ∈ sectionOrder ∧ sectionOrder.idxOf b < sectionOrder.idxOf a := by
  have hwrong : ∀ pair ∈ forbiddenPairs, pair.1 ∈ sectionOrder ∧ pair.2 ∈ sectionOrder ∧
      sectionOrder.idxOf pair.2 < sectionOrder.idxOf pair.1 := by decide
  have hall : ∀ a ∈ sectionOrder, ∀ b ∈ sectionOrder,
      sectionOrder.idxOf b < sectionOrder.idxOf a → (a, b) ∈ forbiddenPairs := by decide
  constructor
  · exact hwrong (a, b)
  · rintro ⟨ha, hb, hlt⟩
    exact hall a ha b hb hlt

/-- The search for one pair finds nothing exactly if the pair does not occur, however far apart. -/
theorem outOfOrder_eq_nil_iff (earlier later : String) (children : List Place) :
    outOfOrder earlier later children = [] ↔
      (children.map (·.element.tag)).Pairwise fun a b => (a, b) ≠ (earlier, later) := by
  induction children with
  | nil => simp [outOfOrder]
  | cons child rest ih =>
    rw [outOfOrder, List.map_cons, List.pairwise_cons]
    split
    · next hearlier =>
      -- From here on every later section is found, so also those behind a further earlier one.
      have hnone : (rest.filter fun c => c.element.tag == later) = [] ↔
          ∀ tag ∈ rest.map (·.element.tag), tag ≠ later := by
        simp [List.filter_eq_nil_iff]
      rw [hnone, hearlier]
      constructor
      · intro hlater
        refine ⟨fun tag htag heq => hlater tag htag (Prod.mk.inj heq).2, ?_⟩
        exact List.pairwise_of_forall_mem_list fun _ _ b hb heq => hlater b hb (Prod.mk.inj heq).2
      · rintro ⟨hfirst, -⟩ tag htag rfl
        exact hfirst tag htag rfl
    · next hother =>
      rw [ih]
      refine ⟨fun hrest => ⟨fun _ _ heq => hother (Prod.mk.inj heq).1, hrest⟩, And.right⟩

/-- None of the pairs occurs exactly if the sections, taken out of the children, are sorted. -/
theorem inOrder_iff (table : Place) :
    InOrder (sectionTags table) ↔
      ∀ rule ∈ sectionOrderRules, outOfOrder rule.1 rule.2.1 table.children = [] := by
  have hpair : ∀ a b, (a ∈ sectionOrder → b ∈ sectionOrder →
      sectionOrder.idxOf a ≤ sectionOrder.idxOf b) ↔ (a, b) ∉ forbiddenPairs := by
    intro a b
    rw [mem_forbiddenPairs_iff, not_and, not_and, Nat.not_lt]
  simp only [InOrder, sectionTags, List.pairwise_filter, List.contains_iff_mem, hpair,
    outOfOrder_eq_nil_iff]
  simp only [List.pairwise_iff_forall_sublist]
  constructor
  · intro hnone rule hrule a b hsub heq
    exact hnone hsub (heq ▸ List.mem_map_of_mem hrule)
  · intro hnone a b hsub hmem
    rcases List.mem_map.1 hmem with ⟨rule, hrule, heq⟩
    exact hnone rule hrule hsub heq.symm

end Rules

open Rules

/-- The rule about the structure of tables always gives a result, and it is satisfied exactly if in
every table the column groups, the head, the foot and the bodies stand in this order, with whatever
else between them. -/
theorem sorted_tables_pass (s : Settings) (d : Document) :
    ∃ result, tableStructureIsOrdered.run s d = .ok result ∧
      (result.passed = true ↔
        ∀ table ∈ d.places, table.element.tag = "table" → InOrder (sectionTags table)) := by
  rcases Rule.exists_run (Rule.hasPlainHeader_of_none rfl)
    (rfl : tableStructureIsOrdered.check s d = .ok _) with ⟨result, hrun, -, hviolations⟩
  refine ⟨result, hrun, ?_⟩
  rw [RuleResult.passed_iff hviolations]
  simp only [List.flatMap_eq_nil_iff, orderFindings, List.map_eq_nil_iff, inOrder_iff,
    Document.placesOf, List.mem_filter]
  constructor
  · intro hnone table htable htag rule hrule
    exact hnone rule hrule table ⟨htable, by simp [htag]⟩
  · intro hordered rule hrule table htable
    exact hordered table htable.1 (by simpa using htable.2) rule hrule

end MarkupAudit
