import MarkupAudit.Proofs.Document.Ancestry
import MarkupAudit.Proofs.Report.Header
import MarkupAudit.Proofs.Rule.Subjects
import MarkupAudit.Rules.Tables
import Mathlib.Data.List.Perm.Subperm

/-!
# Tables for layout

The rule walks through every table for layout, so what is inside several of them is met on several
walks and told each time. The header counts what is told; this is the number of elements only where
no such tables are nested around one of them.

Main statement: `semantics_are_told_once_for_each_table`.
-/

namespace MarkupAudit

namespace Rules

/-- The element is or has something that only tables of data have. -/
def carriesSemantics (e : Element) : Bool :=
  semanticTags.contains e.tag || semanticAttributes.any e.hasAttr

/-- The element is a table for layout. -/
def isLayoutTable (e : Element) : Bool :=
  e.tag == "table" && e.hasRole "presentation"

/-- How many tables for layout are around the place. -/
def layoutDepth (p : Place) : Nat :=
  p.ancestors.countP fun q => isLayoutTable q.element

/-- The elements in tables for layout that belong into tables of data. -/
def misplacedSemantics (d : Document) : List Place :=
  d.places.filter fun p => carriesSemantics p.element && decide (0 < layoutDepth p)

/-- What the walk through one table tells. -/
def walk (table : Place) : List Place :=
  table.descendants.filter fun p => carriesSemantics p.element

/-- The elements that the violations refer to, table by table. -/
def toldSemantics (d : Document) : List Place :=
  (d.places.filter fun table => isLayoutTable table.element).flatMap walk

variable {d : Document} {p table : Place} {tables : List Place}

theorem isSome_judgeSemantics (p : Place) :
    (judgeSemantics p).isSome = carriesSemantics p.element := by
  rw [judgeSemantics, carriesSemantics]
  cases htag : semanticTags.contains p.element.tag with
  | true => rfl
  | false =>
    rw [Bool.false_or, if_neg Bool.false_ne_true]
    cases hpresent : semanticAttributes.filter p.element.hasAttr with
    | nil => simpa [List.filter_eq_nil_iff] using hpresent
    | cons name others =>
      have hname : name ∈ semanticAttributes.filter p.element.hasAttr := by simp [hpresent]
      exact (List.any_eq_true.2 ⟨name, List.mem_filter.1 hname⟩).symm

theorem subjects_flatMap_judgeSemantics (d : Document) :
    (((d.placesOf ["table"]).filter fun p => p.element.hasRole "presentation").flatMap
      fun table => Finding.judge judgeSemantics table.descendants).map Finding.subject =
        (toldSemantics d).map some := by
  have htables : (d.placesOf ["table"]).filter (fun p => p.element.hasRole "presentation") =
      d.places.filter fun table => isLayoutTable table.element := by
    simp [Document.placesOf, isLayoutTable, List.filter_filter, Bool.and_comm, beq_eq_decide]
  rw [htables, toldSemantics, List.map_flatMap, List.map_flatMap]
  simp only [Finding.subjects_judge, isSome_judgeSemantics, walk]

/-! ## How often an element is told -/

theorem mem_walk_iff (htable : table ∈ d.places) (hp : p ∈ d.places)
    (hsemantics : carriesSemantics p.element = true) :
    p.position ∈ (walk table).map (·.position) ↔ table.holds p = true := by
  have hwalk : walk table ⊆ d.places := fun q hq =>
    Document.mem_places_of_mem_descendants htable (List.mem_filter.1 hq).1
  rw [Document.position_mem_map_iff hwalk hp, Document.holds_iff htable hp, walk, List.mem_filter,
    and_iff_left hsemantics]

theorem nodup_walk (table : Place) : ((walk table).map (·.position)).Nodup :=
  List.pairwise_map.2 (((Node.pairwise_placesAll _ _ _).filter _).imp Nat.ne_of_lt)

/-- Walks through some tables meet an element once in each of them that it is inside. -/
theorem count_flatMap_walk (htables : ∀ table ∈ tables, table ∈ d.places) (hp : p ∈ d.places)
    (hsemantics : carriesSemantics p.element = true) :
    ((tables.flatMap walk).map (·.position)).count p.position =
      tables.countP fun table => table.holds p := by
  -- One walk after the other: each adds one exactly if its table holds the element.
  induction tables with
  | nil => rfl
  | cons table rest ih =>
    have hrest := ih fun other hother => htables other (List.mem_cons_of_mem _ hother)
    rw [List.flatMap_cons, List.map_append, List.count_append, hrest, (nodup_walk table).count,
      List.countP_cons, Nat.add_comm]
    simp only [mem_walk_iff (htables table List.mem_cons_self) hp hsemantics]

theorem count_toldSemantics (hp : p ∈ d.places) (hsemantics : carriesSemantics p.element = true) :
    ((toldSemantics d).map (·.position)).count p.position = layoutDepth p := by
  have htables : ∀ table ∈ d.places.filter fun table => isLayoutTable table.element,
      table ∈ d.places :=
    fun table htable => (List.mem_filter.1 htable).1
  calc
    ((toldSemantics d).map (·.position)).count p.position
        = (d.places.filter fun table => isLayoutTable table.element).countP
            fun table => table.holds p := count_flatMap_walk htables hp hsemantics
    _ = ((d.places.filter fun table => table.holds p).map Place.located).countP
            fun q => isLayoutTable q.element := by
          rw [List.countP_map, List.countP_filter, List.countP_filter]
          simp only [Bool.and_comm, Function.comp_def, Place.located]
    _ = layoutDepth p := (Document.ancestors_perm hp).countP_eq _

/-- What is told are the misplaced elements, and nothing else. -/
theorem mem_toldSemantics_iff : p ∈ toldSemantics d ↔ p ∈ misplacedSemantics d := by
  have htold : ∀ q ∈ toldSemantics d, q ∈ d.places ∧ carriesSemantics q.element = true := by
    intro q hq
    rcases List.mem_flatMap.1 hq with ⟨table, htable, hwalk⟩
    rcases List.mem_filter.1 hwalk with ⟨hinside, hsemantics⟩
    exact ⟨Document.mem_places_of_mem_descendants (List.mem_filter.1 htable).1 hinside, hsemantics⟩
  have hdepth : p ∈ d.places → carriesSemantics p.element = true →
      (0 < layoutDepth p ↔ p ∈ toldSemantics d) := by
    intro hplace hsemantics
    rw [← count_toldSemantics hplace hsemantics, List.count_pos_iff,
      Document.position_mem_map_iff (fun q hq => (htold q hq).1) hplace]
  simp only [misplacedSemantics, List.mem_filter, Bool.and_eq_true, decide_eq_true_eq]
  constructor
  · intro hp
    rcases htold p hp with ⟨hplace, hsemantics⟩
    exact ⟨hplace, hsemantics, (hdepth hplace hsemantics).2 hp⟩
  · rintro ⟨hplace, hsemantics, hpositive⟩
    exact (hdepth hplace hsemantics).1 hpositive

theorem layoutDepth_of_misplaced (hp : p ∈ misplacedSemantics d) :
    ((toldSemantics d).map (·.position)).count p.position = layoutDepth p ∧ 0 < layoutDepth p := by
  simp only [misplacedSemantics, List.mem_filter, Bool.and_eq_true, decide_eq_true_eq] at hp
  exact ⟨count_toldSemantics hp.1 hp.2.1, hp.2.2⟩

/-- No element is told twice exactly if no two tables for layout are around one that is told. -/
theorem nodup_positions_toldSemantics_iff :
    ((toldSemantics d).map (·.position)).Nodup ↔
      ∀ p ∈ misplacedSemantics d, layoutDepth p = 1 := by
  rw [List.nodup_iff_count_le_one]
  constructor
  · intro honce p hp
    rcases layoutDepth_of_misplaced hp with ⟨hcount, hpositive⟩
    exact Nat.le_antisymm (hcount ▸ honce p.position) hpositive
  · intro hsingle n
    -- A position is that of an element told, or else nothing is told of it.
    by_cases hn : n ∈ (toldSemantics d).map (·.position)
    · rcases List.mem_map.1 hn with ⟨p, hp, rfl⟩
      have hmisplaced := mem_toldSemantics_iff.1 hp
      exact Nat.le_of_eq ((layoutDepth_of_misplaced hmisplaced).1.trans (hsingle p hmisplaced))
    · rw [List.count_eq_zero_of_not_mem hn]
      exact Nat.zero_le 1

/-- The count is the number of misplaced elements exactly if no element is told twice. -/
theorem length_toldSemantics_iff :
    (toldSemantics d).length = (misplacedSemantics d).length ↔
      ((toldSemantics d).map (·.position)).Nodup := by
  -- The two lists have the same members, and in the second one none is repeated.
  have hmisplaced : (misplacedSemantics d).Nodup :=
    (List.Nodup.of_map _ (Document.nodup_positions d)).filter _
  constructor
  · intro hlength
    have hsubperm : (misplacedSemantics d).Subperm (toldSemantics d) :=
      List.subperm_of_subset hmisplaced fun p hp => mem_toldSemantics_iff.2 hp
    have hperm := List.Subperm.perm_of_length_le hsubperm (Nat.le_of_eq hlength)
    refine (hperm.map _).nodup_iff.1 ?_
    exact (Document.nodup_positions d).sublist (List.filter_sublist.map _)
  · intro hnodup
    have hsame := (List.perm_ext_iff_of_nodup hnodup.of_map hmisplaced).2
      fun _ => mem_toldSemantics_iff
    exact hsame.length_eq

end Rules

open Rules

/-- The rule about tables for layout always gives a result. Its violations refer to the elements in
such tables that belong into tables of data, to each of them as often as such tables are around it.
So the violations refer to different elements, and the header over them counts these elements,
exactly if none of them is in two such tables. -/
theorem semantics_are_told_once_for_each_table (s : Settings) (d : Document) :
    ∃ result, presentationTablesHaveNoSemantics.run s d = .ok result ∧
      (∀ v ∈ result.violations, ∃ p ∈ misplacedSemantics d, v.subject = some p) ∧
      (∀ p ∈ misplacedSemantics d, result.positions.count p.position = layoutDepth p) ∧
      (result.positions.Nodup ↔ ∀ p ∈ misplacedSemantics d, layoutDepth p = 1) ∧
      (result.violations.length = (misplacedSemantics d).length ↔
        ∀ p ∈ misplacedSemantics d, layoutDepth p = 1) ∧
      (2 ≤ result.violations.length → result.message = Text.join "\n"
        (("Found " ++ toString result.violations.length ++
          " semantic elements in presentation tables:") ::
            result.violations.map fun v => "- " ++ v.message)) := by
  have hplain : presentationTablesHaveNoSemantics.HasPlainHeader :=
    Rule.hasPlainHeader_of_ofList rfl (by decide +kernel)
  have hfound : ∃ findings, presentationTablesHaveNoSemantics.check s d = .ok findings ∧
      findings.map Finding.subject = (toldSemantics d).map some :=
    ⟨_, rfl, subjects_flatMap_judgeSemantics d⟩
  rcases hfound with ⟨findings, hcheck, hsubjects⟩
  rcases Rule.exists_run hplain hcheck with ⟨result, hrun, htold, hviolations⟩
  have hpositions := RuleResult.positions_eq hviolations hsubjects
  have hlength : result.violations.length = (toldSemantics d).length := by
    simpa [hviolations] using congrArg List.length hsubjects
  refine ⟨result, hrun, ?_, ?_, ?_, ?_, ?_⟩
  · intro v hv
    rcases List.mem_map.1 (hviolations ▸ hv) with ⟨f, hf, rfl⟩
    have hsubject := hsubjects ▸ List.mem_map_of_mem hf
    rcases List.mem_map.1 hsubject with ⟨p, hp, heq⟩
    exact ⟨p, mem_toldSemantics_iff.1 hp, heq.symm⟩
  · intro p hp
    rw [hpositions]
    exact (layoutDepth_of_misplaced hp).1
  · rw [hpositions]
    exact nodup_positions_toldSemantics_iff
  · rw [hlength, length_toldSemantics_iff]
    exact nodup_positions_toldSemantics_iff
  · intro hseveral
    have hunbraced : Text.Template.Unbraced "Found ".toList ∧
        Text.Template.Unbraced " semantic elements in presentation tables:".toList := by
      decide +kernel
    have hcounted := Wording.tell_counted hunbraced.1 hunbraced.2
      presentationTablesHaveNoSemantics.name (result.violations.map (·.message))
      (by simpa using hseveral)
    have hmessages : findings.map Finding.message = result.violations.map (·.message) := by
      rw [hviolations, List.map_map]
      rfl
    rw [hmessages] at htold
    have hmessage := Except.ok.inj (htold.symm.trans hcounted)
    simpa [Function.comp_def] using hmessage

/-- A header cell in a table for layout inside another one is told twice. -/
theorem header_cell_is_told_twice_in_nested_tables :
    let layout (inner : Node) : Node :=
      .element "table" (.ofList [("role", "presentation")])
        [.element "tr" .empty [.element "td" .empty [inner]]]
    let d : Document := .ofNodes "" [layout (layout (.element "th" .empty [.text "Price"]))]
    (misplacedSemantics d).length = 1 ∧
      ∃ result, presentationTablesHaveNoSemantics.run .packaged d = .ok result ∧
        result.violations.length = 2 ∧ ¬ result.positions.Nodup := by
  intro layout d
  have htold : ((presentationTablesHaveNoSemantics.run .packaged d).map fun result =>
      (result.violations.length, result.positions)).toOption = some (2, [7, 7]) := by
    decide +kernel
  refine ⟨by decide +kernel, ?_⟩
  cases hrun : presentationTablesHaveNoSemantics.run .packaged d with
  | error fault => simp [hrun, Except.map, Except.toOption] at htold
  | ok result =>
    have hresult : result.violations.length = 2 ∧ result.positions = [7, 7] := by
      simpa [hrun, Except.map, Except.toOption] using htold
    exact ⟨result, rfl, hresult.1, by simp [hresult.2]⟩

end MarkupAudit
