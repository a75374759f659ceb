import MarkupAudit.Proofs.Batch.History
import MarkupAudit.Proofs.Data.Tally

/-!
# What a summary groups

A tally is kept beside the rows while a batch is under way: each report brings its own tally, and
only reports with rows bring one. Its keys come up all the same with the rows, since the rows of a
result stand together. So the tally is told by the rows alone, and the summary lists the groups of
rows that have their category and rule in common.

Main statements: the keys of the tally come up with the rows (`TalliesRows.add`,
`TalliesRows.addAll`); of an auditor whose tally is told by the rows (`IsTallied`), the summary
lists the entries of the tally (`IsTallied.perm_summary`) in order (`IsTallied.pairwise_summary`);
`summary_groups_rows`.
-/

namespace MarkupAudit

namespace Audit

/-- A scan keeps results of its own categories. -/
theorem category_mem_of_scan {registry : Registry} {s : Settings} {input : Input}
    {choices : Except Fault (List Choice)} {report : ScanReport}
    (h : scan registry s input choices = .ok report) :
    ∀ result ∈ report.results.values, result.category ∈ report.categories := by
  intro result hresult
  rcases exists_rule_of_mem_values h hresult with ⟨rule, hrule, d, hrun, -⟩
  rcases Rule.exists_of_run_eq_ok hrun with ⟨-, -, -, -, hcategory, -⟩
  rw [hcategory]
  exact (Registry.mem_ofCategories.1 hrule).2

end Audit

namespace Batch

namespace ExportRow

/-- What a row is counted under: its category and its rule. -/
def key (row : ExportRow) : Category × String :=
  (row.category, row.rule)

/-- The row tells of a violation of the rule in the category. -/
def isOf (category : Category) (rule : String) (row : ExportRow) : Bool :=
  decide (row.category = category ∧ row.rule = rule)

theorem isOf_eq (category : Category) (rule : String) :
    isOf category rule = (fun found => decide (found = (category, rule))) ∘ key := by
  funext row
  simp [isOf, key]

end ExportRow

/-! ## Keys and rows -/

/-- The tally of a report comes up with its rows. -/
theorem comesUpWith_tallyOf {report : ScanReport} (h : report.Consistent) (source : String) :
    Tally.ComesUpWith (tallyOf report)
      ((ExportRow.ofReport source report).map ExportRow.key) := by
  rw [ExportRow.ofReport, List.map_flatMap]
  refine Tally.comesUpWith_foldl_add _ ?_ ?_
  · intro result hresult
    simpa [ExportRow.ofResult] using h.violated result hresult
  · intro result hresult key hkey
    simp only [ExportRow.ofResult, List.map_map, List.mem_map] at hkey
    rcases hkey with ⟨v, hv, rfl⟩
    simp [ExportRow.key, h.own result hresult v hv]

namespace Progress

/-- The tally has come up with the rows. -/
def TalliesRows (progress : Progress) : Prop :=
  Tally.ComesUpWith progress.findings.tally (progress.findings.rows.map ExportRow.key)

variable {registry : Registry} {s : Settings} {choices : List Choice}
  {categories : List Category} {progress next final : Progress}

theorem talliesRows_start : start.TalliesRows := rfl

theorem TalliesRows.addAudited (h : progress.TalliesRows) {report : ScanReport}
    (hreport : report.Consistent) (source : String) :
    (progress.addAudited report.detached (ExportRow.ofReport source report)
      (tallyOf report)).TalliesRows := by
  rw [Progress.addAudited]
  split
  · exact h
  · rw [TalliesRows, List.map_append]
    exact Tally.ComesUpWith.addAll h (comesUpWith_tallyOf hreport source)

/-- Whatever becomes of a further document, the keys of the tally come up with the rows. -/
theorem TalliesRows.add (h : progress.TalliesRows)
    (hselect : Choice.select choices = .ok categories) {task : Task}
    (hadd : progress.add (work registry s categories task) = .ok next) : next.TalliesRows := by
  rw [work_eq hselect task] at hadd
  split at hadd
  · cases hadd
    exact h
  · cases hscan : task.scan registry s choices with
    | error fault =>
      rw [hscan] at hadd
      cases hadd
      exact h
    | ok report =>
      simp only [hscan, Delivery.ofReport, Progress.add, ScanReport.read,
        ScanReport.ofValue?_toValue] at hadd
      cases hadd
      exact h.addAudited (report_of_taskScan hscan).2 task.source

theorem TalliesRows.addAll (h : progress.TalliesRows)
    (hselect : Choice.select choices = .ok categories) {tasks : List Task}
    (hadd : progress.addAll (tasks.map (work registry s categories)) = (final, none)) :
    final.TalliesRows := by
  induction tasks generalizing progress with
  | nil =>
    cases hadd
    exact h
  | cons task rest ih =>
    rw [List.map_cons, Progress.addAll] at hadd
    cases hnext : progress.add (work registry s categories task) with
    | error fault =>
      rw [hnext] at hadd
      cases hadd
    | ok next =>
      rw [hnext] at hadd
      exact ih (h.add hselect hnext) hadd

end Progress

/-- The rows of a batch are of the categories that are audited. -/
theorem Accounts.category_mem {registry : Registry} {s : Settings} {choices : List Choice}
    {tasks : List Task} {progress : Progress} (h : Accounts registry s choices tasks progress)
    {categories : List Category} (hselect : Choice.select choices = .ok categories) :
    ∀ row ∈ progress.findings.rows, row.category ∈ categories := by
  intro row hrow
  rw [h.rows, h.reports] at hrow
  rcases List.mem_flatMap.1 hrow with ⟨report, hreport, hrow⟩
  rcases List.mem_filterMap.1 hreport with ⟨task, -, htask⟩
  rw [Task.report?] at htask
  split at htask
  · next found hscan =>
    split at htask
    · cases htask
    · cases htask
      rw [ofReport_detached] at hrow
      rcases List.mem_flatMap.1 hrow with ⟨result, hresult, hrow⟩
      rcases List.mem_map.1 hrow with ⟨v, -, rfl⟩
      rcases exists_of_bind_eq_ok hscan with ⟨d, -, hscan⟩
      rcases Audit.exists_of_scan_eq_ok hscan with ⟨-, wanted, -, -, hwanted, hselected, -⟩
      cases hwanted
      rw [hselect] at hselected
      cases hselected
      exact Audit.category_mem_of_scan hscan result hresult
  · cases htask

/-! ## Lines of a summary -/

namespace Auditor

/-- An entry of the tally as a line of the summary. -/
def lineOf (entry : (Category × String) × Nat) : Category × String × Nat :=
  (entry.1.1, entry.1.2, entry.2)

variable {auditor : Auditor}

theorem summary_eq (auditor : Auditor) :
    auditor.summary = (auditor.categories.flatMap fun category =>
      Tally.falling (auditor.findings.tally.entries.filter fun entry =>
        entry.1.1 == category)).map lineOf := by
  rw [summary, List.map_flatMap]
  refine List.flatMap_congr fun category _ => List.map_congr_left fun entry hentry => ?_
  have hmem := (Tally.falling_perm _).mem_iff.1 hentry
  have hcategory : entry.1.1 = category := by simpa using (List.mem_filter.1 hmem).2
  rw [lineOf, hcategory]

/-- The tally is told by the rows: its keys come up with them, it counts them, and they are of the
auditor's categories. -/
structure IsTallied (auditor : Auditor) : Prop where
  nodup : auditor.categories.Nodup
  keys : Tally.ComesUpWith auditor.findings.tally (auditor.findings.rows.map ExportRow.key)
  count : ∀ key, Tally.count auditor.findings.tally key =
    (auditor.findings.rows.map ExportRow.key).countP fun found => decide (found = key)
  own : ∀ row ∈ auditor.findings.rows, row.category ∈ auditor.categories

/-- A batch that gives totals leaves a tally that is told by the rows. -/
theorem isTallied_of_run {registry : Registry} {s : Settings} {after : Auditor}
    {choices : List Choice} (hselect : Choice.select choices = .ok auditor.categories)
    {sources : Sources} {workers : Value} {totals : Totals}
    (hrun : auditor.run registry s sources workers = (after, .ok totals)) :
    after.IsTallied ∧ after.categories = auditor.categories ∧
      totals.issues = after.findings.rows.length := by
  rcases exists_of_run_eq_ok hrun with ⟨tasks, final, hfinal, rfl, rfl⟩
  have hstart : Accounts registry s choices [] Progress.start := accounts_start
  rcases hstart.addAll hselect tasks with ⟨final', hfinal', haccounts⟩
  have hsame : final' = final := congrArg Prod.fst (hfinal'.symm.trans hfinal)
  subst hsame
  refine ⟨?_, rfl, haccounts.issues⟩
  exact {
    nodup := (by decide : Category.all.Nodup).sublist (Choice.sublist_of_select hselect)
    keys := Progress.talliesRows_start.addAll hselect hfinal
    count := by
      intro key
      rw [haccounts.tally key, List.countP_map]
      rfl
    own := haccounts.category_mem hselect }

namespace IsTallied

variable (h : auditor.IsTallied)
include h

theorem category_mem :
    ∀ entry ∈ auditor.findings.tally.entries, entry.1.1 ∈ auditor.categories := by
  intro entry hentry
  rcases List.mem_map.1 (h.keys.mem_keys_iff.1 (List.mem_map_of_mem hentry)) with
    ⟨row, hrow, hkey⟩
  rw [← hkey]
  exact h.own row hrow

/-- A summary lists every entry of the tally. -/
theorem perm_summary :
    auditor.summary.Perm (auditor.findings.tally.entries.map lineOf) := by
  rw [summary_eq]
  exact (Tally.flatMap_falling_perm Prod.fst h.nodup h.category_mem).map lineOf

/-- No category and rule have two lines. -/
theorem nodup_summary : (auditor.summary.map fun line => (line.1, line.2.1)).Nodup := by
  have hpairs := h.perm_summary.map fun line => (line.1, line.2.1)
  rw [List.map_map] at hpairs
  exact hpairs.nodup_iff.2 auditor.findings.tally.distinct

/-- The lines are of the categories and rules that rows tell of, with the number of these rows. -/
theorem mem_summary_iff (category : Category) (rule : String) (count : Nat) :
    (category, rule, count) ∈ auditor.summary ↔
      (∃ row ∈ auditor.findings.rows, row.category = category ∧ row.rule = rule) ∧
        count = auditor.findings.rows.countP (ExportRow.isOf category rule) := by
  have hline : (category, rule, count) ∈ auditor.findings.tally.entries.map lineOf ↔
      ((category, rule), count) ∈ auditor.findings.tally.entries := by
    simp [lineOf]
  have hrows : (category, rule) ∈ auditor.findings.rows.map ExportRow.key ↔
      ∃ row ∈ auditor.findings.rows, row.category = category ∧ row.rule = rule := by
    simp [ExportRow.key]
  rw [h.perm_summary.mem_iff, hline, Tally.mem_entries_iff, h.keys.mem_keys_iff, hrows, h.count,
    List.countP_map, ExportRow.isOf_eq]

theorem sum_summary :
    (auditor.summary.map fun line => line.2.2).sum = auditor.findings.rows.length := by
  have hcounts := (h.perm_summary.map fun line => line.2.2).sum_eq
  rw [List.map_map] at hcounts
  calc
    (auditor.summary.map fun line => line.2.2).sum
      = (auditor.findings.tally.entries.map Prod.snd).sum := hcounts
    _ = (auditor.findings.rows.map ExportRow.key).length := h.keys.sum_entries h.count
    _ = auditor.findings.rows.length := List.length_map _

theorem category_mem_of_mem_summary : ∀ line ∈ auditor.summary, line.1 ∈ auditor.categories := by
  intro line hline
  rcases List.mem_map.1 (h.perm_summary.mem_iff.1 hline) with ⟨entry, hentry, rfl⟩
  exact h.category_mem entry hentry

/-- Lines follow the order of categories, then of counts, then of the first rows. -/
theorem pairwise_summary :
    auditor.summary.Pairwise fun a b =>
      auditor.categories.idxOf a.1 < auditor.categories.idxOf b.1 ∨
        a.1 = b.1 ∧ b.2.2 ≤ a.2.2 ∧
          (a.2.2 = b.2.2 →
            auditor.findings.rows.findIdx (ExportRow.isOf a.1 a.2.1) <
              auditor.findings.rows.findIdx (ExportRow.isOf b.1 b.2.1)) := by
  have hfirst : ∀ key : Category × String,
      ((auditor.findings.rows.map ExportRow.key).findIdx fun found => decide (found = key)) =
        auditor.findings.rows.findIdx (ExportRow.isOf key.1 key.2) := by
    intro key
    rw [List.findIdx_map, ExportRow.isOf_eq]
  have hkeys := List.pairwise_map.1 h.keys.pairwise_keys
  simp only [hfirst] at hkeys
  rw [summary_eq, List.pairwise_map]
  exact Tally.pairwise_flatMap_falling Prod.fst h.nodup hkeys

end IsTallied

end Auditor

/-- The summary of a batch that has been audited is told by its rows. It has one line for each
category and rule that rows tell of, with the number of these rows, so that the counts add up to the
issues. The categories follow the order of the auditor's, in a category the counts fall, and of
rules with equal counts the one that rows tell of first comes first. -/
theorem summary_groups_rows {registry : Registry} {s : Settings} {auditor after : Auditor}
    {choices : List Choice} (hselect : Choice.select choices = .ok auditor.categories)
    {sources : Sources} {workers : Value} {totals : Totals}
    (hrun : auditor.run registry s sources workers = (after, .ok totals)) :
    let rows := after.findings.rows
    (after.summary.map fun line => (line.1, line.2.1)).Nodup ∧
      (∀ category rule count, (category, rule, count) ∈ after.summary ↔
        (∃ row ∈ rows, row.category = category ∧ row.rule = rule) ∧
          count = rows.countP (ExportRow.isOf category rule)) ∧
      (after.summary.map fun line => line.2.2).sum = totals.issues ∧
      (∀ line ∈ after.summary, line.1 ∈ auditor.categories) ∧
      after.summary.Pairwise fun a b =>
        auditor.categories.idxOf a.1 < auditor.categories.idxOf b.1 ∨
          a.1 = b.1 ∧ b.2.2 ≤ a.2.2 ∧
            (a.2.2 = b.2.2 →
              rows.findIdx (ExportRow.isOf a.1 a.2.1) <
                rows.findIdx (ExportRow.isOf b.1 b.2.1)) := by
  intro rows
  rcases Auditor.isTallied_of_run hselect hrun with ⟨htallied, hcategories, hissues⟩
  rw [← hcategories, hissues]
  exact ⟨htallied.nodup_summary, htallied.mem_summary_iff, htallied.sum_summary,
    htallied.category_mem_of_mem_summary, htallied.pairwise_summary⟩

/-- The lines of two rules, one with a row and one with two rows of another document. -/
theorem summary_groups_rows_two_rules :
    let auditor : Auditor := ⟨[.obsoletes], .empty⟩
    let sources := Sources.ofPairs
      [("one", .str "<p align=left>a"), ("two", .str "<marquee>b</marquee><font>c</font>")]
    ∃ after totals, auditor.run Catalogue.registry .packaged sources (.int 1) =
        (after, .ok totals) ∧
      (.obsoletes, "no_obsolete_attributes", 1) ∈ after.summary ∧
      (.obsoletes, "no_obsolete_tags", 2) ∈ after.summary ∧
      (after.summary.map fun line => line.2.2).sum = totals.issues := by
  intro auditor sources
  have hselect : Choice.select [.exact .obsoletes] = .ok auditor.categories := rfl
  have hprepare : (⟨.packaged, sources, .int 1⟩ : Call).prepare =
      .ok ([⟨"one", .str "<p align=left>a"⟩,
        ⟨"two", .str "<marquee>b</marquee><font>c</font>"⟩], 1) := rfl
  have hkeys : (auditor.run Catalogue.registry .packaged sources (.int 1)).1.findings.rows.map
      ExportRow.key = [(.obsoletes, "no_obsolete_attributes"), (.obsoletes, "no_obsolete_tags"),
        (.obsoletes, "no_obsolete_tags")] := by
    decide +kernel
  rcases @Auditor.exists_totals_answer Catalogue.registry auditor _ _ _ hprepare (by decide) with
    ⟨totals, htotals⟩
  rw [Auditor.answer] at htotals
  rcases hrun : auditor.run Catalogue.registry .packaged sources (.int 1) with ⟨after, outcome⟩
  rw [hrun] at hkeys htotals
  cases htotals
  rcases summary_groups_rows hselect hrun with ⟨-, hmem, hsum, -⟩
  have hline : ∀ key ∈ after.findings.rows.map ExportRow.key, (key.1, key.2,
      (after.findings.rows.map ExportRow.key).countP fun found => decide (found = key)) ∈
        after.summary := by
    intro key hkey
    rcases List.mem_map.1 hkey with ⟨row, hrow, rfl⟩
    refine (hmem _ _ _).2 ⟨⟨row, hrow, rfl, rfl⟩, ?_⟩
    rw [List.countP_map, ExportRow.isOf_eq]
  rw [hkeys] at hline
  exact ⟨after, totals, rfl, hline (.obsoletes, "no_obsolete_attributes") (by decide),
    hline (.obsoletes, "no_obsolete_tags") (by decide), hsum⟩

end Batch

end MarkupAudit
