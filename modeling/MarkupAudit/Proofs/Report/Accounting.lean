import MarkupAudit.Proofs.Data.Tally
import MarkupAudit.Report.Basic

/-!
# Accounting for the violations of a report

The summary of a report starts with the categories that the report names, none of which has a count
yet, and then goes through the results. A report that was made elsewhere need not name all
categories of its results, so keys may be added on the way. Nothing is lost by that: every violation
is counted once, under the category of its result.

Main statement: `ScanReport.summary_accounts_for_violations`.
-/

namespace MarkupAudit.ScanReport

variable (report : ScanReport)

/-- The categories of the report before any violation is counted. -/
def named : Tally Category :=
  Keyed.ofList (report.categories.map fun category => (category, 0))

theorem summary_eq_foldl :
    report.summary = report.results.values.foldl
      (fun tally result => Tally.add tally result.category result.violations.length)
      report.named := rfl

/-! ## Before counting -/

theorem keys_named : report.named.keys = report.categories.eraseDups := by
  rw [named, Keyed.keys_ofList, List.map_map]
  exact congrArg List.eraseDups (List.map_id report.categories)

theorem count_of_mem_entries_named : ∀ entry ∈ report.named.entries, entry.2 = 0 := by
  intro entry hentry
  have hfound : report.named.get? entry.1 = some entry.2 :=
    Entries.lookup_of_mem report.named.distinct hentry
  rw [named, Keyed.get?_ofList] at hfound
  rcases List.mem_map.1 (List.mem_reverse.1 (Entries.mem_of_lookup hfound)) with ⟨_, -, hpair⟩
  exact (congrArg Prod.snd hpair).symm

theorem count_named (category : Category) : Tally.count report.named category = 0 := by
  cases hfound : report.named.get? category with
  | none => rw [Tally.count, hfound]; rfl
  | some n =>
    rw [Tally.count, hfound]
    exact report.count_of_mem_entries_named _ (Entries.mem_of_lookup hfound)

theorem sum_values_named : report.named.values.sum = 0 := by
  refine List.sum_eq_zero ?_
  intro n hn
  rcases List.mem_map.1 hn with ⟨entry, hentry, rfl⟩
  exact report.count_of_mem_entries_named entry hentry

/-! ## Behind the count -/

theorem keys_summary :
    report.summary.keys = report.categories.eraseDups ++
      ((report.results.values.map RuleResult.category).removeAll report.categories).eraseDups := by
  have hseen : ∀ categories : List Category,
      categories.removeAll report.categories.eraseDups =
        categories.removeAll report.categories := by
    intro categories
    refine List.filter_congr fun category _ => ?_
    simp
  rw [summary_eq_foldl, Tally.keys_foldl_add RuleResult.category, keys_named, hseen]

theorem count_summary (category : Category) :
    Tally.count report.summary category =
      ((report.byCategory category).flatMap RuleResult.violations).length := by
  rw [summary_eq_foldl, Tally.count_foldl_add_eq RuleResult.category, count_named, Nat.zero_add,
    List.length_flatMap, byCategory]

theorem sum_values_summary : report.summary.values.sum = report.violations.length := by
  rw [summary_eq_foldl, Tally.sum_values_foldl_add RuleResult.category, sum_values_named,
    Nat.zero_add, violations, List.length_flatMap]

theorem get?_summary (category : Category) :
    report.summary.get? category =
      if category ∈ report.summary.keys then
        some ((report.byCategory category).flatMap RuleResult.violations).length
      else none := by
  rw [← count_summary]
  split
  · next hkey => exact Tally.get?_eq_some_iff.2 ⟨hkey, rfl⟩
  · next habsent =>
    refine Option.eq_none_iff_forall_ne_some.2 fun n hfound => ?_
    exact habsent (Tally.get?_eq_some_iff.1 hfound).1

theorem mem_keys_summary {category : Category} (hnamed : category ∈ report.categories) :
    category ∈ report.summary.keys := by
  rw [keys_summary]
  exact List.mem_append_left _ (List.mem_eraseDups.2 hnamed)

/-! ## Results by category -/

theorem byCategory_perm :
    (Category.all.flatMap report.byCategory).Perm report.results.values :=
  Tally.flatMap_filter_perm RuleResult.category (by decide) fun _ _ => Category.mem_all _

/-- A report accounts for its violations, whatever categories it names. The counts of its summary
add up to the number of violations; each is the number of violations in the results of its category,
which is none for a category that is named without a result. The results of the four categories are
all results, each once, and those of one category keep their order. The summary tells the categories
that the report names, each at its first place, and behind them those that only results have. -/
theorem summary_accounts_for_violations :
    report.summary.values.sum = report.violations.length ∧
      (∀ category, report.summary.get? category =
        if category ∈ report.summary.keys then
          some ((report.byCategory category).flatMap RuleResult.violations).length
        else none) ∧
      (∀ category ∈ report.categories, report.byCategory category = [] →
        report.summary.get? category = some 0) ∧
      (Category.all.flatMap report.byCategory).Perm report.results.values ∧
      (∀ category, (report.byCategory category).Sublist report.results.values ∧
        ∀ result ∈ report.results.values,
          result ∈ report.byCategory category ↔ result.category = category) ∧
      report.summary.keys = report.categories.eraseDups ++
        ((report.results.values.map RuleResult.category).removeAll
          report.categories).eraseDups := by
  refine ⟨sum_values_summary report, get?_summary report, ?_, byCategory_perm report, ?_,
    keys_summary report⟩
  · intro category hnamed hnone
    rw [get?_summary, if_pos (mem_keys_summary report hnamed), hnone]
    rfl
  · intro category
    refine ⟨List.filter_sublist, fun result hresult => ?_⟩
    simp [byCategory, hresult]

/-- A report may name a category twice, or without a result, or not at all. -/
theorem summary_accounts_for_violations_incomplete :
    let result : Category → RuleResult := fun category =>
      ⟨"rule", category, [⟨"rule", "told", none, "", ""⟩], "told"⟩
    let report : ScanReport :=
      ⟨"", [.warnings, .advice, .warnings], 2,
        .ofList [("first", result .errors), ("second", result .warnings)]⟩
    .advice ∈ report.categories ∧ report.byCategory .advice = [] ∧
      report.summary.get? .advice = some 0 ∧
      report.summary.entries = [(.warnings, 1), (.advice, 0), (.errors, 1)] := by
  intro result report
  have hnamed : .advice ∈ report.categories := by decide
  have hnone : report.byCategory .advice = [] := rfl
  exact ⟨hnamed, hnone,
    (summary_accounts_for_violations report).2.2.1 .advice hnamed hnone, by decide⟩

end MarkupAudit.ScanReport
