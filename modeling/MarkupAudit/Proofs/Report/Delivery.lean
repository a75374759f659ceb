import MarkupAudit.Report.Data

/-!
# What a delivered report tells

A report that is handed over as data comes back without the places of its elements. Whatever is told
about an element was written down when it was found, so nothing that is read off a report depends on
those places.

Main statements: what is read off a report is read off it without the places of its elements
(`violations_detached`, `byCategory_detached`, `summary_detached`, `rendered_detached`); a delivered
report tells the same as the report (`ScanReport.delivered_report_tells_the_same`).
-/

namespace MarkupAudit.ScanReport

variable (report : ScanReport)

/-! ## Reports without places -/

theorem values_detached :
    report.detached.results.values = report.results.values.map RuleResult.detached := by
  simp [detached, Keyed.values, Keyed.map, Function.comp_def]

theorem keys_detached : report.detached.results.keys = report.results.keys := by
  simp [detached, Keyed.keys, Keyed.map, Function.comp_def]

theorem passed_detached : report.detached.passed = report.passed := by
  simp [passed, detached, Keyed.map]

theorem violations_detached :
    report.detached.violations = report.violations.map Violation.detached := by
  simp [violations, values_detached, RuleResult.detached, List.flatMap_map, List.map_flatMap]

theorem byCategory_detached (category : Category) :
    report.detached.byCategory category =
      (report.byCategory category).map RuleResult.detached := by
  rw [byCategory, values_detached, List.filter_map]
  rfl

/-- Results count the same with and without places, and into the same categories. -/
theorem summary_detached : report.detached.summary = report.summary := by
  rw [summary, values_detached, List.foldl_map]
  simp only [RuleResult.length_violations_detached]
  rfl

theorem rendered_detached : report.detached.rendered = report.rendered := by
  rw [rendered, values_detached, List.map_map]
  rfl

/-! ## Delivery -/

/-- A report that is handed over is read back: the same results under the same names in the same
order, each with its violations, of which only the places of the elements are gone. So it passes
like the report, has as many violations, the same results in each category, the same counts and the
same wording. -/
theorem delivered_report_tells_the_same :
    ∃ delivered, read report.toValue = .ok delivered ∧
      delivered.source = report.source ∧ delivered.categories = report.categories ∧
      delivered.rulesRun = report.rulesRun ∧
      delivered.results.entries = (report.results.entries.map fun entry =>
        (entry.1, { entry.2 with
          violations := entry.2.violations.map fun v => { v with subject := none } })) ∧
      (∀ v ∈ delivered.violations, v.subject = none) ∧
      delivered.results.keys = report.results.keys ∧
      delivered.passed = report.passed ∧
      delivered.violations = (report.violations.map fun v => { v with subject := none }) ∧
      delivered.violations.length = report.violations.length ∧
      (∀ category, delivered.byCategory category =
        (report.byCategory category).map RuleResult.detached) ∧
      delivered.summary = report.summary ∧ delivered.rendered = report.rendered := by
  refine ⟨report.detached, by rw [read, ofValue?_toValue], rfl, rfl, rfl, rfl, ?_,
    keys_detached report, passed_detached report, violations_detached report, ?_,
    byCategory_detached report, summary_detached report, rendered_detached report⟩
  · intro v hv
    rw [violations_detached] at hv
    rcases List.mem_map.1 hv with ⟨kept, -, rfl⟩
    rfl
  · rw [violations_detached, List.length_map]

end MarkupAudit.ScanReport
