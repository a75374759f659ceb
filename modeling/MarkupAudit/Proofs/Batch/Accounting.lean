import MarkupAudit.Batch.Auditor
import MarkupAudit.Proofs.Audit.Scan
import MarkupAudit.Proofs.Document.Parse
import MarkupAudit.Proofs.Report.Delivery

/-!
# What a batch accounts for

Each document of a batch has an outcome: it is skipped, or it is parsed and scanned as a single
document would be, which fails or gives a report. A batch under way accounts for the documents it
has been through, whatever their outcomes and their order: reports and failures are kept one for
each document, and the rows, the tally and the counts that are kept along the way all agree with the
reports.

Main statements: a further document is accounted for (`Accounts.add`), and so are all documents of a
batch (`batch_accounts_for_documents`).
-/

namespace MarkupAudit

namespace ScanReport

/-- Every result that the report keeps has violations, which are all of its own rule. -/
structure Consistent (report : ScanReport) : Prop where
  violated : ∀ result ∈ report.results.values, result.violations ≠ []
  own : ∀ result ∈ report.results.values, ∀ v ∈ result.violations, v.rule = result.rule

end ScanReport

namespace Audit

variable {registry : Registry} {s : Settings} {d : Document}
  {choices : Except Fault (List Choice)} {report : ScanReport}

theorem source_of_scan (h : scan registry s (.document d) choices = .ok report) :
    report.source = d.source := by
  rcases exists_of_scan_eq_ok h with ⟨d', _, results, hread, -, -, -, hreport⟩
  have hd : d' = d := (Except.ok.inj hread).symm
  rw [hreport, hd]
  rfl

theorem consistent_of_scan {input : Input} (h : scan registry s input choices = .ok report) :
    report.Consistent := by
  constructor
  · intro result hresult
    rcases exists_rule_of_mem_values h hresult with ⟨-, -, -, -, hviolated⟩
    simpa [RuleResult.passed] using hviolated
  · intro result hresult v hv
    rcases exists_rule_of_mem_values h hresult with ⟨rule, -, d, hrule, -⟩
    rcases Rule.exists_of_run_eq_ok hrule with ⟨findings, -, -, hname, -, hviolations⟩
    rw [hviolations] at hv
    rcases List.mem_map.1 hv with ⟨finding, -, rfl⟩
    exact hname.symm

end Audit

namespace Batch

/-! ## Outcomes -/

/-- There is no markup to be audited. -/
def Task.lacksMarkup (task : Task) : Bool :=
  task.markup.kind = .null

section

variable (registry : Registry) (s : Settings) (choices : List Choice)

/-- What a single scan of a document gives. -/
def Task.scan (task : Task) : Except Fault ScanReport := do
  let d ← Document.parse s.parser task.source task.markup
  Audit.scan registry s (.document d) (.ok choices)

/-- The failure of the single scan, if there is markup to be scanned. -/
def Task.failure? (task : Task) : Option Failed :=
  match task.scan registry s choices with
  | .error fault => if task.lacksMarkup then none else some ⟨task.source, fault.message⟩
  | .ok _ => none

/-- The report of the single scan, without the places of the elements. -/
def Task.report? (task : Task) : Option ScanReport :=
  match task.scan registry s choices with
  | .ok report => if task.lacksMarkup then none else some report.detached
  | .error _ => none

end

section

variable {registry : Registry} {s : Settings} {choices : List Choice}

/-- A worker hands over what a single scan of the document gives. -/
theorem work_eq {categories : List Category} (hselect : Choice.select choices = .ok categories)
    (task : Task) :
    work registry s categories task =
      if task.lacksMarkup then .skipped
      else match task.scan registry s choices with
        | .ok report => .ofReport task.source report
        | .error fault => .failed task.source fault.message := by
  have haudit : audit registry s categories task = task.scan registry s choices := by
    simp [audit, Task.scan, Audit.scan, Audit.Input.read, hselect, bind, Except.bind]
  rcases task with ⟨source, markup⟩
  cases hscan : Task.scan registry s choices ⟨source, markup⟩ <;> cases markup <;>
    simp [work, Task.lacksMarkup, Value.kind, haudit, hscan]

theorem report_of_taskScan {task : Task} {report : ScanReport}
    (h : task.scan registry s choices = .ok report) :
    report.source = task.source ∧ report.Consistent := by
  rcases exists_of_bind_eq_ok h with ⟨d, hparse, hscan⟩
  have hsource : report.source = d.source := Audit.source_of_scan hscan
  exact ⟨hsource.trans (Document.source_of_parse hparse), Audit.consistent_of_scan hscan⟩

end

/-! ## Rows -/

theorem ofReport_detached (source : String) (report : ScanReport) :
    ExportRow.ofReport source report.detached = ExportRow.ofReport source report := by
  have hresult : ∀ result, ExportRow.ofResult source result.detached =
      ExportRow.ofResult source result := by
    intro result
    simp [ExportRow.ofResult, RuleResult.detached, Violation.detached, Function.comp_def]
  simp [ExportRow.ofReport, ScanReport.values_detached, List.flatMap_map, hresult]

theorem ofReport_eq_nil_iff {report : ScanReport} (h : report.Consistent) (source : String) :
    ExportRow.ofReport source report = [] ↔ report.passed = true := by
  have hresult : ∀ result ∈ report.results.values,
      ExportRow.ofResult source result ≠ [] := by
    intro result hmem
    simpa [ExportRow.ofResult] using h.violated result hmem
  constructor
  · intro hnil
    rw [ExportRow.ofReport, List.flatMap_eq_nil_iff] at hnil
    have hvalues : report.results.values = [] :=
      List.eq_nil_iff_forall_not_mem.2 fun result hmem => hresult result hmem (hnil result hmem)
    simpa [ScanReport.passed, Keyed.values] using hvalues
  · intro hpassed
    have hentries : report.results.entries = [] := by simpa [ScanReport.passed] using hpassed
    simp [ExportRow.ofReport, Keyed.values, hentries]

/-- A tally of results counts the rows of each category and rule. -/
theorem count_foldl_results (source : String) (key : Category × String)
    {results : List RuleResult} (hown : ∀ result ∈ results, ∀ v ∈ result.violations,
      v.rule = result.rule) (tally : RuleTally) :
    (results.foldl (fun tally result =>
        Tally.add tally (result.category, result.rule) result.violations.length) tally).count key =
      tally.count key + (results.flatMap (ExportRow.ofResult source)).countP
        fun row => (row.category, row.rule) = key := by
  induction results generalizing tally with
  | nil => simp
  | cons result rest ih =>
    have hrest := ih (fun r hr => hown r (List.mem_cons_of_mem _ hr))
      (Tally.add tally (result.category, result.rule) result.violations.length)
    have hrows : ∀ row ∈ ExportRow.ofResult source result,
        (row.category, row.rule) = (result.category, result.rule) := by
      intro row hrow
      rcases List.mem_map.1 hrow with ⟨v, hv, rfl⟩
      simp [hown result List.mem_cons_self v hv]
    -- All rows of a result count for its own rule and for no other.
    by_cases hkey : (result.category, result.rule) = key
    · have hall : (ExportRow.ofResult source result).countP
          (fun row => (row.category, row.rule) = key) = result.violations.length := by
        rw [List.countP_eq_length.2 fun row hrow => by simpa using (hrows row hrow).trans hkey]
        simp [ExportRow.ofResult]
      rw [List.foldl_cons, hrest, List.flatMap_cons, List.countP_append, hall, ← hkey,
        Tally.count_add_self]
      omega
    · have hnone : (ExportRow.ofResult source result).countP
          (fun row => (row.category, row.rule) = key) = 0 :=
        List.countP_eq_zero.2 fun row hrow => by
          simpa [hrows row hrow] using hkey
      rw [List.foldl_cons, hrest, List.flatMap_cons, List.countP_append, hnone,
        Tally.count_add_of_ne tally (Ne.symm hkey)]
      omega

theorem count_tallyOf {report : ScanReport} (h : report.Consistent) (source : String)
    (key : Category × String) :
    (tallyOf report).count key = (ExportRow.ofReport source report).countP
      fun row => (row.category, row.rule) = key := by
  have hempty : Tally.count (Keyed.empty : RuleTally) key = 0 := rfl
  have hcount := count_foldl_results source key h.own Keyed.empty
  rw [hempty, Nat.zero_add] at hcount
  exact hcount

/-! ## Batches under way -/

/-- A batch under way accounts for the documents it has been through. -/
structure Accounts (registry : Registry) (s : Settings) (choices : List Choice)
    (tasks : List Task) (progress : Progress) : Prop where
  reports : progress.findings.reports = tasks.filterMap (Task.report? registry s choices)
  failures : progress.findings.failures = tasks.filterMap (Task.failure? registry s choices)
  skipped : progress.skipped = tasks.countP Task.lacksMarkup
  rows : progress.findings.rows =
    progress.findings.reports.flatMap fun report => ExportRow.ofReport report.source report
  tally : ∀ key, progress.findings.tally.count key =
    progress.findings.rows.countP fun row => (row.category, row.rule) = key
  issues : progress.issues = progress.findings.rows.length
  documentsWithIssues : progress.documentsWithIssues =
    progress.findings.reports.countP fun report => !report.passed

section

variable {registry : Registry} {s : Settings} {choices : List Choice} {tasks : List Task}
  {progress : Progress}

theorem accounts_start : Accounts registry s choices [] Progress.start where
  reports := rfl
  failures := rfl
  skipped := rfl
  rows := rfl
  tally _ := rfl
  issues := rfl
  documentsWithIssues := rfl

/-- A report that is taken up is accounted for, whether it is passed or not. -/
theorem Accounts.addAudited (h : Accounts registry s choices tasks progress) {task : Task}
    {report : ScanReport} (hmarkup : task.lacksMarkup = false)
    (hscan : task.scan registry s choices = .ok report) :
    Accounts registry s choices (tasks ++ [task])
      (progress.addAudited report.detached (ExportRow.ofReport task.source report)
        (tallyOf report)) := by
  rcases report_of_taskScan hscan with ⟨hsource, hconsistent⟩
  have hrows : ExportRow.ofReport report.detached.source report.detached =
      ExportRow.ofReport task.source report := by
    have hdetached : report.detached.source = task.source := hsource
    rw [hdetached, ofReport_detached]
  have hreport : task.report? registry s choices = some report.detached := by
    simp [Task.report?, hscan, hmarkup]
  have hfailure : task.failure? registry s choices = none := by simp [Task.failure?, hscan]
  have hnil := ofReport_eq_nil_iff hconsistent task.source
  by_cases hpassed : report.passed = true
  · -- Nothing but the report is added.
    have hempty : ExportRow.ofReport task.source report = [] := hnil.2 hpassed
    have hpassed' : report.detached.passed = true := by
      rw [ScanReport.passed_detached, hpassed]
    simp only [Progress.addAudited, hempty, List.isEmpty_nil, if_true]
    exact {
      reports := by simp [h.reports, hreport]
      failures := by simp [h.failures, hfailure]
      skipped := by simp [h.skipped, hmarkup]
      rows := by simp [h.rows, hrows, hempty]
      tally := h.tally
      issues := h.issues
      documentsWithIssues := by simp [h.documentsWithIssues, hpassed'] }
  · have hsome : (ExportRow.ofReport task.source report).isEmpty = false := by
      simpa using fun hempty => hpassed (hnil.1 hempty)
    have hpassed' : report.detached.passed = false := by
      simpa [ScanReport.passed_detached] using hpassed
    simp only [Progress.addAudited, hsome]
    exact {
      reports := by simp [h.reports, hreport]
      failures := by simp [h.failures, hfailure]
      skipped := by simp [h.skipped, hmarkup]
      rows := by simp [h.rows, hrows]
      tally := by
        intro key
        simp [Tally.count_addAll, h.tally key, count_tallyOf hconsistent task.source key]
      issues := by simp [h.issues]
      documentsWithIssues := by simp [h.documentsWithIssues, hpassed'] }

/-- Whatever becomes of a further document, it is accounted for. -/
theorem Accounts.add {categories : List Category} (h : Accounts registry s choices tasks progress)
    (hselect : Choice.select choices = .ok categories) (task : Task) :
    ∃ next, progress.add (work registry s categories task) = .ok next ∧
      Accounts registry s choices (tasks ++ [task]) next := by
  have hwork : work registry s categories task = _ := work_eq hselect task
  cases hmarkup : task.lacksMarkup with
  | true =>
    have hreport : task.report? registry s choices = none := by
      cases hscan : task.scan registry s choices <;> simp [Task.report?, hscan, hmarkup]
    have hfailure : task.failure? registry s choices = none := by
      cases hscan : task.scan registry s choices <;> simp [Task.failure?, hscan, hmarkup]
    refine ⟨{ progress with skipped := progress.skipped + 1 }, ?_, ?_⟩
    · simp [hwork, hmarkup, Progress.add]
    · exact { h with
        reports := by simp [h.reports, hreport]
        failures := by simp [h.failures, hfailure]
        skipped := by simp [h.skipped, hmarkup] }
  | false =>
    cases hscan : task.scan registry s choices with
    | error fault =>
      have hreport : task.report? registry s choices = none := by simp [Task.report?, hscan]
      have hfailure : task.failure? registry s choices = some ⟨task.source, fault.message⟩ := by
        simp [Task.failure?, hscan, hmarkup]
      refine ⟨_, by simp [hwork, hmarkup, hscan, Progress.add]; rfl, ?_⟩
      exact { h with
        reports := by simp [h.reports, hreport]
        failures := by simp [h.failures, hfailure]
        skipped := by simp [h.skipped, hmarkup] }
    | ok report =>
      refine ⟨_, ?_, h.addAudited hmarkup hscan⟩
      simp [hwork, hmarkup, hscan, Progress.add, Delivery.ofReport, ScanReport.read,
        ScanReport.ofValue?_toValue]

/-- A batch goes through all its documents and accounts for all of them. -/
theorem Accounts.addAll {categories : List Category}
    (h : Accounts registry s choices tasks progress)
    (hselect : Choice.select choices = .ok categories) (rest : List Task) :
    ∃ final, progress.addAll (rest.map (work registry s categories)) = (final, none) ∧
      Accounts registry s choices (tasks ++ rest) final := by
  induction rest generalizing tasks progress with
  | nil => exact ⟨progress, rfl, by simpa using h⟩
  | cons task rest ih =>
    rcases h.add hselect task with ⟨next, hnext, hadded⟩
    rcases ih hadded with ⟨final, hfinal, haccounts⟩
    refine ⟨final, ?_, by simpa using haccounts⟩
    simp [Progress.addAll, hnext, hfinal]

end

end Batch

end MarkupAudit
