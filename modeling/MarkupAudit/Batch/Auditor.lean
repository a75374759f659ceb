import MarkupAudit.Batch.Worker

/-!
# Auditors

An auditor audits batches of documents, one after another, and keeps what the last batch gave: the
reports, the rows to be exported, the failures, and how many violations each rule has. Each batch
starts afresh. What is written to the log along the way is left out.

Main statements: a batch that cannot be prepared leaves everything as it was
(`run_of_unprepared`), and one that has too few workers leaves nothing (`run_of_no_workers`).
-/

namespace MarkupAudit.Batch

/-- A document at which an audit failed. -/
structure Failed where
  source : String
  message : String
  deriving DecidableEq, Repr

/-- What a batch gives. -/
structure Findings where
  reports : List ScanReport
  rows : List ExportRow
  failures : List Failed
  tally : RuleTally
  deriving Inhabited

def Findings.empty : Findings := ⟨[], [], [], .empty⟩

/-- The figures of a batch. -/
structure Totals where
  documents : Nat
  documentsWithIssues : Nat
  issues : Nat
  failed : Nat
  skipped : Nat
  deriving DecidableEq, Repr

/-- A batch under way: what it has given so far, and the counts that are kept along the way. -/
structure Progress where
  findings : Findings
  documentsWithIssues : Nat
  issues : Nat
  skipped : Nat

namespace Progress

def start : Progress := ⟨.empty, 0, 0, 0⟩

def addAudited (progress : Progress) (report : ScanReport) (rows : List ExportRow)
    (tally : RuleTally) : Progress :=
  let found := { progress.findings with reports := progress.findings.reports ++ [report] }
  if rows.isEmpty then { progress with findings := found }
  else
    { progress with
      findings :=
        { found with rows := found.rows ++ rows, tally := found.tally.addAll tally }
      documentsWithIssues := progress.documentsWithIssues + 1
      issues := progress.issues + rows.length }

def add (progress : Progress) : Delivery → Except Fault Progress
  | .skipped => .ok { progress with skipped := progress.skipped + 1 }
  | .failed source message =>
    .ok { progress with
      findings :=
        { progress.findings with
          failures := progress.findings.failures ++ [⟨source, message⟩] } }
  | .audited report rows tally =>
    match ScanReport.read report with
    | .ok report => .ok (progress.addAudited report rows tally)
    | .error fault => .error fault

/-- The batch after some deliveries, or as it was before the first that cannot be read, with the
fault. -/
def addAll (progress : Progress) : List Delivery → Progress × Option Fault
  | [] => (progress, none)
  | delivery :: rest =>
    match progress.add delivery with
    | .ok progress => progress.addAll rest
    | .error fault => (progress, some fault)

def totals (progress : Progress) (documents : Nat) : Totals where
  documents := documents
  documentsWithIssues := progress.documentsWithIssues
  issues := progress.issues
  failed := progress.findings.failures.length
  skipped := progress.skipped

end Progress

/-- What is told while a batch is under way: after each document, how many are done and how many
there are. -/
def Totals.steps (totals : Totals) : List (Nat × Nat) :=
  (List.range totals.documents).map fun done => (done + 1, totals.documents)

def workerCount (s : Settings) (asked : Value) : Except Fault Int :=
  (if asked.truthy then asked else s.workers).toInteger

/-- What audits batches. -/
structure Auditor where
  categories : List Category
  findings : Findings

namespace Auditor

/-- An auditor of the chosen categories that has audited nothing. -/
def ofChoices (choices : Except Fault (List Choice)) : Except Fault Auditor := do
  return ⟨← Choice.select (← choices), .empty⟩

def prepare (s : Settings) (sources : Sources) (workers : Value) :
    Except Fault (List Task × Int) := do
  let tasks ← sources.tasks
  let count ← workerCount s workers
  return (tasks, count)

/-- Audits a batch. Deliveries are taken in the order of the tasks. -/
def run (registry : Registry) (s : Settings) (auditor : Auditor) (sources : Sources)
    (workers : Value) : Auditor × Except Fault Totals :=
  match prepare s sources workers with
  | .error fault => (auditor, .error fault)
  | .ok (tasks, count) =>
    -- What the last batch gave is gone before the number of workers is looked at.
    if count < 1 then ({ auditor with findings := .empty }, .error .noWorkers)
    else
      let deliveries := tasks.map (work registry s auditor.categories)
      let (progress, fault) := Progress.start.addAll deliveries
      let after := { auditor with findings := progress.findings }
      match fault with
      | none => (after, .ok (progress.totals tasks.length))
      | some fault => (after, .error fault)

/-- How many violations each rule has: category by category in the order of the auditor's, the most
frequent rule first, equally frequent ones in the order in which they came up. -/
def summary (auditor : Auditor) : List (Category × String × Nat) :=
  auditor.categories.flatMap fun category =>
    (Tally.falling (auditor.findings.tally.entries.filter fun entry =>
      entry.1.1 == category)).map fun entry => (category, entry.1.2, entry.2)

theorem prepare_of_workers_fault {s : Settings} {sources : Sources} {workers : Value}
    {tasks : List Task} {fault : Fault} (htasks : sources.tasks = .ok tasks)
    (h : workerCount s workers = .error fault) : prepare s sources workers = .error fault := by
  simp [prepare, htasks, h, bind, Except.bind]

theorem prepare_of_ok {s : Settings} {sources : Sources} {workers : Value} {tasks : List Task}
    {count : Int} (htasks : sources.tasks = .ok tasks) (h : workerCount s workers = .ok count) :
    prepare s sources workers = .ok (tasks, count) := by
  simp [prepare, htasks, h, bind, Except.bind, pure, Except.pure]

/-- A batch that cannot be prepared leaves everything as it was. -/
theorem run_of_unprepared {registry : Registry} {s : Settings} {auditor : Auditor}
    {sources : Sources} {workers : Value} {fault : Fault}
    (h : prepare s sources workers = .error fault) :
    auditor.run registry s sources workers = (auditor, .error fault) := by
  simp [run, h]

/-- A batch that has too few workers leaves nothing. -/
theorem run_of_no_workers {registry : Registry} {s : Settings} {auditor : Auditor}
    {sources : Sources} {workers : Value} {tasks : List Task} {count : Int}
    (h : prepare s sources workers = .ok (tasks, count)) (hfew : count < 1) :
    auditor.run registry s sources workers =
      ({ auditor with findings := .empty }, .error .noWorkers) := by
  simp [run, h, hfew]

/-- A batch that is prepared and has workers gives what its deliveries come to. -/
theorem run_of_progress {registry : Registry} {s : Settings} {auditor : Auditor}
    {sources : Sources} {workers : Value} {tasks : List Task} {count : Int} {final : Progress}
    (h : prepare s sources workers = .ok (tasks, count)) (henough : ¬ count < 1)
    (htaken : Progress.start.addAll (tasks.map (work registry s auditor.categories)) =
      (final, none)) :
    auditor.run registry s sources workers =
      ({ auditor with findings := final.findings }, .ok (final.totals tasks.length)) := by
  simp [run, h, henough, htaken]

/-- A batch that gives totals was prepared and has gone through all its deliveries. -/
theorem exists_of_run_eq_ok {registry : Registry} {s : Settings} {auditor after : Auditor}
    {sources : Sources} {workers : Value} {totals : Totals}
    (h : auditor.run registry s sources workers = (after, .ok totals)) :
    ∃ (tasks : List Task) (final : Progress),
      Progress.start.addAll (tasks.map (work registry s auditor.categories)) = (final, none) ∧
        after = { auditor with findings := final.findings } ∧
        totals = final.totals tasks.length := by
  rw [run] at h
  split at h
  · cases h
  · next tasks count _ =>
    split at h
    · cases h
    · cases htaken : Progress.start.addAll (tasks.map (work registry s auditor.categories)) with
      | mk final fault =>
        cases fault with
        | some fault =>
          simp only [htaken] at h
          cases h
        | none =>
          simp only [htaken] at h
          cases h
          exact ⟨tasks, final, htaken, rfl, rfl⟩

end Auditor

end MarkupAudit.Batch
