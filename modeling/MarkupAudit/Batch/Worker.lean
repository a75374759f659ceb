import MarkupAudit.Audit.Basic
import MarkupAudit.Batch.Task
import MarkupAudit.Report.Data

/-!
# Workers

A worker audits one document and hands over plain data: the report, a row for each violation, and
how many violations each rule has. A document at which the audit fails is handed over with the
wording of the fault.
-/

namespace MarkupAudit.Batch

/-- A violation as it is exported. -/
structure ExportRow where
  source : String
  category : Category
  rule : String
  tagName : String
  identifier : String
  message : String
  deriving DecidableEq, Repr

namespace ExportRow

def columns : List String := ["Source", "Category", "Rule", "Tag", "Element", "Message"]

def cells (row : ExportRow) : List String :=
  [row.source, row.category.name, row.rule, row.tagName, row.identifier, row.message]

def ofResult (source : String) (result : RuleResult) : List ExportRow :=
  result.violations.map fun v =>
    { source
      category := result.category
      rule := v.rule
      tagName := v.tagName
      identifier := v.identifier
      message := v.message }

def ofReport (source : String) (report : ScanReport) : List ExportRow :=
  report.results.values.flatMap (ofResult source)

end ExportRow

/-- Counts by category and rule. -/
abbrev RuleTally := Tally (Category × String)

def tallyOf (report : ScanReport) : RuleTally :=
  report.results.values.foldl
    (fun tally result => Tally.add tally (result.category, result.rule) result.violations.length)
    .empty

/-- What a worker hands over. -/
inductive Delivery where
  | skipped
  | failed (source message : String)
  | audited (report : Value) (rows : List ExportRow) (tally : RuleTally)

def Delivery.ofReport (source : String) (report : ScanReport) : Delivery :=
  .audited report.toValue (ExportRow.ofReport source report) (tallyOf report)

def audit (registry : Registry) (s : Settings) (categories : List Category) (task : Task) :
    Except Fault ScanReport := do
  let d ← Document.parse s.parser task.source task.markup
  Audit.scanDocument registry s d categories

def work (registry : Registry) (s : Settings) (categories : List Category) (task : Task) :
    Delivery :=
  match task.markup with
  | .null => .skipped
  | _ =>
    match audit registry s categories task with
    | .ok report => .ofReport task.source report
    | .error fault => .failed task.source fault.message

end MarkupAudit.Batch
