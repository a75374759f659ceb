import MarkupAudit.Data.Tally
import MarkupAudit.Rule.Basic

/-!
# Reports

What is told about a document: the violations that each rule found, and the report of a whole scan,
which keeps the results of the rules that were violated. A report is accounted by category.

Main statement: a result without the places of its elements has as many violations
(`RuleResult.length_violations_detached`).
-/

namespace MarkupAudit

/-- A finding of a rule, with what is told about its element. -/
structure Violation where
  rule : String
  message : String
  /-- The place of the element, for as long as its document is at hand. -/
  subject : Option Place
  tagName : String
  identifier : String

namespace Violation

def ofFinding (rule : String) (finding : Finding) : Violation where
  rule := rule
  message := finding.message
  subject := finding.subject
  tagName := (finding.subject.map fun p => p.element.upperTag).getD ""
  identifier := (finding.subject.map fun p => Text.trim p.element.identifier).getD ""

/-- The violation without the place of its element. -/
def detached (v : Violation) : Violation :=
  { v with subject := none }

end Violation

/-- What a rule found in a document. -/
structure RuleResult where
  rule : String
  category : Category
  violations : List Violation
  message : String

namespace RuleResult

/-- The rule found nothing. -/
def passed (result : RuleResult) : Bool :=
  result.violations.isEmpty

/-- The result without the places of the elements. -/
def detached (result : RuleResult) : RuleResult :=
  { result with violations := result.violations.map Violation.detached }

theorem length_violations_detached (result : RuleResult) :
    result.detached.violations.length = result.violations.length := by
  simp [detached]

end RuleResult

/-- What the rules of some categories found in a document: the results of those that are violated,
by the name of the rule. -/
structure ScanReport where
  source : String
  categories : List Category
  rulesRun : Int
  results : Keyed String RuleResult

namespace ScanReport

def passed (report : ScanReport) : Bool :=
  report.results.entries.isEmpty

def violations (report : ScanReport) : List Violation :=
  report.results.values.flatMap RuleResult.violations

def byCategory (report : ScanReport) (category : Category) : List RuleResult :=
  report.results.values.filter fun result => result.category == category

/-- How many violations each category has. The categories of the report come first, those that only
its results have come after them. -/
def summary (report : ScanReport) : Tally Category :=
  report.results.values.foldl
    (fun tally result => Tally.add tally result.category result.violations.length)
    (Keyed.ofList (report.categories.map fun category => (category, 0)))

def rendered (report : ScanReport) : String :=
  Text.join "\n\n" (report.results.values.map RuleResult.message)

/-- The report without the places of the elements. -/
def detached (report : ScanReport) : ScanReport where
  source := report.source
  categories := report.categories
  rulesRun := report.rulesRun
  results := report.results.map RuleResult.detached

end ScanReport

end MarkupAudit
