import MarkupAudit.Report.Basic
import MarkupAudit.Report.Wording
import MarkupAudit.Rule.Registry
import MarkupAudit.Rule.Selection
import MarkupAudit.Settings.Readers

/-!
# Audits

A rule is run on a document and gives a result; a scan runs the rules of some categories and reports
the results of those that are violated.

Main statements: what the result of a rule shows (`exists_of_run_eq_ok`); a rule that finds nothing
tells nothing (`message_of_passed`).
-/

namespace MarkupAudit

def Rule.run (rule : Rule) (s : Settings) (d : Document) : Except Fault RuleResult := do
  let findings ← rule.check s d
  let violations := findings.map (Violation.ofFinding rule.name)
  let message ← Wording.tell rule.style rule.summary rule.name (violations.map (·.message))
  return { rule := rule.name, category := rule.category, violations, message }

/-- A result shows the findings of the check and what is told about them. -/
theorem Rule.exists_of_run_eq_ok {rule : Rule} {s : Settings} {d : Document} {result : RuleResult}
    (h : rule.run s d = .ok result) :
    ∃ findings, rule.check s d = .ok findings ∧
      Wording.tell rule.style rule.summary rule.name (findings.map Finding.message) =
        .ok result.message ∧
      result.rule = rule.name ∧ result.category = rule.category ∧
      result.violations = findings.map (Violation.ofFinding rule.name) := by
  rcases exists_of_bind_eq_ok h with ⟨findings, hcheck, hrest⟩
  rcases exists_of_bind_eq_ok hrest with ⟨message, htold, hresult⟩
  have hmessages : (findings.map (Violation.ofFinding rule.name)).map (·.message) =
      findings.map Finding.message := by
    simp [Violation.ofFinding, Function.comp_def]
  rw [hmessages] at htold
  cases hresult
  exact ⟨findings, hcheck, htold, rfl, rfl, rfl⟩

/-- A rule that finds nothing tells nothing. -/
theorem Rule.message_of_passed {rule : Rule} {s : Settings} {d : Document} {result : RuleResult}
    (h : rule.run s d = .ok result) (hpassed : result.passed = true) : result.message = "" := by
  rcases Rule.exists_of_run_eq_ok h with ⟨findings, -, htold, -, -, hviolations⟩
  have hnone : findings = [] := by simpa [RuleResult.passed, hviolations] using hpassed
  simpa [hnone, Wording.tell] using htold.symm

namespace Audit

/-- What is to be audited: a document, or a value that should be its markup. -/
inductive Input where
  | document (d : Document)
  | markup (v : Value)

def Input.read (s : Settings) : Input → Except Fault Document
  | .document d => .ok d
  | .markup v => Document.parse s.parser "" v

/-- The result of a rule, which is looked up before the document is read. -/
def check (registry : Registry) (s : Settings) (name : String) (input : Input) :
    Except Fault RuleResult := do
  let rule ← registry.get name
  rule.run s (← input.read s)

/-- The results of rules, one after another. -/
def runAll (s : Settings) (d : Document) (rules : List Rule) : Except Fault (List RuleResult) :=
  rules.mapM fun rule => rule.run s d

def report (source : String) (categories : List Category) (results : List RuleResult) :
    ScanReport where
  source := source
  categories := categories
  rulesRun := results.length
  results := .ofList ((results.filter fun r => !r.passed).map fun r => (r.rule, r))

def scanDocument (registry : Registry) (s : Settings) (d : Document)
    (categories : List Category) : Except Fault ScanReport := do
  return report d.source categories (← runAll s d (registry.ofCategories categories))

/-- The report of the chosen categories. The document is read before the choice is looked at. -/
def scan (registry : Registry) (s : Settings) (input : Input)
    (choices : Except Fault (List Choice)) : Except Fault ScanReport := do
  let d ← input.read s
  let categories ← Choice.select (← choices)
  scanDocument registry s d categories

def ruleNames (registry : Registry) : Option String → Except Fault (List String)
  | none => .ok registry.names
  | some category => do
    return (registry.ofCategory (← Category.resolve category)).map Rule.name

end Audit

end MarkupAudit
