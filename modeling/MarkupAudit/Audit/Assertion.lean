import MarkupAudit.Audit.Basic
import MarkupAudit.Text.Split

/-!
# Assertions

An assertion demands that a document violates no rule. It fails with the result of the first rule
that is violated, and the rules after that one are not run.
-/

namespace MarkupAudit.Audit

/-- Why an assertion fails. -/
inductive Failure where
  | fault (fault : Fault)
  | violated (result : RuleResult)

/-- What a failing assertion says: the message of the violated rule, or the wording of the fault. -/
def Failure.message : Failure → String
  | .fault cause => cause.message
  | .violated result => result.message

def demand : Except Fault RuleResult → Except Failure RuleResult
  | .ok result => if result.passed then .ok result else .error (.violated result)
  | .error fault => .error (.fault fault)

def assert (registry : Registry) (s : Settings) (name : String) (input : Input) :
    Except Failure RuleResult :=
  demand (check registry s name input)

def demandAll (s : Settings) (d : Document) : List Rule → Except Failure Unit
  | [] => .ok ()
  | rule :: rest =>
    match demand (rule.run s d) with
    | .ok _ => demandAll s d rest
    | .error failure => .error failure

def assertCategories (registry : Registry) (s : Settings) (categories : List Category)
    (input : Input) : Except Failure Unit :=
  match input.read s with
  | .ok d => demandAll s d (registry.ofCategories categories)
  | .error fault => .error (.fault fault)

/-- The categories that can be asserted together: a single one, or all. -/
def assertedSelections : List (List Category) :=
  Category.all.map (fun category => [category]) ++ [Category.all]

/-! ## Entries by name -/

def checkMark : String := "check_"

def assertionMark : String := "assert_"

/-- The rest of a name after a mark, if a rule has that name. -/
def ruleBehind? (registry : Registry) (mark name : String) : Option String :=
  let rest := Text.dropFirst mark.length name
  if Text.beginsWith mark name ∧ registry.knows rest then some rest else none

def call (registry : Registry) (s : Settings) (name : String) (input : Input) :
    Except Failure RuleResult :=
  match ruleBehind? registry checkMark name with
  | some rule =>
    match check registry s rule input with
    | .ok result => .ok result
    | .error fault => .error (.fault fault)
  | none =>
    match ruleBehind? registry assertionMark name with
    | some rule => assert registry s rule input
    | none => .error (.fault (.unknownCheck name))

end MarkupAudit.Audit
