import MarkupAudit.Fault
import MarkupAudit.Number.Binary
import MarkupAudit.Number.Integer
import MarkupAudit.Report.Basic
import MarkupAudit.Text.Split

/-!
# Reports as data

A report is handed over as a value made of objects, lists, texts and numbers, and read back from it.
The places of elements are not handed over. Reading is strict: a field that is missing without a
default, or that holds another kind of value, makes the whole value unreadable; fields that a report
does not have are passed over.

Main statement: a report that is handed over is read back, all but the places of its elements
(`ScanReport.ofValue?_toValue`).
-/

namespace MarkupAudit

/-! ## Handing over -/

def Violation.toValue (v : Violation) : Value :=
  .object [("rule", .str v.rule), ("message", .str v.message), ("tag_name", .str v.tagName),
    ("identifier", .str v.identifier)]

def RuleResult.toValue (result : RuleResult) : Value :=
  .object [("rule", .str result.rule), ("category", .str result.category.name),
    ("violations", .list (result.violations.map Violation.toValue)),
    ("message", .str result.message)]

def ScanReport.toValue (report : ScanReport) : Value :=
  .object [("source", .str report.source),
    ("categories", .list (report.categories.map fun category => .str category.name)),
    ("rules_run", .int report.rulesRun),
    ("results", .object (report.results.entries.map fun entry => (entry.1, entry.2.toValue)))]

/-! ## Reading back -/

namespace Value

def text? : Value → Option String
  | .str s => some s
  | _ => none

def fields? : Value → Option (List (String × Value))
  | .object fields => some fields
  | _ => none

def list? {α : Type} (read : Value → Option α) : Value → Option (List α)
  | .list items => items.mapM read
  | _ => none

/-- A category, by its exact name. -/
def category? (v : Value) : Option Category :=
  v.text?.bind Category.ofName?

def required {α : Type} (read : Value → Option α) (name : String)
    (fields : List (String × Value)) : Option α :=
  (field? name fields).bind read

def optional {α : Type} (read : Value → Option α) (default : α) (name : String)
    (fields : List (String × Value)) : Option α :=
  match field? name fields with
  | some v => read v
  | none => some default

def isWhole : List Char → Bool
  | [] => false
  | [c] => c.isDigit
  | c :: '_' :: rest => c.isDigit && isWhole rest
  | c :: rest => c.isDigit && isWhole rest

/-- The text in front of a fraction that is made of zeros, one at least, or the whole text if there
is no point in it. -/
def wholePart? (cs : List Char) : Option (List Char) :=
  match Chars.after? '.' cs with
  | none => some cs
  | some zeros =>
    if !zeros.isEmpty && zeros.all (· == '0') then some (Chars.before '.' cs) else none

/-- The digits of a whole number, without the low lines between them. -/
def wholeDigits? (cs : List Char) : Option (List Char) :=
  if isWhole cs then some (cs.filter Char.isDigit) else none

def ofPlainDigits (digits : List Char) : Nat :=
  Number.ofDigits (digits.map fun c => c.toNat - '0'.toNat)

/-- The text without leading zeros, among which low lines may stand in any number. One zero is left
in front of anything but a digit or a minus sign, and no low line may stand behind it. -/
def withoutLeadingZeros? (cs : List Char) : Option (List Char) :=
  if cs.head? = some '0' then
    let zeros := cs.takeWhile fun c => c = '0' || c = '_'
    let rest := cs.drop zeros.length
    if rest.head?.any fun c => c.isDigit || c = '-' then some rest
    else if zeros.getLast? = some '0' then some ('0' :: rest)
    else none
  else some cs

/-- The size of a whole number of so many digits at most. -/
def magnitude? (limit : Nat) (cs : List Char) : Option Nat := do
  let digits ← wholeDigits? cs
  if digits.length ≤ limit then some (ofPlainDigits digits) else none

/-- The size of a number behind a minus sign that follows leading zeros. No zeros may lead again,
but a low line may follow the sign. -/
def lateMagnitude? (limit : Nat) (cs : List Char) : Option Nat :=
  let body := if cs.head? = some '_' then cs.drop 1 else cs
  if body.head? = some '0' ∧ body ≠ ['0'] then none else magnitude? limit body

/-- How many digits a number may have behind a minus sign, which takes the place of one. -/
def negativeLimit : Nat := Number.digitLimit - 1

/-- A whole number without a minus sign in front of it. Leading zeros do not count among its digits,
and a minus sign may stand behind them. -/
def unsigned? (cs : List Char) : Option Int := do
  match ← wholePart? (← withoutLeadingZeros? cs) with
  | '-' :: body =>
    if cs.head? = some '0' then (lateMagnitude? negativeLimit body).map fun n => -(n : Int)
    else none
  | body => (magnitude? Number.digitLimit body).map Int.ofNat

def negated? (cs : List Char) : Option Int := do
  let body ← wholePart? (← withoutLeadingZeros? cs)
  (magnitude? negativeLimit body).map fun n => -(n : Int)

def wholeNumber? (s : String) : Option Int :=
  match Number.unpadded s.toList with
  | '-' :: body => negated? body
  | '+' :: body => unsigned? body
  | body => unsigned? body

/-- A floating point number beyond this is not taken for a count. -/
def countBound : Int := Nat.pow 2 63

/-- A count: a whole number in any of its forms. -/
def count? : Value → Option Int
  | .int n => some n
  | .bool b => some (if b then 1 else 0)
  | .str s => wholeNumber? s
  | .float f =>
    match Number.integerPart f with
    | .ok n =>
      if Number.compareFloatInt f n = some .eq ∧ n.natAbs < countBound.natAbs then some n else none
    | .error _ => none
  | _ => none

end Value

/-- Whether a value can stand for the element of a violation: nothing, or an element with its tag.
-/
def Value.element? : Value → Option Unit
  | .null => some ()
  | .object fields => (Value.required Value.text? "tag" fields).map fun _ => ()
  | _ => none

/-- A violation read from data. An element is looked at, but not kept. -/
def Violation.ofValue? (v : Value) : Option Violation := do
  let fields ← v.fields?
  Value.optional Value.element? () "element" fields
  return {
    rule := ← Value.required Value.text? "rule" fields
    message := ← Value.required Value.text? "message" fields
    subject := none
    tagName := ← Value.optional Value.text? "" "tag_name" fields
    identifier := ← Value.optional Value.text? "" "identifier" fields }

def RuleResult.ofValue? (v : Value) : Option RuleResult := do
  let fields ← v.fields?
  return {
    rule := ← Value.required Value.text? "rule" fields
    category := ← Value.required Value.category? "category" fields
    violations := ← Value.optional (Value.list? Violation.ofValue?) [] "violations" fields
    message := ← Value.optional Value.text? "" "message" fields }

def RuleResult.tableOfValue? (v : Value) : Option (Keyed String RuleResult) := do
  let fields ← v.fields?
  let entries ← fields.mapM fun field => (RuleResult.ofValue? field.2).map fun r => (field.1, r)
  return .ofList entries

def ScanReport.ofValue? (v : Value) : Option ScanReport := do
  let fields ← v.fields?
  return {
    source := ← Value.optional Value.text? "" "source" fields
    categories := ← Value.optional (Value.list? Value.category?) [] "categories" fields
    rulesRun := ← Value.optional Value.count? 0 "rules_run" fields
    results := ← Value.optional RuleResult.tableOfValue? .empty "results" fields }

def ScanReport.read (v : Value) : Except Fault ScanReport :=
  match ScanReport.ofValue? v with
  | some report => .ok report
  | none => .error .invalidReport

/-! ## What is handed over is read back -/

/-- A list whose items are read back is read back. -/
theorem Value.list?_map {α β : Type} {read : Value → Option β} {write : α → Value} {f : α → β}
    (h : ∀ a, read (write a) = some (f a)) (items : List α) :
    Value.list? read (.list (items.map write)) = some (items.map f) := by
  unfold Value.list?
  induction items with
  | nil => rfl
  | cons a rest ih =>
    simp only at ih
    simp [List.mapM_cons, h, ih]

theorem Violation.ofValue?_toValue (v : Violation) : ofValue? v.toValue = some v.detached := rfl

theorem RuleResult.ofValue?_toValue (result : RuleResult) :
    ofValue? result.toValue = some result.detached := by
  have hviolations := Value.list?_map Violation.ofValue?_toValue result.violations
  have hcategory : Value.category? (.str result.category.name) = some result.category :=
    Category.ofName?_name result.category
  simp [ofValue?, toValue, Value.fields?, Value.required, Value.optional, Value.field?,
    List.lookup_cons, hviolations, hcategory, Value.text?, detached]

theorem RuleResult.tableOfValue?_toValue (results : Keyed String RuleResult) :
    tableOfValue? (.object (results.entries.map fun entry => (entry.1, entry.2.toValue))) =
      some (results.map detached) := by
  have hread : ∀ entries : List (String × RuleResult),
      (entries.map fun entry => (entry.1, entry.2.toValue)).mapM
        (fun field => (ofValue? field.2).map fun r => (field.1, r)) =
        some (entries.map fun entry => (entry.1, entry.2.detached)) := by
    intro entries
    induction entries with
    | nil => rfl
    | cons entry rest ih => simp [List.mapM_cons, RuleResult.ofValue?_toValue, ih]
  simp only [tableOfValue?, Value.fields?, hread, bind, Option.bind, pure]
  exact congrArg some (Keyed.ofList_entries (results.map detached))

/-- A report that is handed over is read back without the places of its elements. -/
theorem ScanReport.ofValue?_toValue (report : ScanReport) :
    ofValue? report.toValue = some report.detached := by
  have hcategories : Value.list? Value.category?
      (.list (report.categories.map fun category => .str category.name)) =
        some report.categories := by
    have hread : ∀ category : Category,
        Value.category? (.str category.name) = some (id category) := Category.ofName?_name
    simpa using Value.list?_map hread report.categories
  have hresults := RuleResult.tableOfValue?_toValue report.results
  simp [ofValue?, toValue, Value.fields?, Value.optional, Value.field?, List.lookup_cons,
    hcategories, hresults, Value.text?, Value.count?, detached]

end MarkupAudit
