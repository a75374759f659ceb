import MarkupAudit.Data.Value
import MarkupAudit.Markup.Event
import MarkupAudit.Text.Template.Fault

/-!
# Faults

Everything that can keep the library from giving a result, by cause. Defects of an audited document
are not among them: those are findings.

Main statement: two steps succeed one after another only if both do (`exists_of_bind_eq_ok`).
-/

namespace MarkupAudit

/-- Why no result can be given. -/
inductive Fault where
  | missingMarkup
  | markupNotText (kind : Value.Kind)
  | unknownName (name : String)
  | unreadableMarkup (cause : Markup.Fault)
  | unknownParser (wanted : List String)
  | unknownCheck (name : String)
  | template (cause : Text.Template.Fault)
  | number (cause : Number.Fault)
  | notInteger (kind : Value.Kind)
  | notFloating (kind : Value.Kind)
  | notLevel (kind : Value.Kind)
  | unknownLevel (text : String)
  | notIterable (kind : Value.Kind)
  | withoutLength (kind : Value.Kind)
  | notUnpackable (kind : Value.Kind)
  | notComparable (left right : Value.Kind)
  | itemNotText (place : Nat) (kind : Value.Kind)
  | lacksOperation (kind : Value.Kind) (operation : String)
  | tooFewParts (found : Nat)
  | tooManyParts
  /-- What a search counts on is not there. -/
  | nothingFound
  | noContentColumn
  | noWorkers
  | notUnicode
  | invalidReport
  deriving DecidableEq, Repr

/-- What is written before the cause when markup cannot be scanned. -/
def Fault.unreadablePreamble : String :=
  "The markup you provided was rejected by the parser. Trying a different parser or a different " ++
    "encoding may help.\n\nOriginal exception(s) from parser:\n AssertionError: "

def Fault.message : Fault → String
  | .missingMarkup => "Cannot parse None as HTML"
  | .markupNotText kind => "HTML input must be a string, got " ++ kind.name
  | .unknownName name => "Unknown accessibility rule or category: '" ++ name ++ "'"
  | .unreadableMarkup cause => unreadablePreamble ++ cause.message
  | .unknownParser wanted =>
    "Couldn't find a tree builder with the features you requested: " ++ Text.join "," wanted ++
      ". Do you need to install a parser library?"
  | .unknownCheck name => "module 'a11y_auditor.api' has no attribute " ++ Text.quoted name
  | .template cause => cause.message
  | .number cause => cause.message
  | .notInteger kind =>
    "int() argument must be a string, a bytes-like object or a real number, not '" ++ kind.name ++
      "'"
  | .notFloating kind =>
    "float() argument must be a string or a real number, not '" ++ kind.name ++ "'"
  | .notLevel kind => "Level not an integer or a valid string: " ++ kind.name
  | .unknownLevel text => "Unknown level: " ++ Text.quoted text
  | .notIterable kind => "'" ++ kind.name ++ "' object is not iterable"
  | .withoutLength kind => "object of type '" ++ kind.name ++ "' has no len()"
  | .notUnpackable kind => "cannot unpack non-iterable " ++ kind.name ++ " object"
  | .notComparable left right =>
    "'>=' not supported between instances of '" ++ left.name ++ "' and '" ++ right.name ++ "'"
  | .itemNotText place kind =>
    "sequence item " ++ toString place ++ ": expected str instance, " ++ kind.name ++ " found"
  | .lacksOperation kind operation =>
    "'" ++ kind.name ++ "' object has no attribute '" ++ operation ++ "'"
  | .tooFewParts found =>
    "not enough values to unpack (expected 2, got " ++ toString found ++ ")"
  | .tooManyParts => "too many values to unpack (expected 2)"
  | .nothingFound => ""
  | .noContentColumn => "DataFrame needs one of the columns ('content', 'html')"
  | .noWorkers => "max_workers must be greater than 0"
  | .notUnicode => "the bytes are not UTF-8"
  | .invalidReport => "the data do not describe a report"

/-- Two steps that succeed one after another: the first gives what the second goes on with. -/
theorem exists_of_bind_eq_ok {ε α β : Type} {x : Except ε α} {f : α → Except ε β} {b : β}
    (h : x >>= f = .ok b) : ∃ a, x = .ok a ∧ f a = .ok b := by
  cases x with
  | error fault => cases h
  | ok a => exact ⟨a, rfl, h⟩

end MarkupAudit
