import MarkupAudit.Fault
import MarkupAudit.Number.Floating
import MarkupAudit.Text.Case

/-!
# Converting values

A value read as an integer, as a floating point number, as a text, as a list of items, or as the
kind that a setting had before.
-/

namespace MarkupAudit.Value

def liftNumber {α : Type} : Except Number.Fault α → Except Fault α
  | .ok a => .ok a
  | .error cause => .error (.number cause)

/-- The integer that a value gives: a text is read, a fraction is cut off. -/
def toInteger : Value → Except Fault Int
  | .int n => .ok n
  | .bool b => .ok (if b then 1 else 0)
  | .float f => liftNumber (Number.integerPart f)
  | .str s => liftNumber (Number.readInteger s)
  | v => .error (.notInteger v.kind)

/-- The floating point number that a value gives: a text is read. -/
def toFloating : Value → Except Fault Float
  | .float f => .ok f
  | .bool b => .ok (if b then 1 else 0)
  | .int n => liftNumber (Number.nearestFloating n)
  | .str s => liftNumber (Number.readFloating s)
  | v => .error (.notFloating v.kind)

/-- The text that a value gives: any value is written, unless it is or holds an integer of too many
digits. -/
def toText (v : Value) : Except Fault String :=
  liftNumber v.text

/-- The items that a value gives when it is gone through: the characters of a text, the names of an
object's fields. -/
def items : Value → Except Fault (List Value)
  | .list items => .ok items
  | .str s => .ok (s.toList.map fun c => .str (String.singleton c))
  | .object fields => .ok (fields.map fun field => .str field.1)
  | v => .error (.notIterable v.kind)

def affirmations : List String := ["1", "true", "yes", "on"]

def affirms (s : String) : Bool :=
  affirmations.contains (Text.lower (Text.trim s))

def isOverflow : Fault → Bool
  | .number cause => cause.isOverflow
  | _ => false

/-- A converted value, or the value as it was if it cannot be converted. Only a number that is too
large is a fault. -/
def orAsGiven {α : Type} (wrap : α → Value) (given : Value) :
    Except Fault α → Except Fault Value
  | .ok a => .ok (wrap a)
  | .error fault => if isOverflow fault then .error fault else .ok given

/-- The value as it is stored over an old one: converted to the kind of a boolean, a number or a
text if it can be, else as it was. -/
def convertLike (v : Value) : Option Value → Except Fault Value
  | some (.bool _) =>
    match v with
    | .str s => .ok (.bool (affirms s))
    | v => .ok (.bool v.truthy)
  | some (.int _) => orAsGiven .int v v.toInteger
  | some (.float _) => orAsGiven .float v v.toFloating
  | some (.str _) => orAsGiven .str v v.toText
  | _ => .ok v

end MarkupAudit.Value
