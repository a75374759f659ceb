import MarkupAudit.Settings.Readers
import MarkupAudit.Text.Digit

/-!
# Phone numbers

A phone number in a link is an optional plus sign and digits, with separators and dialling signs
anywhere between them, up to a semicolon behind which parameters follow.
-/

namespace MarkupAudit.Phone

/-- Characters that are passed over: blanks, punctuation, and the letters and signs that a dialler
knows. -/
def isSeparator (c : Char) : Bool :=
  Text.isBlank c || "-().*#pwabcdPWABCD".toList.contains c

def withoutParameterChars (cs : List Char) : List Char :=
  Chars.before ';' cs

def withoutParameters (number : String) : String :=
  String.ofList (withoutParameterChars number.toList)

/-- What is left of a number when parameters and separators are taken away. -/
def significant (cs : List Char) : List Char :=
  (withoutParameterChars cs).filter fun c => !isSeparator c

def withoutPlus : List Char → List Char
  | '+' :: rest => rest
  | cs => cs

/-- Digits that every number has at least. -/
def leastDigits : Nat := 3

/-- The digits of a number; nothing if something else is left in it, or too few digits are. -/
def digits? (cs : List Char) : Option (List Char) :=
  let body := withoutPlus (significant cs)
  if body.all Text.isDecimalDigit && decide (leastDigits ≤ body.length) then some body else none

/-- The text is a phone number with at least so many digits. -/
def isNumber (cs : List Char) (minimum : Int) : Bool :=
  match digits? cs with
  | some ds => decide (minimum ≤ ds.length)
  | none => false

/-- The text is a phone number with at least so many digits, the number of which is a value. -/
def isNumberFor (number : String) (minimum : Value) : Except Fault Bool :=
  match minimum with
  | .int n => .ok (isNumber number.toList n)
  | .bool b => .ok (isNumber number.toList (if b then 1 else 0))
  | v =>
    match digits? number.toList, v with
    | none, _ => .ok false
    | some ds, .float f =>
      .ok (match Number.compareFloatInt f ds.length with
        | some .gt => false
        | some _ => true
        | none => false)
    | some _, v => .error (.notComparable .int v.kind)

def isValid (s : Settings) (number : String) : Except Fault Bool := do
  let minimum ← s.phoneMinimum
  return isNumber number.toList minimum

end MarkupAudit.Phone
