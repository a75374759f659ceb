import MarkupAudit.Text.Quoted

/-!
# Faults of number conversion

Why a text or a number cannot be turned into the number that is asked for, or a number into a text.
-/

namespace MarkupAudit.Number

/-- Why a conversion to a number or from one fails. -/
inductive Fault where
  | malformedInteger (text : String)
  | tooManyDigits (digits : Nat)
  | malformedFloating (text : String)
  | infiniteInteger
  | undefinedInteger
  | beyondFloating
  | tooLongToWrite
  deriving DecidableEq, Repr

/-- How many digits of an integer are read or written at most. -/
def digitLimit : Nat := 4300

def shownNumeral : Nat := 200

def Fault.message : Fault → String
  | .malformedInteger text =>
    "invalid literal for int() with base 10: " ++
      String.ofList ((Text.quoted text).toList.take shownNumeral)
  | .tooManyDigits digits =>
    "Exceeds the limit (" ++ toString digitLimit ++
      " digits) for integer string conversion: value has " ++ toString digits ++
      " digits; use sys.set_int_max_str_digits() to increase the limit"
  | .malformedFloating text => "could not convert string to float: " ++ Text.quoted text
  | .infiniteInteger => "cannot convert float infinity to integer"
  | .undefinedInteger => "cannot convert float NaN to integer"
  | .beyondFloating => "int too large to convert to float"
  | .tooLongToWrite =>
    "Exceeds the limit (" ++ toString digitLimit ++ " digits) for integer string conversion; " ++
      "use sys.set_int_max_str_digits() to increase the limit"

def Fault.isOverflow : Fault → Bool
  | .infiniteInteger => true
  | .beyondFloating => true
  | _ => false

end MarkupAudit.Number
