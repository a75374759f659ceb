import MarkupAudit.Text.Quoted

/-!
# Faults of templates

Why a template cannot be filled in.
-/

namespace MarkupAudit.Text.Template

/-- A numbered or a text value of a field, as messages name its kind. -/
inductive FieldKind where
  | number
  | text
  deriving DecidableEq, Repr

def FieldKind.name : FieldKind → String
  | .number => "int"
  | .text => "str"

/-- Why a template cannot be filled in. -/
inductive Fault where
  | loneBrace (brace : Char)
  | unclosedField
  | unclosedLayout
  | braceInName
  | missingConversion
  /-- Something else than a layout follows a conversion. -/
  | strayAfterConversion
  | unknownConversion (mark : Char)
  /-- The field is numbered, and there are only named ones. -/
  | numberedField
  | unknownField (name : String)
  | numberTooLarge
  /-- A step into a field's value names nothing. -/
  | emptyStep
  /-- Something else than a step follows a step. -/
  | strayAfterStep
  | unclosedStep
  | unknownPart (kind : FieldKind) (name : String)
  | notIndexed
  /-- A character is chosen by something else than a number. -/
  | indexNotNumber
  | indexTooLarge
  | nestedTooDeep
  | malformedLayout (layout : String) (kind : FieldKind)
  | missingPrecision
  | twoSeparators
  | separatorRefused (separator form : Char)
  | unknownForm (form : Char) (kind : FieldKind)
  | signInText (space : Bool)
  | zeroSignRefused (kind : FieldKind)
  | alternateText
  | signAlignedText
  | precisionOfInteger
  | signOfCharacter
  | alternateCharacter
  | noSuchCharacter
  | precisionTooLarge
  deriving DecidableEq, Repr

/-- A sign in a message: as it is if it is an ordinary one, else its code point. -/
def shownSign (c : Char) : String :=
  if 32 < c.toNat ∧ c.toNat < 128 then String.singleton c
  else "\\x" ++ String.ofList (Nat.toDigits 16 c.toNat)

def Fault.message : Fault → String
  | .loneBrace brace => "Single '" ++ String.singleton brace ++ "' encountered in format string"
  | .unclosedField => "expected '\x7d' before end of string"
  | .unclosedLayout => "unmatched '\x7b' in format spec"
  | .braceInName => "unexpected '\x7b' in field name"
  | .missingConversion => "end of string while looking for conversion specifier"
  | .strayAfterConversion => "expected ':' after conversion specifier"
  | .unknownConversion mark => "Unknown conversion specifier " ++ shownSign mark
  | .numberedField => "Replacement index 0 out of range for positional args tuple"
  | .unknownField name => quoted name
  | .numberTooLarge => "Too many decimal digits in format string"
  | .emptyStep => "Empty attribute in format string"
  | .strayAfterStep => "Only '.' or '[' may follow ']' in format field specifier"
  | .unclosedStep => "Missing ']' in format string"
  | .unknownPart kind name => "'" ++ kind.name ++ "' object has no attribute " ++ quoted name
  | .notIndexed => "'int' object is not subscriptable"
  | .indexNotNumber => "string indices must be integers, not 'str'"
  | .indexTooLarge => "string index out of range"
  | .nestedTooDeep => "Max string recursion exceeded"
  | .malformedLayout layout kind =>
    "Invalid format specifier '" ++ layout ++ "' for object of type '" ++ kind.name ++ "'"
  | .missingPrecision => "Format specifier missing precision"
  | .twoSeparators => "Cannot specify both ',' and '_'."
  | .separatorRefused separator form =>
    "Cannot specify '" ++ String.singleton separator ++ "' with '" ++ shownSign form ++ "'."
  | .unknownForm form kind =>
    "Unknown format code '" ++ shownSign form ++ "' for object of type '" ++ kind.name ++ "'"
  | .signInText space =>
    (if space then "Space" else "Sign") ++ " not allowed in string format specifier"
  | .zeroSignRefused kind =>
    "Negative zero coercion (z) not allowed in " ++
      (match kind with | .number => "integer" | .text => "string") ++ " format specifier"
  | .alternateText => "Alternate form (#) not allowed in string format specifier"
  | .signAlignedText => "'=' alignment not allowed in string format specifier"
  | .precisionOfInteger => "Precision not allowed in integer format specifier"
  | .signOfCharacter => "Sign not allowed with integer format specifier 'c'"
  | .alternateCharacter => "Alternate form (#) not allowed with integer format specifier 'c'"
  | .noSuchCharacter => "%c arg not in range(0x110000)"
  | .precisionTooLarge => "precision too big"

end MarkupAudit.Text.Template
