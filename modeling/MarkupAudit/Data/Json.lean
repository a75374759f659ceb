import MarkupAudit.Data.Value
import MarkupAudit.Number.Floating

/-!
# Reading values from text

The notation of values in a settings text: JSON, with the words `NaN`, `Infinity` and `-Infinity`
for the floating point numbers that JSON leaves out. A field that is written twice keeps its first
place and its last value. Every function is given the greatest number of steps it may take, and a
text's length is always enough, because each step reads a character.
-/

namespace MarkupAudit.Json

/-- Why a text is not the notation of a value. -/
inductive Fault where
  | malformed
  | numeral (cause : Number.Fault)
  deriving DecidableEq, Repr

def skipSpace (cs : List Char) : List Char :=
  cs.dropWhile fun c => c = ' ' || c = '\t' || c = '\n' || c = '\r'

def hexValue? (c : Char) : Option Nat :=
  if '0' ≤ c ∧ c ≤ '9' then some (c.toNat - '0'.toNat)
  else if 'a' ≤ c ∧ c ≤ 'f' then some (c.toNat - 'a'.toNat + 10)
  else if 'A' ≤ c ∧ c ≤ 'F' then some (c.toNat - 'A'.toNat + 10)
  else none

def readUnit : List Char → Option (Nat × List Char)
  | a :: b :: c :: d :: rest => do
    let a ← hexValue? a
    let b ← hexValue? b
    let c ← hexValue? c
    let d ← hexValue? d
    return (((a * 16 + b) * 16 + c) * 16 + d, rest)
  | _ => none

/-- The character that a unit stands for, a half of a pair taking the other half with it. -/
def readEscapedUnit (cs : List Char) : Option (Char × List Char) := do
  let (high, rest) ← readUnit cs
  if 0xD800 ≤ high ∧ high < 0xDC00 then
    match rest with
    -- A first half counts with the second half right behind it, and is replaced without one.
    | '\\' :: 'u' :: more =>
      match readUnit more with
      | some (low, rest') =>
        if 0xDC00 ≤ low ∧ low < 0xE000 then
          return (Char.ofNat (0x10000 + (high - 0xD800) * 0x400 + (low - 0xDC00)), rest')
        else return ('\ufffd', rest)
      | none => return ('\ufffd', rest)
    | _ => return ('\ufffd', rest)
  else if 0xDC00 ≤ high ∧ high < 0xE000 then return ('\ufffd', rest)
  else return (Char.ofNat high, rest)

def readEscape : List Char → Option (Char × List Char)
  | '"' :: rest => some ('"', rest)
  | '\\' :: rest => some ('\\', rest)
  | '/' :: rest => some ('/', rest)
  | 'b' :: rest => some ('\x08', rest)
  | 'f' :: rest => some ('\x0c', rest)
  | 'n' :: rest => some ('\n', rest)
  | 'r' :: rest => some ('\r', rest)
  | 't' :: rest => some ('\t', rest)
  | 'u' :: rest => readEscapedUnit rest
  | _ => none

/-- The rest of a text up to its closing quote. -/
def readString : Nat → List Char → Except Fault (List Char × List Char)
  | 0, _ => .error .malformed
  | _ + 1, [] => .error .malformed
  | steps + 1, c :: rest =>
    if c = '"' then .ok ([], rest)
    else if c = '\\' then
      match readEscape rest with
      | some (d, rest) => do
        let (ds, rest) ← readString steps rest
        return (d :: ds, rest)
      | none => .error .malformed
    else if c.toNat < 0x20 then .error .malformed
    else do
      let (cs, rest) ← readString steps rest
      return (c :: cs, rest)

/-- The whole part of a numeral: a single zero, or digits that begin with another one. -/
def readWhole : List Char → Option (List Char × List Char)
  | '0' :: rest => some (['0'], rest)
  | c :: rest =>
    if c.isDigit then some ((c :: rest).takeWhile Char.isDigit, (c :: rest).dropWhile Char.isDigit)
    else none
  | [] => none

/-- The digits after the point of a numeral, with the point; nothing if none follow it. -/
def readFraction : List Char → List Char × List Char
  | '.' :: rest =>
    match rest.takeWhile Char.isDigit with
    | [] => ([], '.' :: rest)
    | ds => ('.' :: ds, rest.dropWhile Char.isDigit)
  | cs => ([], cs)

/-- The power of ten of a numeral with its mark; nothing if no digits follow it. -/
def readPower : List Char → List Char × List Char
  | mark :: rest =>
    if mark = 'e' || mark = 'E' then
      let (sign, digits) : List Char × List Char := match rest with
        | '+' :: more => (['+'], more)
        | '-' :: more => (['-'], more)
        | _ => ([], rest)
      match digits.takeWhile Char.isDigit with
      | [] => ([], mark :: rest)
      | ds => (mark :: sign ++ ds, digits.dropWhile Char.isDigit)
    else ([], mark :: rest)
  | [] => ([], [])

/-- A number: an integer unless it has a point or a power of ten. -/
def readNumber (sign : List Char) (cs : List Char) : Except Fault (Value × List Char) :=
  match readWhole cs with
  | none => .error .malformed
  | some (whole, rest) =>
    let (fraction, rest) := readFraction rest
    let (power, rest) := readPower rest
    if fraction.isEmpty && power.isEmpty then
      match Number.readInteger (String.ofList (sign ++ whole)) with
      | .ok n => .ok (.int n, rest)
      | .error cause => .error (.numeral cause)
    else
      match Number.readFloating (String.ofList (sign ++ whole ++ fraction ++ power)) with
      | .ok f => .ok (.float f, rest)
      | .error cause => .error (.numeral cause)

def words : List (String × Value) :=
  [("null", .null), ("true", .bool true), ("false", .bool false), ("NaN", .float (0 / 0)),
    ("Infinity", .float (1 / 0)), ("-Infinity", .float (-1 / 0))]

def readWord (cs : List Char) : Option (Value × List Char) :=
  words.findSome? fun (word, v) =>
    if word.toList.isPrefixOf cs then some (v, cs.drop word.length) else none

mutual

def readValue : Nat → List Char → Except Fault (Value × List Char)
  | 0, _ => .error .malformed
  | steps + 1, cs =>
    match readWord cs with
    | some found => .ok found
    | none =>
      match cs with
      | '"' :: rest => do
        let (s, rest) ← readString (steps + 1) rest
        return (.str (String.ofList s), rest)
      | '[' :: rest =>
        match skipSpace rest with
        | ']' :: rest => .ok (.list [], rest)
        | rest => do
          let (items, rest) ← readItems steps rest
          return (.list items, rest)
      | '\x7b' :: rest =>
        match skipSpace rest with
        | '\x7d' :: rest => .ok (.object [], rest)
        | rest => do
          let (fields, rest) ← readFields steps rest
          return (.object (Entries.merged fields), rest)
      | '-' :: rest => readNumber ['-'] rest
      | cs => readNumber [] cs

def readItems : Nat → List Char → Except Fault (List Value × List Char)
  | 0, _ => .error .malformed
  | steps + 1, cs => do
    let (v, rest) ← readValue steps cs
    match skipSpace rest with
    | ']' :: rest => return ([v], rest)
    | ',' :: rest => do
      let (vs, rest) ← readItems steps (skipSpace rest)
      return (v :: vs, rest)
    | _ => .error .malformed

def readFields : Nat → List Char → Except Fault (List (String × Value) × List Char)
  | 0, _ => .error .malformed
  | steps + 1, '"' :: cs => do
    let (name, rest) ← readString (steps + 1) cs
    match skipSpace rest with
    | ':' :: rest => do
      let (v, rest) ← readValue steps (skipSpace rest)
      match skipSpace rest with
      | '\x7d' :: rest => return ([(String.ofList name, v)], rest)
      | ',' :: rest => do
        let (fields, rest) ← readFields steps (skipSpace rest)
        return ((String.ofList name, v) :: fields, rest)
      | _ => .error .malformed
    | _ => .error .malformed
  | _ + 1, _ => .error .malformed

end

def read (text : String) : Except Fault Value :=
  let cs := text.toList
  match readValue (cs.length + 1) (skipSpace cs) with
  | .error fault => .error fault
  | .ok (v, rest) => if (skipSpace rest).isEmpty then .ok v else .error .malformed

end MarkupAudit.Json
