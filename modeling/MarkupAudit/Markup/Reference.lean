import MarkupAudit.Data.Json
import MarkupAudit.Markup.Reference.Names
import Std.Data.HashMap

/-!
# Character references

A reference stands for one or two characters, by name or by number. In running text a reference is
recognised by the scanner, which hands over its name or number; in an attribute value it is
recognised here, where a missing semicolon and a name that goes on are allowed. A decimal number
with too many digits is not read at all, however large a number may be in hexadecimal digits.
-/

namespace MarkupAudit.Markup.Reference

/-- What a name stands for. -/
structure Named where
  text : String
  /-- The closing semicolon may be missing. -/
  bare : Bool
  deriving DecidableEq, Repr

def hexNumber (cs : List Char) : Nat :=
  cs.foldl (fun n c => 16 * n + (Json.hexValue? c).getD 0) 0

/-- The number that decimal digits write, if there are not too many of them. -/
def decimalNumber (cs : List Char) : Except Number.Fault Nat :=
  if cs.length > Number.digitLimit then .error (.tooManyDigits cs.length)
  else .ok (Number.ofDigits (cs.map Number.digitOf))

def codesText (codes : List Char) : String :=
  String.ofList ((Chars.splitOn '+' codes).map fun code => Char.ofNat (hexNumber code))

def readEntry (entry : List Char) : String × Named :=
  let name := Chars.before '=' entry
  let text := codesText ((Chars.after? '=' entry).getD [])
  if name.getLast? = some '*' then (String.ofList name.dropLast, ⟨text, true⟩)
  else (String.ofList name, ⟨text, false⟩)

def names : Std.HashMap String Named :=
  Std.HashMap.ofList
    (nameLines.flatMap fun line => (Chars.splitOn ' ' line.toList).map readEntry)

/-- What a name in running text stands for; one that is not in the table stands as it is written,
without its semicolon. -/
def inText (name : String) : String :=
  match names[name]? with
  | some found => found.text
  | none => "&" ++ name

/-- What the code points from 0x80 to 0x9F stand for, as a table of Windows characters; five of
them have none and stay what they are. -/
def windowsCodes : List Nat :=
  [0x20AC, 0x81, 0x201A, 0x0192, 0x201E, 0x2026, 0x2020, 0x2021, 0x02C6, 0x2030, 0x0160, 0x2039,
    0x0152, 0x8D, 0x017D, 0x8F, 0x90, 0x2018, 0x2019, 0x201C, 0x201D, 0x2022, 0x2013, 0x2014,
    0x02DC, 0x2122, 0x0161, 0x203A, 0x0153, 0x9D, 0x017E, 0x0178]

def isWindowsCode (n : Nat) : Bool :=
  decide (0x80 ≤ n) && decide (n ≤ 0x9F)

def windowsChar (n : Nat) : Char :=
  Char.ofNat (windowsCodes.getD (n - 0x80) n)

/-- Neither the number of a character nor one that is kept: zero, halves of pairs, too large. -/
def isReplaced (n : Nat) : Bool :=
  n == 0 || (decide (0xD800 ≤ n) && decide (n ≤ 0xDFFF)) || decide (0x10FFFF < n)

def replacement : Char := '\ufffd'

def charInText (n : Nat) : Char :=
  if isReplaced n then replacement
  else if isWindowsCode n then windowsChar n
  else Char.ofNat n

/-- Numbers that leave nothing in an attribute value: controls and code points that are reserved
for internal use. -/
def isDropped (n : Nat) : Bool :=
  (decide (1 ≤ n) && decide (n ≤ 8)) || n == 0xB || (decide (0xE ≤ n) && decide (n ≤ 0x1F)) ||
    n == 0x7F || (decide (0xFDD0 ≤ n) && decide (n ≤ 0xFDEF)) || n % 0x10000 == 0xFFFE ||
    n % 0x10000 == 0xFFFF

def charsInValue (n : Nat) : List Char :=
  if isReplaced n then [replacement]
  else if isWindowsCode n then [windowsChar n]
  else if isDropped n then []
  else [Char.ofNat n]

/-- Characters that a name in an attribute value may have. -/
def isNameChar (c : Char) : Bool :=
  !(c = '\t' || c = '\n' || c = '\x0c' || c = ' ' || c = '<' || c = '&' || c = '#' || c = ';')

def nameLimit : Nat := 32

/-- The longest start of a name, at least two characters long, that may stand without a semicolon;
the rest follows what it stands for. -/
def longestBare (name : List Char) : Nat → Option (List Char)
  | 0 => none
  | length + 1 =>
    if length + 1 < 2 then none
    else match names[String.ofList (name.take (length + 1))]? with
      | some found =>
        if found.bare then some (found.text.toList ++ name.drop (length + 1))
        else longestBare name length
      | none => longestBare name length

def nameInValue (name : List Char) (closed : Bool) : List Char :=
  let written := if closed then name ++ [';'] else name
  match names[String.ofList name]? with
  | some found =>
    if closed || found.bare then found.text.toList
    -- The name needs a semicolon that is not there, so only a shorter name can stand.
    else (longestBare written (written.length - 1)).getD ('&' :: written)
  | none => (longestBare written (written.length - 1)).getD ('&' :: written)

def semicolon (cs : List Char) : Nat :=
  if cs.head? = some ';' then 1 else 0

/-- The reference that the text behind an ampersand begins with: what it stands for, if that can be
told, and how many characters it takes. -/
def matchInValue (cs : List Char) : Option (Except Number.Fault (List Char) × Nat) :=
  match cs with
  | '#' :: rest =>
    let decimal := rest.takeWhile Char.isDigit
    if !decimal.isEmpty then
      some ((decimalNumber decimal).map charsInValue,
        1 + decimal.length + semicolon (rest.drop decimal.length))
    else
      match rest with
      | mark :: more =>
        let digits := more.takeWhile fun c => (Json.hexValue? c).isSome
        if (mark = 'x' || mark = 'X') && !digits.isEmpty then
          some (.ok (charsInValue (hexNumber digits)),
            2 + digits.length + semicolon (more.drop digits.length))
        else none
      | [] => none
  | _ =>
    let name := (cs.takeWhile isNameChar).take nameLimit
    if name.isEmpty then none
    else
      let ending := semicolon (cs.drop name.length)
      some (.ok (nameInValue name (ending == 1)), name.length + ending)

/-- The characters of an attribute value with its references decoded; `skip` characters belong to
a reference that has been decoded already. -/
def decodeFrom : Nat → List Char → Except Number.Fault (List Char)
  | _, [] => .ok []
  | skip + 1, _ :: rest => decodeFrom skip rest
  | 0, c :: rest =>
    if c = '&' then
      match matchInValue rest with
      | some (meaning, length) => do
        let cs ← meaning
        return cs ++ (← decodeFrom length rest)
      | none => (decodeFrom 0 rest).map (c :: ·)
    else (decodeFrom 0 rest).map (c :: ·)

def decodeValue (value : List Char) : Except Number.Fault String :=
  (decodeFrom 0 value).map String.ofList

end MarkupAudit.Markup.Reference
