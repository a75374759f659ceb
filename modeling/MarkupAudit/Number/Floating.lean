import MarkupAudit.Number.Integer

/-!
# Reading floating point numbers

A numeral has an optional sign, digits with an optional point and an optional power of ten, or
spells infinity or the not-a-number value. Digits may be of any script, single low lines may stand
between digits and blanks around the whole. The result is the floating point number nearest to what
is written.
-/

namespace MarkupAudit.Number

open Text (digitValue?)

/-- A decimal digit of any script as the digit between `0` and `9`. -/
def plainDigit (c : Char) : Char :=
  match digitValue? c with
  | some d => Char.ofNat ('0'.toNat + d)
  | none => c

/-- The characters without low lines; nothing if one does not stand between two digits. -/
def withoutLowLines (afterDigit : Bool) : List Char → Option (List Char)
  | [] => some []
  | '_' :: d :: rest =>
    if afterDigit && d.isDigit then withoutLowLines false (d :: rest) else none
  | '_' :: [] => none
  | c :: rest => (withoutLowLines c.isDigit rest).map (c :: ·)

/-- A numeral with its parts: digits before and after the point, and the power of ten. -/
structure Numeral where
  whole : List Nat
  fraction : List Nat
  power : Int
  deriving DecidableEq, Repr

def digitOf (c : Char) : Nat :=
  c.toNat - '0'.toNat

/-- The power of ten at the end of a numeral; nothing if something else stands there. -/
def readPower : List Char → Option Int
  | [] => some 0
  | c :: rest =>
    if c = 'e' || c = 'E' then
      let (negative, digits) := signed rest
      if !digits.isEmpty && digits.all (·.isDigit) then
        let n : Int := ofDigits (digits.map digitOf)
        some (if negative then -n else n)
      else none
    else none

def readNumeral (cs : List Char) : Option Numeral :=
  let whole := cs.takeWhile (·.isDigit)
  let rest := cs.dropWhile (·.isDigit)
  let (fraction, ending) : List Char × List Char := match rest with
    | '.' :: after => (after.takeWhile Char.isDigit, after.dropWhile Char.isDigit)
    | _ => ([], rest)
  if whole.isEmpty && fraction.isEmpty then none
  else (readPower ending).map fun power => ⟨whole.map digitOf, fraction.map digitOf, power⟩

/-- Powers of ten that lead beyond all finite numbers, or below all positive ones. -/
def powerBound : Int := 400

/-- The floating point number nearest to the numeral's value. -/
def Numeral.nearest (n : Numeral) : Float :=
  let digits := (n.whole ++ n.fraction).dropWhile (· == 0)
  let power := n.power - n.fraction.length
  let magnitude := power + digits.length
  -- Powers far out of range are decided here, before a huge power of ten is computed.
  if digits.isEmpty then 0
  else if magnitude > powerBound then 1 / 0
  else if magnitude < -powerBound then 0
  else if power < 0 then Float.ofScientific (ofDigits digits) true power.natAbs
  else Float.ofScientific (ofDigits digits) false power.natAbs

def readMagnitude (cs : List Char) : Option Float :=
  let word := cs.map (·.toLower)
  if word = "inf".toList || word = "infinity".toList then some (1 / 0)
  else if word = "nan".toList then some (0 / 0)
  else (readNumeral cs).map Numeral.nearest

def readFloating (text : String) : Except Fault Float :=
  let plain := (unpadded text.toList).map plainDigit
  match withoutLowLines false plain with
  | none => .error (.malformedFloating text)
  | some body =>
    let (negative, cs) := signed body
    match readMagnitude cs with
    | none => .error (.malformedFloating text)
    | some f => .ok (if negative then -f else f)

end MarkupAudit.Number
