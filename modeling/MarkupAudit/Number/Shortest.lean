import MarkupAudit.Number.Binary

/-!
# Shortest decimal text of a floating point number

Among the decimal numbers that read back as a given floating point number, those with the fewest
digits are written, and of these the nearest one.
-/

namespace MarkupAudit.Number

/-- The decimal number `digits · 10 ^ power`. -/
structure Decimal where
  digits : Nat
  power : Int
  deriving DecidableEq, Repr

/-- Where an exact value stands on a scale: it and the two ends of the range of values that round
to it, all in quarters of the unit of its last bit. -/
structure Interval where
  low : Nat
  value : Nat
  high : Nat
  /-- The ends round to the value too. -/
  closed : Bool
  /-- The power of two that one quarter stands for. -/
  exponent : Int
  deriving DecidableEq, Repr

/-- The values that round to a positive exact value. Below a power of two the neighbours lie twice
as close. -/
def Binary.interval (b : Binary) : Interval where
  low :=
    if b.mantissa = Nat.pow 2 Binary.fractionBits && b.exponent != Binary.leastExponent then
      4 * b.mantissa - 1
    else 4 * b.mantissa - 2
  value := 4 * b.mantissa
  high := 4 * b.mantissa + 2
  closed := b.mantissa % 2 == 0
  exponent := b.exponent - 2

namespace Interval

/-- A number of quarters as a numerator over `gridScale`. -/
def quarterScale (i : Interval) (power : Int) : Nat :=
  Nat.pow 2 i.exponent.toNat * Nat.pow 10 (-power).toNat

/-- A number of steps of the decimal grid as a numerator over the same denominator. -/
def gridScale (i : Interval) (power : Int) : Nat :=
  Nat.pow 10 power.toNat * Nat.pow 2 (-i.exponent).toNat

def holds (i : Interval) (power : Int) (steps : Nat) : Bool :=
  let point := steps * i.gridScale power
  let low := i.low * i.quarterScale power
  let high := i.high * i.quarterScale power
  if i.closed then decide (low ≤ point) && decide (point ≤ high)
  else decide (low < point) && decide (point < high)

/-- The point of the decimal grid that reads back and lies nearest, an even one in a tie. -/
def nearest? (i : Interval) (power : Int) : Option Nat :=
  let value := i.value * i.quarterScale power
  let scale := i.gridScale power
  let below := value / scale
  let gap := 2 * (value % scale)
  -- The two neighbours on the grid are tried, the nearer one first.
  let preferBelow := decide (gap < scale) || (decide (gap = scale) && below % 2 == 0)
  let (first, second) := if preferBelow then (below, below + 1) else (below + 1, below)
  if i.holds power first then some first
  else if i.holds power second then some second
  else none

def leadingPower (i : Interval) : Int :=
  let top := i.value * Nat.pow 2 i.exponent.toNat
  let bottom := Nat.pow 2 (-i.exponent).toNat
  -- The leading power of a quotient is the difference of the digit counts, or one less.
  let guess : Int := (Nat.toDigits 10 top).length - (Nat.toDigits 10 bottom).length
  if top * Nat.pow 10 (-guess).toNat ≥ bottom * Nat.pow 10 guess.toNat then guess else guess - 1

def search (i : Interval) (leading : Int) (tried : Nat) : Nat → Decimal
  | 0 => ⟨i.value, 0⟩
  | left + 1 =>
    let power := leading - tried
    match i.nearest? power with
    | some steps => ⟨steps, power⟩
    | none => search i leading (tried + 1) left

end Interval

def sufficientDigits : Nat := 17

def Binary.shortest (b : Binary) : Decimal :=
  let i := b.interval
  i.search i.leadingPower 0 (sufficientDigits + 1)

/-- The decisions of a written form of floating point numbers. -/
structure FloatingFormat where
  /-- Leading powers below this one are written with a power of ten. -/
  positionalFrom : Int
  /-- So are leading powers from this one on. -/
  positionalBelow : Int
  powerDigits : Nat
  infinity : String
  undefined : String

/-- Numbers are written out from one ten-thousandth up to sixteen digits before the point, and a
whole number keeps one digit after it. -/
def standardFormat : FloatingFormat where
  positionalFrom := -4
  positionalBelow := 16
  powerDigits := 2
  infinity := "inf"
  undefined := "nan"

/-- The digits without trailing zeros. -/
def significantDigits (n : Nat) : List Char :=
  ((Nat.toDigits 10 n).reverse.dropWhile (· == '0')).reverse

def powerText (format : FloatingFormat) (power : Int) : List Char :=
  let digits := Nat.toDigits 10 power.natAbs
  (if power < 0 then '-' else '+') ::
    List.replicate (format.powerDigits - digits.length) '0' ++ digits

def Decimal.render (format : FloatingFormat) (d : Decimal) : List Char :=
  let digits := significantDigits d.digits
  let leading : Int := d.power + (Nat.toDigits 10 d.digits).length - 1
  if leading < format.positionalFrom || format.positionalBelow ≤ leading then
    match digits with
    | [] => ['0']
    | [c] => c :: 'e' :: powerText format leading
    | c :: rest => c :: '.' :: rest ++ 'e' :: powerText format leading
  else if leading < 0 then
    '0' :: '.' :: List.replicate (leading.natAbs - 1) '0' ++ digits
  else
    let whole := leading.toNat + 1
    if digits.length ≤ whole then
      digits ++ List.replicate (whole - digits.length) '0' ++ ['.', '0']
    else digits.take whole ++ '.' :: digits.drop whole

def floatingText (f : Float) : String :=
  if f.isNaN then standardFormat.undefined
  else
    let sign := if f.toBits.toNat / Nat.pow 2 63 == 1 then "-" else ""
    if f.isInf then sign ++ standardFormat.infinity
    else
      let b := Binary.ofFinite f
      if b.mantissa = 0 then sign ++ "0.0"
      else sign ++ String.ofList (b.shortest.render standardFormat)

end MarkupAudit.Number
