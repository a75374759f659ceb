import MarkupAudit.Number.Fault

/-!
# Floating point numbers as exact values

A finite floating point number is a whole number times a power of two. The exact value serves to
compare with integers, to cut off the fraction and to find decimal digits.
-/

namespace MarkupAudit.Number

/-- The value `± mantissa · 2 ^ exponent`. -/
structure Binary where
  negative : Bool
  mantissa : Nat
  exponent : Int
  deriving DecidableEq, Repr

namespace Binary

def fractionBits : Nat := 52

def leastExponent : Int := -1074

/-- The exact value of a finite number, read from its bit fields. -/
def ofFinite (f : Float) : Binary :=
  let bits := f.toBits.toNat
  let field := bits / Nat.pow 2 fractionBits % 2048
  let fraction := bits % Nat.pow 2 fractionBits
  if field = 0 then ⟨bits / Nat.pow 2 63 == 1, fraction, leastExponent⟩
  else
    ⟨bits / Nat.pow 2 63 == 1, fraction + Nat.pow 2 fractionBits, leastExponent + (field - 1 : Int)⟩

def truncated (b : Binary) : Int :=
  let magnitude : Int :=
    if b.exponent < 0 then Int.ofNat (b.mantissa / Nat.pow 2 (-b.exponent).toNat)
    else Int.ofNat (b.mantissa * Nat.pow 2 b.exponent.toNat)
  if b.negative then -magnitude else magnitude

def compareInt (b : Binary) (n : Int) : Ordering :=
  let magnitude : Int := if b.negative then -b.mantissa else b.mantissa
  if b.exponent < 0 then compare magnitude (n * Nat.pow 2 (-b.exponent).toNat)
  else compare (magnitude * Nat.pow 2 b.exponent.toNat) n

end Binary

def integerPart (f : Float) : Except Fault Int :=
  if f.isNaN then .error .undefinedInteger
  else if f.isInf then .error .infiniteInteger
  else .ok (Binary.ofFinite f).truncated

/-- The floating point number nearest to an integer. -/
def nearestFloating (n : Int) : Except Fault Float :=
  let f := Float.ofInt n
  if f.isInf then .error .beyondFloating else .ok f

/-- How a floating point number stands to an integer; nothing for the not-a-number value. -/
def compareFloatInt (f : Float) (n : Int) : Option Ordering :=
  if f.isNaN then none
  else if f.isInf then some (if f > 0 then .gt else .lt)
  else some ((Binary.ofFinite f).compareInt n)

end MarkupAudit.Number
