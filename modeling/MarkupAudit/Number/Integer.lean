import MarkupAudit.Number.Fault
import MarkupAudit.Text.Blank
import MarkupAudit.Text.Digit

/-!
# Reading and writing integers

An integer is read from an optional sign and decimal digits of any script, with single low lines
allowed between digits and blanks allowed around the whole. Malformed low lines are noticed before
the digits are counted, and the digits are counted before anything that follows them is looked at.
An integer of too many digits is neither read nor written.
-/

namespace MarkupAudit.Number

open Text (digitValue? isBlank)

/-- Blanks that may stand around a numeral: all but the information separators. -/
def isPadding (c : Char) : Bool :=
  isBlank c && !(decide (0x1C ≤ c.toNat) && decide (c.toNat ≤ 0x1F))

/-- The characters without the padding around them. -/
def unpadded (cs : List Char) : List Char :=
  ((cs.dropWhile isPadding).reverse.dropWhile isPadding).reverse

/-- What was read last in a run of digits. -/
inductive DigitContext where
  | start
  | digit
  | lowLine
  deriving DecidableEq, Repr

/-- The digits at the start of a text and what follows them; nothing if a low line does not stand
between two digits. -/
def digitRun (context : DigitContext) : List Char → Option (List Nat × List Char)
  | [] => if context = .lowLine then none else some ([], [])
  | c :: rest =>
    match digitValue? c with
    | some d => (digitRun .digit rest).map fun (ds, after) => (d :: ds, after)
    | none =>
      if c = '_' then
        if context = .digit then digitRun .lowLine rest else none
      else if context = .lowLine then none
      else some ([], c :: rest)

/-- The number with the given decimal digits, most significant first. -/
def ofDigits (ds : List Nat) : Nat :=
  ds.foldl (fun n d => 10 * n + d) 0

/-- A sign at the start of a text, true for minus, and what follows it. -/
def signed : List Char → Bool × List Char
  | '-' :: rest => (true, rest)
  | '+' :: rest => (false, rest)
  | cs => (false, cs)

def readInteger (text : String) : Except Fault Int :=
  let (negative, body) := signed (unpadded text.toList)
  match digitRun .start body with
  | none => .error (.malformedInteger text)
  | some (ds, rest) =>
    -- The count of digits is judged first, leading zeros included.
    if ds.length > digitLimit then .error (.tooManyDigits ds.length)
    else if ds.isEmpty || !rest.isEmpty then .error (.malformedInteger text)
    else
      let n : Int := ofDigits ds
      .ok (if negative then -n else n)

/-- The integer has no more digits than are written; its sign is not counted. -/
def IsWritable (n : Int) : Prop :=
  (Nat.toDigits 10 n.natAbs).length ≤ digitLimit

instance (n : Int) : Decidable (IsWritable n) :=
  inferInstanceAs (Decidable ((Nat.toDigits 10 n.natAbs).length ≤ digitLimit))

def writeInteger (n : Int) : Except Fault String :=
  if IsWritable n then .ok (toString n) else .error .tooLongToWrite

/-- Where no low line is met, the run takes the decimal digits up to the first other character. -/
theorem digitRun_of_no_lowLine {cs : List Char} (hplain : ∀ c ∈ cs, c ≠ '_')
    {context : DigitContext} (hcontext : context ≠ .lowLine) :
    ∃ ds, digitRun context cs = some (ds, cs.dropWhile Text.isDecimalDigit) ∧
      ds.length = (cs.takeWhile Text.isDecimalDigit).length := by
  induction cs generalizing context with
  | nil => exact ⟨[], by simp [digitRun, hcontext], rfl⟩
  | cons c rest ih =>
    cases hvalue : digitValue? c with
    | none =>
      have hdecimal : Text.isDecimalDigit c = false := by simp [Text.isDecimalDigit, hvalue]
      have hc : c ≠ '_' := hplain c List.mem_cons_self
      exact ⟨[], by simp [digitRun, hvalue, hc, hcontext, hdecimal], by simp [hdecimal]⟩
    | some d =>
      have hdecimal : Text.isDecimalDigit c = true := by simp [Text.isDecimalDigit, hvalue]
      have hrest : ∀ c ∈ rest, c ≠ '_' := fun c hc => hplain c (List.mem_cons_of_mem _ hc)
      rcases @ih hrest .digit (by decide) with ⟨ds, hrun, hlength⟩
      exact ⟨d :: ds, by simp [digitRun, hvalue, hrun, hdecimal], by simp [hdecimal, hlength]⟩

end MarkupAudit.Number
