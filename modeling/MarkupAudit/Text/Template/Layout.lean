import MarkupAudit.Text.Digit
import MarkupAudit.Text.Template.Fault

/-!
# Layouts

The layout of a field says in what form its value is written and how the result is padded: a fill
character with an alignment, a sign, a width, separators between groups of digits, a precision and
the form.
-/

namespace MarkupAudit.Text.Template

/-- The largest number that a template may name. -/
def largestNumber : Nat := Nat.pow 2 63 - 1

def readNumber (sofar : Nat) : List Char → Except Fault (Nat × Nat × List Char)
  | [] => .ok (sofar, 0, [])
  | c :: rest =>
    match digitValue? c with
    | none => .ok (sofar, 0, c :: rest)
    | some d =>
      if sofar * 10 + d > largestNumber then .error .numberTooLarge
      else (readNumber (sofar * 10 + d) rest).map fun (n, count, after) => (n, count + 1, after)

/-- How a value is laid out. -/
structure Layout where
  fill : Char
  /-- One of `<`, `>`, `=` and `^`. -/
  align : Char
  sign : Option Char
  zeroSign : Bool
  alternate : Bool
  width : Option Nat
  separator : Option Char
  precision : Option Nat
  form : Char
  deriving DecidableEq, Repr

def isAlignment (c : Char) : Bool :=
  c = '<' || c = '>' || c = '=' || c = '^'

/-- The character at the start of a text if it passes the test, and what follows. -/
def optional (test : Char → Bool) : List Char → Option Char × List Char
  | c :: rest => if test c then (some c, rest) else (none, c :: rest)
  | [] => (none, [])

def readAlignment : List Char → Option Char × Option Char × List Char
  | c :: d :: rest =>
    if isAlignment d then (some c, some d, rest)
    else if isAlignment c then (none, some c, d :: rest)
    else (none, none, c :: d :: rest)
  | [c] => if isAlignment c then (none, some c, []) else (none, none, [c])
  | [] => (none, none, [])

def readSeparator (cs : List Char) : Except Fault (Option Char × List Char) :=
  let (comma, cs) := optional (· = ',') cs
  let (lowLine, cs) := optional (· = '_') cs
  match comma, lowLine, cs with
  | some _, some _, _ => .error .twoSeparators
  | none, some _, ',' :: _ => .error .twoSeparators
  | some c, none, cs => .ok (some c, cs)
  | none, found, cs => .ok (found, cs)

def readPrecision : List Char → Except Fault (Option Nat × List Char)
  | '.' :: cs => do
    let (n, count, rest) ← readNumber 0 cs
    if count = 0 then .error .missingPrecision else return (some n, rest)
  | cs => .ok (none, cs)

def separatedForms : List Char := ['d', 'e', 'f', 'g', 'E', 'G', '%', 'F']

/-- Forms that take low lines only. -/
def binaryForms : List Char := ['b', 'o', 'x', 'X']

def checkSeparator (separator : Option Char) (form : Char) : Except Fault Unit :=
  match separator with
  | none => .ok ()
  | some c =>
    if separatedForms.contains form || (binaryForms.contains form && c = '_') then .ok ()
    else .error (.separatorRefused c form)

/-- The layout that a text describes, for a kind of value that is aligned and written in a given way
unless the layout says otherwise. -/
def readLayout (kind : FieldKind) (align form : Char) (text : List Char) :
    Except Fault Layout := do
  let (fill, aligned, cs) := readAlignment text
  let (sign, cs) := optional (fun c => c = ' ' || c = '+' || c = '-') cs
  let (zeroSign, cs) := optional (· = 'z') cs
  let (alternate, cs) := optional (· = '#') cs
  -- A zero in front of the width makes zeros the fill, behind the sign if no alignment is given.
  let (zero, cs) := if fill.isNone then optional (· = '0') cs else (none, cs)
  let defaultAlign := if zero.isSome && align = '>' then '=' else align
  let (n, count, cs) ← readNumber 0 cs
  let (separator, cs) ← readSeparator cs
  let (precision, cs) ← readPrecision cs
  let form ← match cs with
    | [] => pure form
    | [c] => pure c
    | _ => .error (.malformedLayout (String.ofList text) kind)
  checkSeparator separator form
  return {
    fill := fill.getD (zero.getD ' ')
    align := aligned.getD defaultAlign
    sign := sign
    zeroSign := zeroSign.isSome
    alternate := alternate.isSome
    width := if count = 0 then none else some n
    separator := separator
    precision := precision
    form := form }

/-! ## Texts -/

def padded (layout : Layout) (sign body : List Char) : List Char :=
  let missing := (layout.width.getD 0) - (sign.length + body.length)
  let fill := fun n => List.replicate n layout.fill
  if layout.align = '<' then sign ++ body ++ fill missing
  else if layout.align = '^' then
    fill (missing / 2) ++ sign ++ body ++ fill (missing - missing / 2)
  else if layout.align = '=' then sign ++ fill missing ++ body
  else fill missing ++ sign ++ body

def layText (layout : Layout) (cs : List Char) : Except Fault (List Char) :=
  if layout.form != 's' then .error (.unknownForm layout.form .text)
  else match layout.sign with
    | some c => .error (.signInText (c = ' '))
    | none =>
      if layout.zeroSign then .error (.zeroSignRefused .text)
      else if layout.alternate then .error .alternateText
      else if layout.align = '=' then .error .signAlignedText
      else .ok (padded layout [] (match layout.precision with
        | some n => cs.take n
        | none => cs))

/-! ## Numbers -/

/-- The digits with a separator between groups of a size, counted from the right. -/
def grouped (separator : Char) (size : Nat) : List Char → List Char
  | [] => []
  | c :: rest =>
    if !rest.isEmpty && rest.length % size = 0 then c :: separator :: grouped separator size rest
    else c :: grouped separator size rest

def groupedLength (size digits : Nat) : Nat :=
  digits + (digits - 1) / size

/-- The least number of digits, no fewer than given, that take so many characters. -/
def digitsFor (size width : Nat) : Nat → Nat → Nat
  | 0, digits => digits
  | steps + 1, digits =>
    if width ≤ groupedLength size digits then digits
    else digitsFor size width steps (digits + 1)

/-- A number in parts: what stands before its digits, the digits that are grouped, and what stands
behind them. -/
structure NumberText where
  mark : List Char
  digits : List Char
  ending : List Char

/-- A number in a layout. Zeros that fill up to the width count as digits and are grouped too. -/
def layNumber (layout : Layout) (negative : Bool) (groupSize : Nat) (text : NumberText) :
    List Char :=
  let sign := if negative then ['-'] else match layout.sign with
    | some '-' => []
    | some c => [c]
    | none => []
  let lead := sign ++ text.mark
  let width := (layout.width.getD 0) - (lead.length + text.ending.length)
  -- Zeros between sign and digits are digits themselves and take part in the grouping.
  let zeroFilled := layout.fill = '0' && layout.align = '=' && !text.digits.isEmpty
  let digits := match layout.separator with
    | none =>
      if zeroFilled then List.replicate (width - text.digits.length) '0' ++ text.digits
      else text.digits
    | some separator =>
      let count :=
        if zeroFilled then digitsFor groupSize width width text.digits.length
        else text.digits.length
      grouped separator groupSize
        (List.replicate (count - text.digits.length) '0' ++ text.digits)
  padded layout lead (digits ++ text.ending)

def baseDigits (base n : Nat) : List Char :=
  Nat.toDigits base n

/-- A number as the power of ten of its first digit and so many digits, the last one rounded to the
nearest and in a tie to the even one. -/
def roundedDigits (count n : Nat) : Int × List Char :=
  let digits := baseDigits 10 n
  let leading : Int := digits.length - 1
  if digits.length ≤ count then (leading, digits ++ List.replicate (count - digits.length) '0')
  else
    let unit := Nat.pow 10 (digits.length - count)
    let below := n / unit
    let gap := 2 * (n % unit)
    let steps :=
      if gap < unit || (gap = unit && below % 2 = 0) then below else below + 1
    let kept := baseDigits 10 steps
    -- Rounding up nines gives one digit more.
    if kept.length > count then (leading + 1, kept.take count) else (leading, kept)

def exponentText (mark : Char) (power : Int) : List Char :=
  let digits := baseDigits 10 power.natAbs
  mark :: (if power < 0 then '-' else '+') ::
    (List.replicate (2 - digits.length) '0' ++ digits)

/-- A point and the digits behind it; no point without digits unless it is asked for. -/
def fractionText (alternate : Bool) (digits : List Char) : List Char :=
  if digits.isEmpty && !alternate then [] else '.' :: digits

/-- The digits without trailing zeros, unless these are kept. -/
def significant (keep : Bool) (digits : List Char) : List Char :=
  if keep then digits else (digits.reverse.dropWhile (· == '0')).reverse

def scientificText (mark : Char) (precision : Nat) (alternate strip : Bool) (n : Nat) :
    NumberText :=
  let (power, digits) := roundedDigits (precision + 1) n
  let fraction := significant (!strip) (digits.drop 1)
  ⟨[], digits.take 1, fractionText alternate fraction ++ exponentText mark power⟩

def fixedText (precision : Nat) (alternate : Bool) (n : Nat) : NumberText :=
  ⟨[], baseDigits 10 n, fractionText alternate (List.replicate precision '0')⟩

def generalText (mark : Char) (precision : Nat) (alternate : Bool) (n : Nat) : NumberText :=
  let count := max precision 1
  let (power, digits) := roundedDigits count n
  if power < count then
    let whole := power.toNat + 1
    ⟨[], digits.take whole, fractionText alternate (significant alternate (digits.drop whole))⟩
  else scientificText mark (count - 1) alternate (!alternate) n

def precisionLimit : Nat := Nat.pow 2 31 - 1

def layInteger (layout : Layout) (n : Int) : Except Fault (List Char) := do
  let size := n.natAbs
  let lay := layNumber layout (n < 0)
  let withMark := fun (mark : List Char) => if layout.alternate then mark else []
  let whole := fun (groupSize : Nat) (text : NumberText) => do
    if layout.precision.isSome then Except.error Fault.precisionOfInteger
    else if layout.zeroSign then .error (.zeroSignRefused .number)
    else return lay groupSize text
  let floating := fun (text : Nat → NumberText) =>
    let precision := layout.precision.getD 6
    if precision > precisionLimit then Except.error Fault.precisionTooLarge
    else .ok (lay 3 (text precision))
  match layout.form with
  | 'd' => whole 3 ⟨[], baseDigits 10 size, []⟩
  | 'n' => whole 3 ⟨[], baseDigits 10 size, []⟩
  | 'b' => whole 4 ⟨withMark ['0', 'b'], baseDigits 2 size, []⟩
  | 'o' => whole 4 ⟨withMark ['0', 'o'], baseDigits 8 size, []⟩
  | 'x' => whole 4 ⟨withMark ['0', 'x'], baseDigits 16 size, []⟩
  | 'X' => whole 4 ⟨withMark ['0', 'X'], (baseDigits 16 size).map Char.toUpper, []⟩
  | 'c' =>
    if layout.precision.isSome then .error .precisionOfInteger
    else if layout.zeroSign then .error (.zeroSignRefused .number)
    else if layout.sign.isSome then .error .signOfCharacter
    else if layout.alternate then .error .alternateCharacter
    else if n < 0 ∨ 0x110000 ≤ n then .error .noSuchCharacter
    else return lay 3 ⟨[], [], [Char.ofNat size]⟩
  | 'e' => floating fun p => scientificText 'e' p layout.alternate false size
  | 'E' => floating fun p => scientificText 'E' p layout.alternate false size
  | 'f' => floating fun p => fixedText p layout.alternate size
  | 'F' => floating fun p => fixedText p layout.alternate size
  | 'g' => floating fun p => generalText 'e' p layout.alternate size
  | 'G' => floating fun p => generalText 'E' p layout.alternate size
  | '%' => floating fun p =>
    let text := fixedText p layout.alternate (size * 100)
    { text with ending := text.ending ++ ['%'] }
  | form => .error (.unknownForm form .number)

end MarkupAudit.Text.Template
