import MarkupAudit.Text.Table.CaseContext
import MarkupAudit.Text.Table.CaseMap

/-!
# Upper and lower case

The full case mappings of Unicode: some characters change into several, and a capital sigma takes
its final form at the end of a word.

Main statement: characters of ASCII change one by one, whatever stands around them
(`lowerFrom_append`).
-/

namespace MarkupAudit

namespace Text

def shiftedChar (n : Nat) (shift : Int) : Char :=
  Char.ofNat (Int.toNat (n + shift))

/-- The characters that a character changes into: an expansion if it has one, else the run it lies
on moves it, else it stays. -/
def mapCase (expansions : List (Nat × List Nat)) (runs : List CaseRun) (c : Char) : List Char :=
  match expansions.lookup c.toNat with
  | some codes => codes.map Char.ofNat
  | none =>
    match runs.find? (·.covers c.toNat) with
    | some run => [shiftedChar c.toNat run.shift]
    | none => [c]

def upperChar (c : Char) : List Char :=
  if c.toNat < 0x80 then [c.toUpper] else mapCase upperExpansions upperRuns c

/-- The lower case of one character, whatever stands around it. -/
def lowerChar (c : Char) : List Char :=
  if c.toNat < 0x80 then [c.toLower] else mapCase lowerExpansions lowerRuns c

/-- The nearest character that counts as a neighbour has case. -/
def nextIsCased (cs : List Char) : Bool :=
  match cs.dropWhile isCaseIgnorable with
  | [] => false
  | c :: _ => isCased c

/-- The lower case of a character between the text before it, nearest first, and the text after it.
A capital sigma is final when a letter stands before it and none after it. -/
def lowerAt (before : List Char) (c : Char) (after : List Char) : List Char :=
  if c = 'Σ' then [if nextIsCased before && !nextIsCased after then 'ς' else 'σ'] else lowerChar c

/-- The lower case of a text of which the part before it is known, nearest character first. -/
def lowerFrom (before : List Char) : List Char → List Char
  | [] => []
  | c :: rest => lowerAt before c rest ++ lowerFrom (c :: before) rest

theorem lowerAt_of_ascii {c : Char} (h : c.toNat < 0x80) (before after : List Char) :
    lowerAt before c after = [c.toLower] := by
  have hsigma : c ≠ 'Σ' := by
    rintro rfl
    exact absurd h (by decide)
  rw [lowerAt, if_neg hsigma, lowerChar, if_pos h]

/-- Characters of ASCII change one by one, whatever stands around them. -/
theorem lowerFrom_append {cs : List Char} (h : ∀ c ∈ cs, c.toNat < 0x80)
    (before rest : List Char) :
    lowerFrom before (cs ++ rest) =
      cs.map Char.toLower ++ lowerFrom (cs.reverse ++ before) rest := by
  induction cs generalizing before with
  | nil => rfl
  | cons c cs ih =>
    have hcs := ih (fun d hd => h d (List.mem_cons_of_mem c hd)) (c :: before)
    simp [lowerFrom, lowerAt_of_ascii (h c List.mem_cons_self), hcs]

/-- Only capitals of ASCII are changed by the lower case of ASCII, and into its small letters. -/
theorem ascii_of_toLower {c : Char} (h : c.toLower.toNat < 0x80) : c.toNat < 0x80 := by
  unfold Char.toLower at h
  split at h
  · next hupper =>
    simp only [ge_iff_le, UInt32.le_iff_toNat_le] at hupper
    change 65 ≤ c.toNat ∧ c.toNat ≤ 90 at hupper
    omega
  · exact h

end Text

namespace Chars

def lower (cs : List Char) : List Char :=
  Text.lowerFrom [] cs

def upper (cs : List Char) : List Char :=
  cs.flatMap Text.upperChar

end Chars

namespace Text

def lower (s : String) : String :=
  String.ofList (Chars.lower s.toList)

def upper (s : String) : String :=
  String.ofList (Chars.upper s.toList)

/-- The text with its first letter in upper case; for texts of lower case letters. -/
def capitalized (s : String) : String :=
  match s.toList with
  | [] => ""
  | c :: rest => String.ofList (upperChar c ++ rest)

end Text

end MarkupAudit
