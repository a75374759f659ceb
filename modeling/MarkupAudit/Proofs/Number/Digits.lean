import Mathlib.Data.List.TakeWhile
import MarkupAudit.Number.Integer

/-!
# Texts of digits

A character that looks like a digit is neither a blank nor a sign nor a low line, so a text of such
characters is read as an integer from its first character to its last. It gives none when one of
them is not a decimal digit, and when there are too many. An integer is written unless it has too
many digits, which is to say, unless it is too far from zero.

Main statements: `exists_readInteger_eq_error`, `exists_readInteger_eq_ok` and `isWritable_iff`.
-/

namespace MarkupAudit

namespace Text

/-- The ranges of the characters that look like digits, decimal digits included. -/
def digitRanges : List Range :=
  zeroDigits.map (fun z => (z, z + 9)) ++ digitLikeRanges

/-- The ranges of blanks, of the two signs and of the low line. -/
def besideDigitRanges : List Range :=
  blankRanges ++ ['+', '-', '_'].map fun c => (c.toNat, c.toNat)

theorem exists_digitRange {c : Char} (hlike : isDigitLike c = true) :
    ∃ r ∈ digitRanges, r.1 ≤ c.toNat ∧ c.toNat ≤ r.2 := by
  rcases Bool.or_eq_true_iff.1 hlike with hdecimal | hother
  · rw [isDecimalDigit, digitValue?, Option.isSome_map, List.find?_isSome] at hdecimal
    rcases hdecimal with ⟨z, hz, hbounds⟩
    refine ⟨(z, z + 9), List.mem_append_left _ (List.mem_map_of_mem hz), ?_⟩
    simpa using hbounds
  · have hincreasing : Range.Increasing digitLikeRanges := by decide
    rcases (Range.covers_iff hincreasing (by decide) _).1 hother with ⟨r, hr, hbounds⟩
    exact ⟨r, List.mem_append_right _ hr, hbounds⟩

/-- No character is in a range of digits and in one of blanks or signs. -/
theorem not_besideDigit {c : Char} (hlike : isDigitLike c = true) {r : Range}
    (hr : r ∈ besideDigitRanges) : ¬ (r.1 ≤ c.toNat ∧ c.toNat ≤ r.2) := by
  -- Two ranges of the one and the other kind lie apart, so no code point needs to be looked at.
  have hapart : ∀ s ∈ digitRanges, ∀ r ∈ besideDigitRanges, s.2 < r.1 ∨ r.2 < s.1 := by
    decide +kernel
  rcases exists_digitRange hlike with ⟨s, hs, hbounds⟩
  have := hapart s hs r hr
  omega

theorem isBlank_of_isDigitLike {c : Char} (hlike : isDigitLike c = true) : isBlank c = false := by
  have hincreasing : Range.Increasing blankRanges := by decide
  rw [← Bool.not_eq_true, isBlank, Range.covers_iff hincreasing (by decide)]
  rintro ⟨r, hr, hbounds⟩
  exact not_besideDigit hlike (List.mem_append_left _ hr) hbounds

theorem ne_of_isDigitLike {c sign : Char} (hlike : isDigitLike c = true)
    (hsign : sign ∈ ['+', '-', '_']) : c ≠ sign := by
  rintro rfl
  exact not_besideDigit hlike (List.mem_append_right _ (List.mem_map_of_mem hsign))
    ⟨Nat.le_refl _, Nat.le_refl _⟩

end Text

namespace Number

open Text (isDecimalDigit isDigitLike)

variable {cs : List Char}

theorem unpadded_of_digitLike (hlike : ∀ c ∈ cs, isDigitLike c = true) : unpadded cs = cs := by
  have hpadding : ∀ c ∈ cs, isPadding c = false := fun c hc => by
    simp [isPadding, Text.isBlank_of_isDigitLike (hlike c hc)]
  have hdrop : ∀ ds : List Char, (∀ c ∈ ds, isPadding c = false) →
      ds.dropWhile isPadding = ds := by
    intro ds hds
    cases ds with
    | nil => rfl
    | cons c rest => simp [hds c List.mem_cons_self]
  rw [unpadded, hdrop cs hpadding, hdrop cs.reverse (by simpa using hpadding),
    List.reverse_reverse]

theorem signed_of_digitLike (hlike : ∀ c ∈ cs, isDigitLike c = true) : signed cs = (false, cs) := by
  cases cs with
  | nil => rfl
  | cons c rest =>
    have hc := hlike c List.mem_cons_self
    have hplus : c ≠ '+' := Text.ne_of_isDigitLike hc (by decide)
    have hminus : c ≠ '-' := Text.ne_of_isDigitLike hc (by decide)
    simp [signed, hplus, hminus]

variable {text : String}

/-- What looks like a digit is read up to the first character that is not a decimal digit. -/
theorem readInteger_of_digitLike (hlike : ∀ c ∈ text.toList, isDigitLike c = true) :
    ∃ ds, ds.length = (text.toList.takeWhile isDecimalDigit).length ∧
      readInteger text =
        if ds.length > digitLimit then .error (.tooManyDigits ds.length)
        else if ds.isEmpty || !(text.toList.dropWhile isDecimalDigit).isEmpty then
          .error (.malformedInteger text)
        else .ok (ofDigits ds) := by
  have hplain : ∀ c ∈ text.toList, c ≠ '_' := fun c hc =>
    Text.ne_of_isDigitLike (hlike c hc) (by decide)
  rcases @digitRun_of_no_lowLine text.toList hplain .start (by decide) with ⟨ds, hrun, hlength⟩
  refine ⟨ds, hlength, ?_⟩
  rw [readInteger, unpadded_of_digitLike hlike, signed_of_digitLike hlike]
  simp [hrun]

theorem exists_readInteger_eq_error (hlike : ∀ c ∈ text.toList, isDigitLike c = true)
    (hbad : (∃ c ∈ text.toList, isDecimalDigit c = false) ∨ digitLimit < text.toList.length) :
    ∃ cause, readInteger text = .error cause ∧ cause.isOverflow = false := by
  rcases readInteger_of_digitLike hlike with ⟨ds, hlength, hread⟩
  by_cases hmany : ds.length > digitLimit
  · exact ⟨.tooManyDigits ds.length, by rw [hread, if_pos hmany], rfl⟩
  · refine ⟨.malformedInteger text, ?_, rfl⟩
    -- With few digits the text is not too long, so one of its characters ends the run of digits.
    have hrest : text.toList.dropWhile isDecimalDigit ≠ [] := by
      intro hnil
      have hall : ∀ c ∈ text.toList, isDecimalDigit c = true := List.dropWhile_eq_nil_iff.1 hnil
      rcases hbad with ⟨c, hc, hother⟩ | hlimit
      · simp [hall c hc] at hother
      · rw [List.takeWhile_eq_self_iff.2 hall] at hlength
        exact hmany (hlength.symm ▸ hlimit)
    rw [hread, if_neg hmany, if_pos (by simp [hrest])]

theorem exists_readInteger_eq_ok (hne : text.toList ≠ [])
    (hgood : ¬ ((∃ c ∈ text.toList, isDecimalDigit c = false) ∨
      digitLimit < text.toList.length)) :
    ∃ n, readInteger text = .ok n := by
  rw [not_or, Nat.not_lt] at hgood
  have hdecimal : ∀ c ∈ text.toList, isDecimalDigit c = true := by
    intro c hc
    rw [← Bool.not_eq_false]
    exact fun hother => hgood.1 ⟨c, hc, hother⟩
  have hlike : ∀ c ∈ text.toList, isDigitLike c = true := fun c hc =>
    Text.isDigitLike_of_isDecimalDigit (hdecimal c hc)
  rcases readInteger_of_digitLike hlike with ⟨ds, hlength, hread⟩
  have hrest : text.toList.dropWhile isDecimalDigit = [] := List.dropWhile_eq_nil_iff.2 hdecimal
  rw [List.takeWhile_eq_self_iff.2 hdecimal] at hlength
  have hds : ds ≠ [] := by
    rintro rfl
    exact hne (List.length_eq_zero_iff.1 hlength.symm)
  exact ⟨ofDigits ds, by rw [hread, if_neg (by omega), if_neg (by simp [hds, hrest])]⟩

theorem isWritable_iff {n : Int} : IsWritable n ↔ n.natAbs < Nat.pow 10 digitLimit := by
  have hlimit : 0 < digitLimit := by decide
  rw [IsWritable]
  -- The power is not to be worked out.
  generalize digitLimit = limit at hlimit ⊢
  exact Nat.length_toDigits_le_iff (by decide) hlimit

end Number

end MarkupAudit
