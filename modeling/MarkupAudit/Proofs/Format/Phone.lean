import MarkupAudit.Format.Phone
import Mathlib.Data.List.Basic

/-!
# The language of phone numbers

What the check of a number accepts: up to the first semicolon, and without the characters that are
passed over, a sign and enough digits. Whether a number is accepted depends on nothing else of it.

Main statement: `Phone.accepts_exactly_dialable_numbers`.
-/

namespace MarkupAudit.Phone

/-! ## The language -/

def letters : List Char := "pwabcd".toList

/-- Blanks, some punctuation, and some letters in either case. -/
def PassedOver (c : Char) : Prop :=
  Text.isBlank c = true ∨ c ∈ "-().*#".toList ∨ c ∈ letters ∨ c ∈ letters.map Char.toUpper

instance : DecidablePred PassedOver :=
  fun c => inferInstanceAs (Decidable (Text.isBlank c = true ∨ c ∈ "-().*#".toList ∨
    c ∈ letters ∨ c ∈ letters.map Char.toUpper))

/-- The text begins so, and goes on with a semicolon if it goes on. -/
def UpToSemicolon (number cs : List Char) : Prop :=
  ';' ∉ number ∧ ∃ rest, cs = number ++ rest ∧ (rest = [] ∨ rest.head? = some ';')

/-- A plus sign or none, and behind it decimal digits only, at least so many of them. -/
def Dialled (least : Int) (cs : List Char) : Prop :=
  ∃ sign digits, cs = sign ++ digits ∧ (sign = [] ∨ sign = ['+']) ∧
    (∀ c ∈ digits, Text.isDecimalDigit c = true) ∧ least ≤ digits.length

/-- Up to the first semicolon, and without the characters that are passed over, the text is dialled;
whatever the minimum, with three digits at least. -/
def Dialable (minimum : Int) (cs : List Char) : Prop :=
  ∃ number, UpToSemicolon number cs ∧
    Dialled (max 3 minimum) (number.filter fun c => decide (¬ PassedOver c))

variable {cs ds : List Char} {minimum : Int}

/-! ## What is left of a number -/

theorem isSeparator_iff {c : Char} : isSeparator c = true ↔ PassedOver c := by
  have hsigns : "-().*#pwabcdPWABCD".toList =
      "-().*#".toList ++ (letters ++ letters.map Char.toUpper) := by decide
  rw [isSeparator, PassedOver, Bool.or_eq_true, List.contains_iff_mem, hsigns, List.mem_append,
    List.mem_append]

theorem significant_eq (cs : List Char) :
    significant cs = (withoutParameterChars cs).filter fun c => decide (¬ PassedOver c) := by
  refine List.filter_congr fun c _ => ?_
  rw [Bool.eq_iff_iff, Bool.not_eq_true', ← Bool.not_eq_true, isSeparator_iff, decide_eq_true_eq]

theorem withoutParameterChars_eq_iff {number : List Char} :
    withoutParameterChars cs = number ↔ UpToSemicolon number cs :=
  Chars.before_eq_iff

/-- What is passed over may stand or not, anywhere before the first semicolon. -/
theorem significant_append (head tail : List Char) {separators : List Char} (hhead : ';' ∉ head)
    (hseparators : ∀ c ∈ separators, PassedOver c) :
    significant (head ++ separators ++ tail) = significant (head ++ tail) := by
  have hsemicolon : ';' ∉ separators := fun hmem => absurd (hseparators ';' hmem) (by decide)
  have hnothing : separators.filter (fun c => decide (¬ PassedOver c)) = [] := by
    simpa [List.filter_eq_nil_iff] using hseparators
  simp only [significant_eq, withoutParameterChars, List.append_assoc, Chars.before_append hhead,
    Chars.before_append hsemicolon, List.filter_append, hnothing, List.nil_append]

theorem significant_append_cons (head tail : List Char) :
    significant (head ++ ';' :: tail) = significant head := by
  simp only [significant, withoutParameterChars, Chars.before_append_cons]

/-! ## Digits -/

theorem isNumber_congr (h : significant cs = significant ds) (minimum : Int) :
    isNumber cs minimum = isNumber ds minimum := by
  rw [isNumber, isNumber, digits?, digits?, h]

theorem isNumber_iff : isNumber cs minimum = true ↔
    (∀ c ∈ withoutPlus (significant cs), Text.isDecimalDigit c = true) ∧
      max 3 minimum ≤ (withoutPlus (significant cs)).length := by
  have hleast : ∀ n : Nat, max 3 minimum ≤ n ↔ leastDigits ≤ n ∧ minimum ≤ n := by
    intro n
    rw [leastDigits]
    omega
  rw [isNumber, digits?, hleast]
  generalize withoutPlus (significant cs) = body
  by_cases hdigits : body.all Text.isDecimalDigit = true ∧ leastDigits ≤ body.length
  · simpa [hdigits] using fun _ => List.all_eq_true.1 hdigits.1
  · have hnone : ¬ ((∀ c ∈ body, Text.isDecimalDigit c = true) ∧ leastDigits ≤ body.length) := by
      simpa using hdigits
    rw [if_neg (by simpa using hdigits), ← and_assoc]
    simp [hnone]

theorem withoutPlus_append {sign digits : List Char} (hsign : sign = [] ∨ sign = ['+'])
    (hdigits : ∀ c ∈ digits, Text.isDecimalDigit c = true) :
    withoutPlus (sign ++ digits) = digits := by
  rcases hsign with rfl | rfl
  · cases digits with
    | nil => rfl
    | cons c rest =>
      have hplus : c ≠ '+' := by
        rintro rfl
        exact absurd (hdigits '+' List.mem_cons_self) (by decide)
      rw [List.nil_append, withoutPlus.eq_def]
      split
      · next heq => exact absurd (List.cons.inj heq).1 hplus
      · rfl
  · rfl

theorem exists_sign (cs : List Char) :
    ∃ sign, cs = sign ++ withoutPlus cs ∧ (sign = [] ∨ sign = ['+']) := by
  rw [withoutPlus.eq_def]
  split
  · exact ⟨['+'], rfl, Or.inr rfl⟩
  · exact ⟨[], rfl, Or.inl rfl⟩

theorem dialled_iff {least : Int} : Dialled least cs ↔
    (∀ c ∈ withoutPlus cs, Text.isDecimalDigit c = true) ∧ least ≤ (withoutPlus cs).length := by
  constructor
  · rintro ⟨sign, digits, rfl, hsign, hdigits, hleast⟩
    rw [withoutPlus_append hsign hdigits]
    exact ⟨hdigits, hleast⟩
  · rintro ⟨hdigits, hleast⟩
    rcases exists_sign cs with ⟨sign, hcs, hsign⟩
    exact ⟨sign, _, hcs, hsign, hdigits, hleast⟩

/-! ## Numbers -/

theorem isNumber_iff_dialable : isNumber cs minimum = true ↔ Dialable minimum cs := by
  rw [isNumber_iff, ← dialled_iff, significant_eq, Dialable]
  constructor
  · intro h
    exact ⟨_, withoutParameterChars_eq_iff.1 rfl, h⟩
  · rintro ⟨number, hnumber, h⟩
    rwa [withoutParameterChars_eq_iff.2 hnumber]

theorem Dialable.anti {more : Int} (hmore : minimum ≤ more) (h : Dialable more cs) :
    Dialable minimum cs := by
  rcases h with ⟨number, hnumber, sign, digits, hleft, hsign, hdigits, hleast⟩
  exact ⟨number, hnumber, sign, digits, hleft, hsign, hdigits, by omega⟩

/-- The check of a number always gives an answer, and accepts exactly what can be dialled. So it
gives the same answer with and without characters that are passed over, whatever stands behind the
first semicolon; and what is refused is refused with a larger minimum too. -/
theorem accepts_exactly_dialable_numbers (minimum : Int) :
    (∀ number : String, ∃ accepted, isNumberFor number (.int minimum) = .ok accepted ∧
      (accepted = true ↔ Dialable minimum number.toList)) ∧
    (∀ head separators tail : String, ';' ∉ head.toList →
      (∀ c ∈ separators.toList, PassedOver c) →
      isNumberFor (head ++ separators ++ tail) (.int minimum) =
        isNumberFor (head ++ tail) (.int minimum)) ∧
    (∀ head tail tail' : String,
      isNumberFor (head ++ ";" ++ tail) (.int minimum) =
        isNumberFor (head ++ ";" ++ tail') (.int minimum)) ∧
    ∀ (number : String) (more : Int), minimum ≤ more →
      isNumberFor number (.int minimum) = .ok false →
        isNumberFor number (.int more) = .ok false := by
  refine ⟨fun number => ⟨_, rfl, isNumber_iff_dialable⟩, ?_, ?_, ?_⟩
  · intro head separators tail hhead hseparators
    have hsame : significant (head ++ separators ++ tail).toList =
        significant (head ++ tail).toList := by
      simpa using significant_append head.toList tail.toList hhead hseparators
    exact congrArg Except.ok (isNumber_congr hsame minimum)
  · intro head tail tail'
    have hsame : ∀ behind : String, significant (head ++ ";" ++ behind).toList =
        significant head.toList := by
      intro behind
      simpa using significant_append_cons head.toList behind.toList
    exact congrArg Except.ok (isNumber_congr ((hsame tail).trans (hsame tail').symm) minimum)
  · intro number more hmore hrefused
    have hnot : ¬ Dialable minimum number.toList := by
      rw [← isNumber_iff_dialable, Except.ok.inj hrefused]
      decide
    have hmorenot : ¬ isNumber number.toList more = true := fun haccepted =>
      hnot ((isNumber_iff_dialable.1 haccepted).anti hmore)
    exact congrArg Except.ok (Bool.eq_false_iff.2 hmorenot)

/-- A number of seven digits, with characters between them that are passed over. -/
theorem accepts_exactly_dialable_numbers_seven :
    let separators := " (.P"
    ';' ∉ "+49".toList ∧ (∀ c ∈ separators.toList, PassedOver c) ∧
      isNumberFor ("+49" ++ separators ++ "89123;ext=5") (.int 7) = .ok true ∧
      isNumberFor ("+49" ++ "89123;ext=5") (.int 7) = .ok true ∧
      Dialable 7 ("+49" ++ "89123;ext=5").toList ∧
      (8 : Int) ≤ 9 ∧ isNumberFor "+4989123" (.int 8) = .ok false ∧
      isNumberFor "+4989123" (.int 9) = .ok false := by
  intro separators
  rcases accepts_exactly_dialable_numbers 7 with ⟨haccepts, hseparators, -, -⟩
  rcases accepts_exactly_dialable_numbers 8 with ⟨-, -, -, hlarger⟩
  have hhead : ';' ∉ "+49".toList := by decide
  have hpassed : ∀ c ∈ separators.toList, PassedOver c := by
    have hall : separators.toList.all fun c => decide (PassedOver c) := by decide
    simpa using hall
  have haccepted : isNumberFor ("+49" ++ separators ++ "89123;ext=5") (.int 7) = .ok true := by
    decide +kernel
  have hrefused : isNumberFor "+4989123" (.int 8) = .ok false := by decide +kernel
  have hwithout := (hseparators "+49" separators "89123;ext=5" hhead hpassed).symm.trans haccepted
  rcases haccepts ("+49" ++ "89123;ext=5") with ⟨accepted, hanswer, hiff⟩
  have htrue : accepted = true := Except.ok.inj (hanswer.symm.trans hwithout)
  exact ⟨hhead, hpassed, haccepted, hwithout, hiff.1 htrue, by decide, hrefused,
    hlarger "+4989123" 9 (by decide) hrefused⟩

end MarkupAudit.Phone
