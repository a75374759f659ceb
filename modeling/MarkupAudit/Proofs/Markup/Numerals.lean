import Mathlib.Data.List.TakeWhile
import MarkupAudit.Markup.Tag
import MarkupAudit.Proofs.Faults.Success

/-!
# Numerals that are not read

A decimal reference with too many digits is the one thing in an attribute value that cannot be
decoded. What a reference takes of a value has no ampersand in it, so whether such a numeral stands
somewhere in the value decides, wherever the references before it end. The values of a tag are
pieces of its text, so a text without such a numeral has no value with one.

Main statements: `Reference.succeeds_decodeValue_iff`, `Tag.exists_undecodable_iff` and
`Tag.hasLong_of_mem_attributesOf`.
-/

namespace MarkupAudit.Markup

/-! ## Numerals in a text -/

namespace Reference

/-- The text begins with more decimal digits than are read. -/
def BeginsLong (cs : List Char) : Prop :=
  Number.digitLimit < (cs.takeWhile Char.isDigit).length

/-- A decimal reference with too many digits stands somewhere in the text. -/
def HasLong (cs : List Char) : Prop :=
  ∃ rest, '&' :: '#' :: rest <:+ cs ∧ BeginsLong rest

/-- Such a reference begins with an ampersand that stands before the text. -/
def LongBehind (cs : List Char) : Prop :=
  ∃ rest, cs = '#' :: rest ∧ BeginsLong rest

/-- The fault of a numeral that is too long. -/
def TooLong (cause : Number.Fault) : Prop :=
  ∃ digits, Number.digitLimit < digits ∧ cause = .tooManyDigits digits

variable {cs value : List Char} {c : Char}

theorem BeginsLong.append (hlong : BeginsLong cs) (more : List Char) : BeginsLong (cs ++ more) := by
  have hlength : (cs.takeWhile Char.isDigit).length ≤
      ((cs ++ more).takeWhile Char.isDigit).length := by
    rw [List.takeWhile_append]
    split
    case isTrue hall => simp [hall]
    case isFalse => exact Nat.le_refl _
  exact Nat.lt_of_lt_of_le hlong hlength

theorem not_hasLong_nil : ¬ HasLong [] := by
  rintro ⟨rest, hsuffix, -⟩
  simp at hsuffix

/-- The first such reference of a text stands at its start or further on. -/
theorem hasLong_cons_iff : HasLong (c :: cs) ↔
    (c = '&' ∧ LongBehind cs) ∨ HasLong cs := by
  constructor
  · rintro ⟨rest, hsuffix, hlong⟩
    rcases List.suffix_cons_iff.1 hsuffix with heq | hsuffix
    · cases heq
      exact .inl ⟨rfl, rest, rfl, hlong⟩
    · exact .inr ⟨rest, hsuffix, hlong⟩
  · rintro (⟨rfl, rest, rfl, hlong⟩ | ⟨rest, hsuffix, hlong⟩)
    · exact ⟨rest, List.suffix_refl _, hlong⟩
    · exact ⟨rest, hsuffix.trans (List.suffix_cons c cs), hlong⟩

theorem hasLong_cons_of_ne (hne : c ≠ '&') : HasLong (c :: cs) ↔ HasLong cs := by
  simp [hasLong_cons_iff, hne]

theorem hasLong_append {front : List Char} (hfront : '&' ∉ front) :
    HasLong (front ++ cs) ↔ HasLong cs := by
  induction front with
  | nil => rfl
  | cons c front ih =>
    have hne : c ≠ '&' := fun heq => hfront (heq ▸ List.mem_cons_self)
    rw [List.cons_append, hasLong_cons_of_ne hne, ih fun h => hfront (List.mem_cons_of_mem c h)]

/-- What a piece of a text has in it the text has in it. -/
theorem HasLong.of_piece (hlong : HasLong value) (hpiece : value <:+: cs) : HasLong cs := by
  rcases hpiece with ⟨before, behind, rfl⟩
  rcases hlong with ⟨rest, ⟨front, rfl⟩, hlong⟩
  exact ⟨rest ++ behind, ⟨before ++ front, by simp⟩, hlong.append behind⟩

theorem HasLong.of_drop {n : Nat} (hlong : HasLong (cs.drop n)) : HasLong cs :=
  hlong.of_piece (List.drop_suffix n cs).isInfix

theorem HasLong.cons (hlong : HasLong cs) (c : Char) : HasLong (c :: cs) :=
  hlong.of_piece (List.suffix_cons c cs).isInfix

/-! ## Decoding a value -/

theorem decimalNumber_eq_error_iff {digits : List Char} {cause : Number.Fault} :
    decimalNumber digits = .error cause ↔
      Number.digitLimit < digits.length ∧ .tooManyDigits digits.length = cause := by
  by_cases hlong : Number.digitLimit < digits.length <;> simp [decimalNumber, hlong]

/-- What a numeral stands for is known unless it is too long. -/
theorem succeeds_decimal_iff {α : Type} (f : Nat → α) :
    Succeeds ((decimalNumber (cs.takeWhile Char.isDigit)).map f) ↔ ¬ BeginsLong cs := by
  rw [succeeds_map_iff, ← not_iff_not, not_succeeds_iff, not_not]
  simp [decimalNumber_eq_error_iff, BeginsLong]

theorem tooLong_of_decimalNumber {digits : List Char} {cause : Number.Fault}
    (h : decimalNumber digits = .error cause) : TooLong cause := by
  rcases decimalNumber_eq_error_iff.1 h with ⟨hlong, rfl⟩
  exact ⟨_, hlong, rfl⟩

theorem not_mem_take_semicolon {front : List Char} (hstarts : front <+: cs)
    (hfront : '&' ∉ front) : '&' ∉ cs.take (front.length + semicolon (cs.drop front.length)) := by
  rcases hstarts with ⟨rest, rfl⟩
  have hclosing : '&' ∉ rest.take (semicolon rest) := by
    cases rest with
    | nil => simp
    | cons c rest => by_cases hc : c = ';' <;> simp [semicolon, hc]
  rw [List.drop_left, List.take_length_add_append, List.mem_append]
  exact not_or.2 ⟨hfront, hclosing⟩

theorem not_mem_takeWhile {p : Char → Bool} (hp : p '&' = false) : '&' ∉ cs.takeWhile p := by
  intro hmem
  simpa [hp] using List.mem_takeWhile_imp hmem

theorem longBehind_cons_iff : LongBehind ('#' :: cs) ↔ BeginsLong cs := by
  simp [LongBehind]

theorem not_longBehind_of_ne (hne : ∀ rest, cs ≠ '#' :: rest) : ¬ LongBehind cs := by
  rintro ⟨rest, heq, -⟩
  exact hne rest heq

theorem BeginsLong.isEmpty_eq_false (hlong : BeginsLong cs) :
    (cs.takeWhile Char.isDigit).isEmpty = false := by
  rw [List.isEmpty_eq_false_iff, ← List.length_pos_iff]
  exact Nat.zero_lt_of_lt hlong

/-- What a reference takes has no ampersand in it, and what it stands for is unknown only if it is
a numeral that is too long. -/
theorem matchInValue_spec {meaning : Except Number.Fault (List Char)} {length : Nat}
    (h : matchInValue cs = some (meaning, length)) :
    (Succeeds meaning ↔ ¬ LongBehind cs) ∧ '&' ∉ cs.take length ∧
      ∀ cause, meaning = .error cause → TooLong cause := by
  revert h
  fun_cases matchInValue cs with
  | case1 rest decimal hsome =>
    rintro ⟨⟩
    refine ⟨by rw [succeeds_decimal_iff, longBehind_cons_iff], ?_,
      fun _ hcause => tooLong_of_decimalNumber (eq_error_of_map hcause)⟩
    have hrest : '&' ∉ rest.take (decimal.length + semicolon (rest.drop decimal.length)) :=
      not_mem_take_semicolon (List.takeWhile_prefix _) (not_mem_takeWhile (by decide))
    rw [Nat.add_assoc, Nat.add_comm 1, List.take_succ_cons]
    simpa using hrest
  | case2 mark more digits hhex decimal hnone =>
    rintro ⟨⟩
    -- A mark for hexadecimal digits stands where the first decimal one would.
    have hshort : ¬ LongBehind ('#' :: mark :: more) := by
      rw [longBehind_cons_iff]
      intro hlong
      exact hnone (Bool.not_eq_true' _ ▸ hlong.isEmpty_eq_false)
    have hmark : '&' ≠ mark := by
      rintro rfl
      simp at hhex
    have hmore : '&' ∉ more.take (digits.length + semicolon (more.drop digits.length)) :=
      not_mem_take_semicolon (List.takeWhile_prefix _) (not_mem_takeWhile (by decide))
    refine ⟨iff_of_true (succeeds_ok _) hshort, ?_, by rintro _ ⟨⟩⟩
    rw [Nat.add_assoc, Nat.add_comm 2, List.take_succ_cons, List.take_succ_cons]
    simpa [hmark] using hmore
  | case3 mark more digits hhex decimal hnone => rintro ⟨⟩
  | case4 decimal hnone => rintro ⟨⟩
  | case5 _ name hempty =>
    intro h
    rw [if_pos hempty] at h
    cases h
  | case6 _ name hsome hother =>
    intro h
    rw [if_neg hsome] at h
    cases h
    have hstarts : name <+: cs := (List.take_prefix _ _).trans (List.takeWhile_prefix _)
    have hname : '&' ∉ name := fun hmem =>
      not_mem_takeWhile (by decide) (List.mem_of_mem_take hmem)
    exact ⟨iff_of_true (succeeds_ok _) (not_longBehind_of_ne hother),
      not_mem_take_semicolon hstarts hname, by rintro _ ⟨⟩⟩

theorem not_longBehind_of_matchInValue (h : matchInValue cs = none) : ¬ LongBehind cs := by
  rintro ⟨rest, rfl, hlong⟩
  simp [matchInValue, hlong.isEmpty_eq_false] at h

/-- What is still to be skipped belongs to a reference and has no other one in it. -/
theorem succeeds_decodeFrom_iff (skip : Nat) (cs : List Char) :
    Succeeds (decodeFrom skip cs) ↔ ¬ HasLong (cs.drop skip) := by
  fun_induction decodeFrom skip cs with
  | case1 => exact iff_of_true (succeeds_ok _) (by simpa using not_hasLong_nil)
  | case2 skip _ rest ih => exact ih
  | case3 rest meaning length hmatch ih =>
    rcases matchInValue_spec hmatch with ⟨hmeaning, hbetween, -⟩
    have hbehind : HasLong (rest.drop length) ↔ HasLong rest := by
      rw [← hasLong_append hbetween, List.take_append_drop]
    rw [List.drop_zero, hasLong_cons_iff, not_or, ← hbehind, ← ih]
    -- The reference at the start decides first; if it is read, those behind it do.
    cases meaning with
    | error cause =>
      have hlong : LongBehind rest := not_not.1 (mt hmeaning.2 (not_succeeds_error cause))
      exact iff_of_false (not_succeeds_error cause) fun h => h.1 ⟨rfl, hlong⟩
    | ok cs =>
      have hshort : ¬ ('&' = '&' ∧ LongBehind rest) := fun h => hmeaning.1 (succeeds_ok cs) h.2
      rw [and_iff_right hshort]
      exact succeeds_map_iff (cs ++ ·)
  | case4 rest hnone ih =>
    have hshort : ¬ LongBehind rest := not_longBehind_of_matchInValue hnone
    simp [succeeds_map_iff, ih, hasLong_cons_iff, hshort]
  | case5 c rest hne ih =>
    rw [succeeds_map_iff, ih, List.drop_zero, List.drop_zero, hasLong_cons_of_ne hne]

theorem tooLong_of_decodeFrom {skip : Nat} {cause : Number.Fault}
    (h : decodeFrom skip cs = .error cause) : TooLong cause := by
  revert h
  fun_induction decodeFrom skip cs with
  | case1 => rintro ⟨⟩
  | case2 skip _ rest ih => exact ih
  | case3 rest meaning length hmatch ih =>
    rcases matchInValue_spec hmatch with ⟨-, -, hcause⟩
    cases meaning with
    | error _ =>
      rintro ⟨⟩
      exact hcause cause rfl
    | ok cs => exact fun h => ih (eq_error_of_map (f := (cs ++ ·)) h)
  | case4 rest hnone ih => exact fun h => ih (eq_error_of_map h)
  | case5 c rest hne ih => exact fun h => ih (eq_error_of_map h)

/-- A value is decoded unless a decimal reference with too many digits stands in it. -/
theorem succeeds_decodeValue_iff : Succeeds (decodeValue value) ↔ ¬ HasLong value := by
  rw [decodeValue, succeeds_map_iff, succeeds_decodeFrom_iff, List.drop_zero]

theorem tooLong_of_decodeValue {cause : Number.Fault} (h : decodeValue value = .error cause) :
    TooLong cause :=
  tooLong_of_decodeFrom (eq_error_of_map h)

end Reference

/-! ## Values of a tag -/

namespace Tag

open Reference (HasLong TooLong hasLong_cons_of_ne not_hasLong_nil)

variable {cs : List Char}

theorem hasLong_bareValue (hlong : HasLong (bareValue cs)) : HasLong cs :=
  hlong.of_piece (List.takeWhile_prefix _).isInfix

/-- A value is a piece of the text behind the name, except that an equals sign may stand before. -/
theorem hasLong_of_value? {found : List Char × Nat} (h : value? cs = some found)
    (hlong : HasLong found.1) : HasLong cs := by
  have hbody (blanks signs spaces : Nat)
      (h : HasLong (((cs.drop blanks).drop signs).drop spaces)) : HasLong cs :=
    h.of_drop.of_drop.of_drop
  revert h
  fun_cases value? cs with
  | case1 => rintro ⟨⟩
  | case2 =>
    rintro ⟨⟩
    exact absurd hlong not_hasLong_nil
  | case3 blanks afterBlanks signs afterSigns spaces body before hsigns quote rest hcons hquote =>
    rintro ⟨⟩
    have hrest : HasLong rest := hlong.of_piece (List.takeWhile_prefix _).isInfix
    have hquoted : HasLong body := by
      rw [hcons]
      exact hrest.cons quote
    exact hbody blanks signs spaces hquoted
  | case4 =>
    rintro ⟨⟩
    exact absurd hlong not_hasLong_nil
  | case5 blanks afterBlanks signs afterSigns spaces body =>
    rintro ⟨⟩
    have hbare : HasLong (bareValue body) := (hasLong_cons_of_ne (by decide)).1 hlong
    exact hbody blanks signs spaces (hasLong_bareValue hbare)
  | case6 => rintro ⟨⟩
  | case7 blanks afterBlanks signs afterSigns spaces =>
    rintro ⟨⟩
    exact hbody blanks signs spaces (hasLong_bareValue hlong)

theorem hasLong_of_attribute? {before c : Char} {found : Written × Nat}
    (h : attribute? before c cs = some found) (hlong : HasLong found.1.2) : HasLong cs := by
  revert h
  fun_cases attribute? before c cs with
  | case1 hallowed more afterName value length hvalue ending =>
    rintro ⟨⟩
    have hafter : HasLong afterName := by
      cases hfound : value? afterName with
      | none =>
        rw [hfound] at hvalue
        cases hvalue
        exact absurd hlong not_hasLong_nil
      | some found =>
        rw [hfound] at hvalue
        cases hvalue
        exact hasLong_of_value? hfound hlong
    exact hafter.of_drop
  | case2 => rintro ⟨⟩

theorem hasLong_of_mem_attributes {before : Char} {found : Written}
    (hmem : found ∈ (attributes before cs).1) (hlong : HasLong found.2) : HasLong cs := by
  fun_induction attributes before cs with
  | case1 => cases hmem
  | case2 => cases hmem
  | case3 before c rest first length hfirst last others total hothers ih =>
    have hrest : HasLong rest := by
      rcases List.mem_cons.1 hmem with rfl | hmem
      · exact hasLong_of_attribute? hfirst hlong
      · have hbehind : HasLong (rest.drop length) := ih (hothers ▸ hmem)
        exact hbehind.of_drop
    exact hrest.cons c

/-- How many characters stand before the attributes of a tag. -/
def opening (cs : List Char) : Nat :=
  (name cs).length + gap (cs.drop (name cs).length)

def attributesOf (cs : List Char) : List Written × Nat :=
  attributes ((cs.take (opening cs)).getLast?.getD '<') (cs.drop (opening cs))

/-- What stands behind the attributes of a tag. -/
def ending (cs : List Char) : List Char :=
  cs.drop (opening cs + (attributesOf cs).2)

theorem hasLong_of_mem_attributesOf {found : Written} (hmem : found ∈ (attributesOf cs).1)
    (hlong : HasLong found.2) : HasLong cs :=
  (hasLong_of_mem_attributes hmem hlong).of_drop

theorem ending_of_attributesOf {found : List Written} {total : Nat}
    (h : attributesOf cs = (found, total)) : ending cs = cs.drop (opening cs + total) := by
  rw [ending, h]

theorem recognise_eq_undecodable_iff {cause : Number.Fault} : recognise cs = .undecodable cause ↔
    mayGoOn (ending cs) = false ∧ decoded (attributesOf cs).1 = .error cause := by
  fun_cases recognise cs with
  | case1 _ _ _ found total hfound _ _ hgoes =>
    have hending : mayGoOn (ending cs) = true := by
      rw [ending_of_attributesOf hfound]
      exact hgoes
    simp [hending]
  | case2 _ _ _ found total hfound _ _ hstays fault hfault =>
    have hending : mayGoOn (ending cs) = false := by
      rw [ending_of_attributesOf hfound]
      exact Bool.not_eq_true _ ▸ hstays
    have hfound : attributesOf cs = (found, total) := hfound
    simp [hending, hfound, hfault]
  | case3 _ _ _ found total hfound _ _ _ kept _ _ hkept => 
    have hfound : attributesOf cs = (found, total) := hfound
    simp [hfound, hkept]
  | case4 _ _ _ found total hfound _ _ _ kept _ _ hkept =>
    have hfound : attributesOf cs = (found, total) := hfound
    simp [hfound, hkept]
  | case5 _ _ _ found total hfound _ _ _ kept hkept =>
    have hfound : attributesOf cs = (found, total) := hfound
    simp [hfound, hkept]

/-- The attributes of what may be a tag are decoded unless one has a numeral that is too long. -/
theorem exists_undecodable_iff : (∃ cause, recognise cs = .undecodable cause) ↔
    mayGoOn (ending cs) = false ∧ ∃ found ∈ (attributesOf cs).1, HasLong found.2 := by
  have hdecoded : (∃ cause, decoded (attributesOf cs).1 = .error cause) ↔
      ∃ found ∈ (attributesOf cs).1, HasLong found.2 := by
    rw [← not_succeeds_iff, decoded, succeeds_mapM_iff]
    simp [succeeds_map_iff, Reference.succeeds_decodeValue_iff]
  simp only [recognise_eq_undecodable_iff, exists_and_left, hdecoded]

theorem tooLong_of_undecodable {cause : Number.Fault} (h : recognise cs = .undecodable cause) :
    TooLong cause := by
  rcases exists_of_mapM_eq_error (recognise_eq_undecodable_iff.1 h).2 with ⟨found, -, hcause⟩
  exact Reference.tooLong_of_decodeValue (eq_error_of_map hcause)

end Tag

end MarkupAudit.Markup
