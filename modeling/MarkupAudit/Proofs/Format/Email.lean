import MarkupAudit.Format.Email
import MarkupAudit.Proofs.Faults.Formats
import Mathlib.Data.List.Basic

/-!
# The grammar of e-mail addresses

An address is told here by what it is put together from: atoms and dots, an `@`, labels and dots.
The checks come to this grammar from the other side, by counting and cutting. Behind the local part
and behind each label one line end is allowed that belongs to neither.

Main statement: `Email.accepts_exactly_addresses`.
-/

namespace MarkupAudit

namespace Email

open Text (not_isBlank_of_visible)

/-! ## The grammar -/

namespace Grammar

def Letter (c : Char) : Prop :=
  ('A' ≤ c ∧ c ≤ 'Z') ∨ ('a' ≤ c ∧ c ≤ 'z')

def LetterOrDigit (c : Char) : Prop :=
  Letter c ∨ ('0' ≤ c ∧ c ≤ '9')

/-- What an atom may have besides letters and digits. -/
def signs : List Char := "!#$%&'*+/=?^_\x60\x7b|\x7d~-".toList

def AtomChar (c : Char) : Prop :=
  LetterOrDigit c ∨ c ∈ signs

def LabelChar (c : Char) : Prop :=
  LetterOrDigit c ∨ c = '-'

/-- One or more characters of an atom. -/
def Atom (cs : List Char) : Prop :=
  cs ≠ [] ∧ ∀ c ∈ cs, AtomChar c

/-- Atoms with dots between them. -/
def LocalPart (cs : List Char) : Prop :=
  ∃ atoms, atoms ≠ [] ∧ (∀ atom ∈ atoms, Atom atom) ∧ cs = ['.'].intercalate atoms

/-- Up to 63 letters, digits and hyphens, the first and the last of them no hyphens. -/
structure Label (cs : List Char) : Prop where
  first : ∃ c, cs.head? = some c ∧ LetterOrDigit c
  last : ∃ c, cs.getLast? = some c ∧ LetterOrDigit c
  chars : ∀ c ∈ cs, LabelChar c
  length_le : cs.length ≤ 63

/-- From 2 to 63 letters, or a mark and behind it from 1 to 59 letters, digits and hyphens. -/
def TopLevelName (cs : List Char) : Prop :=
  (2 ≤ cs.length ∧ cs.length ≤ 63 ∧ ∀ c ∈ cs, Letter c) ∨
    ∃ rest, cs = "xn--".toList ++ rest ∧ 1 ≤ rest.length ∧ rest.length ≤ 59 ∧
      ∀ c ∈ rest, LabelChar c

/-- The part, and perhaps one line end behind it. -/
def Ended (part : List Char → Prop) (cs : List Char) : Prop :=
  ∃ body, part body ∧ (cs = body ∨ cs = body ++ ['\n'])

/-- Two or more labels with dots between them, the last of them a top level name. -/
def Domain (cs : List Char) : Prop :=
  ∃ labels last, cs = ['.'].intercalate (labels ++ [last]) ∧ labels ≠ [] ∧
    (∀ label ∈ labels, Ended Label label) ∧
    Ended (fun body => Label body ∧ TopLevelName body) last

structure Address (cs : List Char) : Prop where
  length_le : cs.length ≤ 254
  count_at : cs.count '@' = 1
  halves : ∃ localPart domain, cs = localPart ++ '@' :: domain ∧ localPart.length ≤ 64 ∧
    Ended LocalPart localPart ∧ Domain domain

instance : DecidablePred Letter :=
  fun c => inferInstanceAs (Decidable (('A' ≤ c ∧ c ≤ 'Z') ∨ ('a' ≤ c ∧ c ≤ 'z')))

instance : DecidablePred LetterOrDigit :=
  fun c => inferInstanceAs (Decidable (Letter c ∨ ('0' ≤ c ∧ c ≤ '9')))

instance : DecidablePred AtomChar :=
  fun c => inferInstanceAs (Decidable (LetterOrDigit c ∨ c ∈ signs))

instance : DecidablePred LabelChar :=
  fun c => inferInstanceAs (Decidable (LetterOrDigit c ∨ c = '-'))

variable {c : Char} {cs body : List Char}

theorem isAlpha_iff : c.isAlpha = true ↔ Letter c := by
  have hupper : c.isUpper = true ↔ 'A' ≤ c ∧ c ≤ 'Z' := decide_eq_true_iff
  have hlower : c.isLower = true ↔ 'a' ≤ c ∧ c ≤ 'z' :=
    Bool.and_eq_true_iff.trans (and_congr decide_eq_true_iff decide_eq_true_iff)
  rw [Letter, ← hupper, ← hlower]
  exact Bool.or_eq_true_iff

theorem isAlphanum_iff : c.isAlphanum = true ↔ LetterOrDigit c := by
  have hdigit : c.isDigit = true ↔ '0' ≤ c ∧ c ≤ '9' :=
    Bool.and_eq_true_iff.trans (and_congr decide_eq_true_iff decide_eq_true_iff)
  rw [LetterOrDigit, ← hdigit, ← isAlpha_iff]
  exact Bool.or_eq_true_iff

theorem isAtomChar_iff : isAtomChar c = true ↔ AtomChar c := by
  rw [isAtomChar, Bool.or_eq_true, isAlphanum_iff, List.contains_iff_mem]
  rfl

theorem isLabelChar_iff : isLabelChar c = true ↔ LabelChar c := by
  simp [isLabelChar, LabelChar, isAlphanum_iff]

theorem AtomChar.of_labelChar (h : LabelChar c) : AtomChar c := by
  rcases h with h | rfl
  · exact Or.inl h
  · decide

theorem AtomChar.visible (h : AtomChar c) : 33 ≤ c.toNat ∧ c.toNat ≤ 126 := by
  rcases h with ((h | h) | h) | h
  · simp only [Char.le_def, UInt32.le_iff_toNat_le] at h
    change 65 ≤ c.toNat ∧ c.toNat ≤ 90 at h
    omega
  · simp only [Char.le_def, UInt32.le_iff_toNat_le] at h
    change 97 ≤ c.toNat ∧ c.toNat ≤ 122 at h
    omega
  · simp only [Char.le_def, UInt32.le_iff_toNat_le] at h
    change 48 ≤ c.toNat ∧ c.toNat ≤ 57 at h
    omega
  · have hsigns : signs.all fun c => decide (33 ≤ c.toNat) && decide (c.toNat ≤ 126) := by decide
    simpa using List.all_eq_true.1 hsigns c h

/-! ## One line end behind a part -/

theorem Ended.imp {part part' : List Char → Prop} (himp : ∀ body, part body → part' body)
    (h : Ended part cs) : Ended part' cs := by
  rcases h with ⟨body, hbody, hcs⟩
  exact ⟨body, himp body hbody, hcs⟩

/-- A part that does not end with a line end is found by taking one away. -/
theorem ended_iff {part : List Char → Prop} (hpart : ∀ body, part body → '\n' ∉ body) :
    Ended part cs ↔ part (withoutLineEnd cs) := by
  rw [withoutLineEnd]
  constructor
  · rintro ⟨body, hbody, hcs⟩
    have hlast : body.getLast? ≠ some '\n' := fun hlast =>
      hpart body hbody (List.mem_of_getLast? hlast)
    rcases hcs with rfl | rfl
    · rwa [if_neg hlast]
    · rwa [if_pos List.getLast?_concat, List.dropLast_concat]
  · intro h
    split at h
    · next hlast => exact ⟨_, h, Or.inr (List.dropLast_append_getLast? _ hlast).symm⟩
    · exact ⟨cs, h, Or.inl rfl⟩

/-! ## Parts -/

theorem isAtom_iff : isAtom cs = true ↔ Atom cs := by
  simp [isAtom, Atom, isAtomChar_iff]

theorem Atom.not_mem (h : Atom cs) (hc : ¬ AtomChar c) : c ∉ cs :=
  fun hmem => hc (h.2 c hmem)

theorem localPart_iff : LocalPart cs ↔ ∀ atom ∈ Chars.splitOn '.' cs, Atom atom := by
  constructor
  · rintro ⟨atoms, hne, hatoms, hjoined⟩
    have hdots : ∀ atom ∈ atoms, '.' ∉ atom := fun atom hatom =>
      (hatoms atom hatom).not_mem (by decide)
    rwa [Chars.splitOn_eq_iff.2 ⟨hne, hdots, hjoined⟩]
  · intro hatoms
    exact ⟨_, Chars.splitOn_ne_nil _ _, hatoms, (Chars.intercalate_splitOn _ _).symm⟩

/-- What stands in a local part besides the dots is allowed in an atom. -/
theorem eq_or_atomChar_of_mem_localPart (h : LocalPart cs) (hc : c ∈ cs) :
    c = '.' ∨ AtomChar c :=
  (Chars.eq_or_exists_mem_splitOn '.' hc).imp_right fun ⟨atom, hatom, hmem⟩ =>
    (localPart_iff.1 h atom hatom).2 c hmem

theorem isLocalPart_iff : isLocalPart cs = true ↔ Ended LocalPart cs := by
  have hpart : ∀ body, LocalPart body → '\n' ∉ body := by
    intro body hbody hmem
    rcases eq_or_atomChar_of_mem_localPart hbody hmem with h | h
    · cases h
    · exact absurd h (by decide)
  rw [ended_iff hpart, localPart_iff, isLocalPart, List.all_eq_true]
  simp only [isAtom_iff]

theorem Label.not_mem (h : Label cs) (hc : ¬ LabelChar c) : c ∉ cs :=
  fun hmem => hc (h.chars c hmem)

theorem isLabel_iff_label : isLabel cs = true ↔ Label (withoutLineEnd cs) := by
  have hsome : ∀ c? : Option Char, (c?.map Char.isAlphanum).getD false = true ↔
      ∃ c, c? = some c ∧ LetterOrDigit c := by
    intro c?
    cases c? <;> simp [isAlphanum_iff]
  rw [isLabel]
  generalize withoutLineEnd cs = body
  simp only [Bool.and_eq_true, hsome, List.all_eq_true, isLabelChar_iff, decide_eq_true_eq]
  constructor
  · rintro ⟨⟨⟨hfirst, hlast⟩, hchars⟩, hlength⟩
    exact ⟨hfirst, hlast, hchars, hlength⟩
  · intro h
    exact ⟨⟨⟨h.first, h.last⟩, h.chars⟩, h.length_le⟩

theorem isLabel_iff : isLabel cs = true ↔ Ended Label cs := by
  rw [ended_iff fun body hbody => hbody.not_mem (by decide), isLabel_iff_label]

theorem isTopLevelName_iff : isTopLevelName cs = true ↔ TopLevelName (withoutLineEnd cs) := by
  rw [isTopLevelName, TopLevelName]
  generalize withoutLineEnd cs = body
  simp only [Bool.or_eq_true, Bool.and_eq_true, List.all_eq_true, isAlpha_iff, isLabelChar_iff,
    decide_eq_true_eq, Bool.not_eq_true', List.isEmpty_eq_false_iff_exists_mem]
  refine or_congr ⟨?_, ?_⟩ ⟨?_, ?_⟩
  · rintro ⟨⟨hletters, hleast⟩, hmost⟩
    exact ⟨hleast, hmost, hletters⟩
  · rintro ⟨hleast, hmost, hletters⟩
    exact ⟨⟨hletters, hleast⟩, hmost⟩
  · rintro ⟨⟨⟨hmark, hchars⟩, hsome⟩, hmost⟩
    rcases List.isPrefixOf_iff_prefix.1 hmark with ⟨rest, rfl⟩
    rw [List.drop_left] at hchars hsome hmost
    exact ⟨rest, rfl, List.length_pos_of_mem hsome.choose_spec, hmost, hchars⟩
  · rintro ⟨rest, rfl, hleast, hmost, hchars⟩
    rw [encodedMark, List.drop_left]
    exact ⟨⟨⟨List.isPrefixOf_iff_prefix.2 ⟨rest, rfl⟩, hchars⟩,
      List.exists_mem_of_length_pos hleast⟩, hmost⟩

theorem ended_last_iff : Ended (fun body => Label body ∧ TopLevelName body) cs ↔
    isLabel cs = true ∧ isTopLevelName cs = true := by
  rw [ended_iff fun body hbody => hbody.1.not_mem (by decide), isLabel_iff,
    ended_iff fun body hbody => hbody.not_mem (by decide), isTopLevelName_iff]

theorem eq_or_labelChar_of_mem_ended (h : Ended Label cs) (hc : c ∈ cs) :
    c = '\n' ∨ LabelChar c := by
  rcases h with ⟨body, hbody, rfl | rfl⟩
  · exact Or.inr (hbody.chars c hc)
  · rcases List.mem_append.1 hc with hmem | hend
    · exact Or.inr (hbody.chars c hmem)
    · exact Or.inl (List.mem_singleton.1 hend)

theorem Ended.not_mem (h : Ended Label cs) (hend : c ≠ '\n') (hc : ¬ LabelChar c) : c ∉ cs := by
  intro hmem
  rcases eq_or_labelChar_of_mem_ended h hmem with heq | hlabel
  · exact hend heq
  · exact hc hlabel

/-- The pieces between the dots of a domain are its labels. -/
theorem domain_iff : Domain cs ↔
    ∃ labels last, Chars.splitOn '.' cs = labels ++ [last] ∧ labels ≠ [] ∧
      (∀ label ∈ labels, Ended Label label) ∧
      Ended (fun body => Label body ∧ TopLevelName body) last := by
  constructor
  · rintro ⟨labels, last, hjoined, hne, hlabels, hlast⟩
    have hdots : ∀ label ∈ labels ++ [last], '.' ∉ label := by
      intro label hlabel
      rcases List.mem_append.1 hlabel with hfirst | hend
      · exact (hlabels label hfirst).not_mem (by decide) (by decide)
      · rcases List.mem_singleton.1 hend with rfl
        exact (hlast.imp fun _ hbody => hbody.1).not_mem (by decide) (by decide)
    exact ⟨labels, last, Chars.splitOn_eq_iff.2 ⟨by simp, hdots, hjoined⟩, hne, hlabels, hlast⟩
  · rintro ⟨labels, last, hsplit, hne, hlabels, hlast⟩
    exact ⟨labels, last, (Chars.splitOn_eq_iff.1 hsplit).2.2, hne, hlabels, hlast⟩

theorem isDomain_iff : isDomain cs = true ↔ Domain cs := by
  have hchecked : ∀ labels last, Chars.splitOn '.' cs = labels ++ [last] →
      (isDomain cs = true ↔ labels ≠ [] ∧ (∀ label ∈ labels, Ended Label label) ∧
        Ended (fun body => Label body ∧ TopLevelName body) last) := by
    intro labels last hsplit
    have hseveral : 2 ≤ (labels ++ [last]).length ↔ labels ≠ [] := by
      cases labels <;> simp
    have hlabels : (labels ++ [last]).all isLabel = true ↔
        (∀ label ∈ labels, Ended Label label) ∧ isLabel last = true := by
      simp [isLabel_iff]
    rw [isDomain, hsplit, ended_last_iff]
    simp only [Bool.and_eq_true, decide_eq_true_eq, hseveral, hlabels, List.getLast?_concat,
      Option.map_some, Option.getD_some, and_assoc]
  rw [domain_iff]
  constructor
  · intro h
    rcases List.eq_nil_or_concat (Chars.splitOn '.' cs) with hnone | ⟨labels, last, hsplit⟩
    · exact absurd hnone (Chars.splitOn_ne_nil _ _)
    · rw [List.concat_eq_append] at hsplit
      exact ⟨labels, last, hsplit, (hchecked labels last hsplit).1 h⟩
  · rintro ⟨labels, last, hsplit, h⟩
    exact (hchecked labels last hsplit).2 h

/-! ## Addresses -/

/-- With one `@` in the text there is one way to cut it there. -/
theorem halves_eq_ok_iff {localPart domain : List Char} (hcount : cs.count '@' = 1) :
    Email.halves cs = .ok (localPart, domain) ↔ cs = localPart ++ '@' :: domain := by
  constructor
  · intro h
    rw [Email.halves] at h
    split at h
    · next hsplit =>
      cases h
      simpa [List.intercalate] using (Chars.splitOn_eq_iff.1 hsplit).2.2
    · cases h
    · cases h
  · rintro rfl
    rw [List.count_append, List.count_cons_self] at hcount
    have hnone : '@' ∉ localPart ∧ '@' ∉ domain :=
      ⟨List.count_eq_zero.1 (by omega), List.count_eq_zero.1 (by omega)⟩
    rw [Email.halves, Chars.splitOn_append_cons hnone.1, Chars.splitOn_eq_singleton hnone.2]

theorem exists_isAddress_eq_ok (cs : List Char) :
    ∃ accepted, isAddress cs = .ok accepted ∧ (accepted = true ↔ Address cs) := by
  rw [isAddress]
  by_cases hbounds : cs.length ≤ 254 ∧ cs.count '@' = 1
  · rcases hbounds with ⟨hlength, hcount⟩
    rcases succeeds_halves hcount with ⟨⟨localPart, domain⟩, hhalves⟩
    have hpassed : (cs.isEmpty || decide (254 < cs.length) || cs.count '@' != 1) = false := by
      cases cs with
      | nil => simp at hcount
      | cons c rest => simpa [hcount] using hlength
    refine ⟨_, by rw [if_neg (by simp [hpassed]), hhalves]; rfl, ?_⟩
    simp only [Bool.and_eq_true, decide_eq_true_eq, isLocalPart_iff, isDomain_iff]
    constructor
    · rintro ⟨⟨⟨-, hmost⟩, hlocal⟩, hdomain⟩
      exact ⟨hlength, hcount, localPart, domain, (halves_eq_ok_iff hcount).1 hhalves, hmost, hlocal,
        hdomain⟩
    · rintro ⟨-, -, localPart', domain', hcs, hmost, hlocal, hdomain⟩
      rcases hhalves.symm.trans ((halves_eq_ok_iff hcount).2 hcs) with ⟨⟩
      refine ⟨⟨⟨?_, hmost⟩, hlocal⟩, hdomain⟩
      cases localPart with
      | nil => exact absurd (isLocalPart_iff.2 hlocal) (by decide)
      | cons c rest => rfl
  · refine ⟨false, if_pos ?_, by simp, fun h => absurd ⟨h.length_le, h.count_at⟩ hbounds⟩
    rw [not_and_or, Nat.not_le] at hbounds
    rcases hbounds with hlength | hcount
    · simp [hlength]
    · simp [hcount]

/-- Behind the `@` of an address its domain stands. -/
theorem Address.domain {localPart domain : List Char} (h : Address cs)
    (hcs : cs = localPart ++ '@' :: domain) : Domain domain := by
  rcases h.halves with ⟨localPart', domain', hcs', -, -, hdomain⟩
  have hhalves := (halves_eq_ok_iff h.count_at).2 hcs
  rcases hhalves.symm.trans ((halves_eq_ok_iff h.count_at).2 hcs') with ⟨⟩
  exact hdomain

theorem Domain.ended (h : Domain cs) : ∀ label ∈ Chars.splitOn '.' cs, Ended Label label := by
  rcases domain_iff.1 h with ⟨labels, last, hsplit, -, hlabels, hlast⟩
  intro label hlabel
  rcases List.mem_append.1 (hsplit ▸ hlabel) with hfirst | hend
  · exact hlabels label hfirst
  · rcases List.mem_singleton.1 hend with rfl
    exact hlast.imp fun _ hbody => hbody.1

/-- What stands in an address is a line end or a visible character of ASCII. -/
theorem eq_or_visible_of_mem_address (h : Address cs) (hc : c ∈ cs) :
    c = '\n' ∨ 33 ≤ c.toNat ∧ c.toNat ≤ 126 := by
  rcases h.halves with ⟨localPart, domain, rfl, -, ⟨body, hbody, hlocal⟩, hdomain⟩
  rcases List.mem_append.1 hc with hmem | hmem
  · have hinner : c ∈ body → 33 ≤ c.toNat ∧ c.toNat ≤ 126 := by
      intro hmem
      rcases eq_or_atomChar_of_mem_localPart hbody hmem with rfl | hatom
      · decide
      · exact hatom.visible
    rcases hlocal with rfl | rfl
    · exact Or.inr (hinner hmem)
    · exact (List.mem_append.1 hmem).symm.imp List.mem_singleton.1 hinner
  · rcases List.mem_cons.1 hmem with rfl | hmem
    · decide
    rcases Chars.eq_or_exists_mem_splitOn '.' hmem with rfl | ⟨label, hlabel, hmem⟩
    · decide
    · refine (eq_or_labelChar_of_mem_ended (hdomain.ended label hlabel) hmem).imp_right ?_
      exact fun hchar => (AtomChar.of_labelChar hchar).visible

end Grammar

open Grammar

/-- The check of an address always gives an answer, and accepts exactly what the grammar allows. So
nothing outside ASCII is accepted, no blank besides line ends, and no label without characters. -/
theorem accepts_exactly_addresses (s : String) :
    ∃ accepted, isValid s = .ok accepted ∧ (accepted = true ↔ Address s.toList) ∧
      (accepted = true →
        (∀ c ∈ s.toList, c.toNat < 128 ∧ (Text.isBlank c = true → c = '\n')) ∧
        ∀ localPart domain, s.toList = localPart ++ '@' :: domain →
          ∀ label ∈ Chars.splitOn '.' domain, withoutLineEnd label ≠ []) := by
  rcases exists_isAddress_eq_ok s.toList with ⟨accepted, hvalid, hiff⟩
  refine ⟨accepted, hvalid, hiff, fun haccepted => ⟨fun c hc => ?_, ?_⟩⟩
  · rcases eq_or_visible_of_mem_address (hiff.1 haccepted) hc with rfl | hvisible
    · exact ⟨by decide, fun _ => rfl⟩
    · refine ⟨Nat.lt_succ_of_le (Nat.le_succ_of_le hvisible.2), fun hblank => ?_⟩
      rw [not_isBlank_of_visible hvisible] at hblank
      cases hblank
  · intro localPart domain hcs label hlabel hnone
    have hended : Ended Label label := ((hiff.1 haccepted).domain hcs).ended label hlabel
    rcases ((ended_iff fun body hbody => hbody.not_mem (by decide)).1 hended).first with ⟨c, hc, -⟩
    simp [hnone] at hc

/-- An address with a line end behind each of its parts. -/
theorem accepts_exactly_addresses_line_ends :
    let s := "n.o'b\n@a-1\n.xn--p1ai\n"
    isValid s = .ok true ∧ Address s.toList ∧ Text.isBlank '\n' = true ∧
      (∀ c ∈ s.toList, Text.isBlank c = true → c = '\n') ∧
      ∀ label ∈ Chars.splitOn '.' "a-1\n.xn--p1ai\n".toList, withoutLineEnd label ≠ [] := by
  intro s
  rcases accepts_exactly_addresses s with ⟨accepted, hvalid, hiff, hchars⟩
  have haccepted : isValid s = .ok true := by decide +kernel
  have htrue : accepted = true := Except.ok.inj (hvalid.symm.trans haccepted)
  rcases hchars htrue with ⟨hblank, hlabels⟩
  exact ⟨haccepted, hiff.1 htrue, by decide, fun c hc => (hblank c hc).2,
    hlabels "n.o'b\n".toList _ (by decide)⟩

end Email

end MarkupAudit
