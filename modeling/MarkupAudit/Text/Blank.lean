import MarkupAudit.Text.Range

/-!
# Blanks

Which characters count as blank space, and the operations that cut a text at blanks: trimming and
splitting into words. Each is defined on lists of characters, with a version on strings beside it.

Main statements: trimming keeps a text that neither starts nor ends with a blank (`trim_eq_self`),
trims a text to nothing exactly when it is blank (`trim_eq_nil_iff`), and does not depend on the
blanks around a text (`trim_append_append`).
-/

namespace MarkupAudit

namespace Text

/-- The blank characters: controls that move the print position, the information separators, and
every space and line separator of Unicode. The zero width space and the byte order mark are not
blank. -/
def blankRanges : List Range :=
  [(0x9, 0xD), (0x1C, 0x20), (0x85, 0x85), (0xA0, 0xA0), (0x1680, 0x1680), (0x2000, 0x200A),
    (0x2028, 0x2029), (0x202F, 0x202F), (0x205F, 0x205F), (0x3000, 0x3000)]

def isBlank (c : Char) : Bool :=
  Range.covers blankRanges c.toNat

theorem not_isBlank_of_visible {c : Char} (h : 33 ≤ c.toNat ∧ c.toNat ≤ 126) :
    isBlank c = false := by
  have hranges : ∀ n ≤ 126, 33 ≤ n → Range.covers blankRanges n = false := by decide
  exact hranges c.toNat h.2 h.1

end Text

namespace Chars

open Text (isBlank)

def trimLeft (cs : List Char) : List Char :=
  cs.dropWhile isBlank

def trimRight (cs : List Char) : List Char :=
  (cs.reverse.dropWhile isBlank).reverse

/-- The characters without leading and trailing blanks. -/
def trim (cs : List Char) : List Char :=
  trimRight (trimLeft cs)

def extendFirst (c : Char) : List (List Char) → List (List Char)
  | [] => [[c]]
  | word :: rest => (c :: word) :: rest

def words : List Char → List (List Char)
  | [] => []
  | [c] => if isBlank c then [] else [[c]]
  | c :: d :: rest =>
    if isBlank c then words (d :: rest)
    else if isBlank d then [c] :: words (d :: rest)
    else extendFirst c (words (d :: rest))

/-- Nothing but blanks. -/
def allBlank (cs : List Char) : Bool :=
  cs.all isBlank

theorem trimLeft_eq_self {c : Char} {cs : List Char} (h : isBlank c = false) :
    trimLeft (c :: cs) = c :: cs := by
  simp [trimLeft, h]

theorem trimRight_eq_self {cs : List Char} (h : ∀ c ∈ cs.getLast?, isBlank c = false) :
    trimRight cs = cs := by
  cases hr : cs.reverse with
  | nil => simp [List.reverse_eq_nil_iff.1 hr, trimRight]
  | cons c rest =>
    have hlast : cs.getLast? = some c := by rw [← List.head?_reverse, hr]; rfl
    have hkept : isBlank c = false := h c (by simp [hlast])
    rw [trimRight, hr, List.dropWhile_cons_of_neg (by simp [hkept]), ← hr, List.reverse_reverse]

/-- A text that neither starts nor ends with a blank is left as it is. -/
theorem trim_eq_self {cs : List Char} (hfirst : ∀ c ∈ cs.head?, isBlank c = false)
    (hlast : ∀ c ∈ cs.getLast?, isBlank c = false) : trim cs = cs := by
  cases cs with
  | nil => rfl
  | cons c rest =>
    rw [trim, trimLeft_eq_self (hfirst c rfl), trimRight_eq_self hlast]

theorem trimLeft_eq_nil_iff {cs : List Char} : trimLeft cs = [] ↔ allBlank cs = true := by
  induction cs with
  | nil => simp [trimLeft, allBlank]
  | cons c rest ih => cases h : isBlank c <;> simp_all [trimLeft, allBlank]

theorem allBlank_trimLeft {cs : List Char} : allBlank (trimLeft cs) = allBlank cs := by
  induction cs with
  | nil => rfl
  | cons c rest ih => cases h : isBlank c <;> simp_all [trimLeft, allBlank]

/-- A text is trimmed to nothing exactly when it is blank. -/
theorem trim_eq_nil_iff {cs : List Char} : trim cs = [] ↔ allBlank cs = true := by
  have hright : trim cs = [] ↔ trimLeft (trimLeft cs).reverse = [] := by
    simp [trim, trimRight, trimLeft]
  rw [hright, trimLeft_eq_nil_iff, ← @allBlank_trimLeft cs]
  simp [allBlank]

theorem trimLeft_append {blanks : List Char} (h : allBlank blanks = true) (cs : List Char) :
    trimLeft (blanks ++ cs) = trimLeft cs :=
  List.dropWhile_append_of_pos (List.all_eq_true.1 h)

theorem trimRight_append {blanks : List Char} (h : allBlank blanks = true) (cs : List Char) :
    trimRight (cs ++ blanks) = trimRight cs := by
  have hreversed : allBlank blanks.reverse = true := by rwa [allBlank, List.all_reverse]
  have hdropped := trimLeft_append hreversed cs.reverse
  rw [trimLeft, trimLeft] at hdropped
  rw [trimRight, List.reverse_append, hdropped, ← trimRight]

/-- The blanks around a text do not show when it is trimmed. -/
theorem trim_append_append {front back : List Char} (hfront : allBlank front = true)
    (hback : allBlank back = true) (cs : List Char) : trim (front ++ cs ++ back) = trim cs := by
  rw [List.append_assoc, trim, trimLeft_append hfront]
  by_cases hblank : allBlank cs = true
  · have hboth : allBlank (cs ++ back) = true := by simp_all [allBlank]
    rw [← trim, trim_eq_nil_iff.2 hboth, trim_eq_nil_iff.2 hblank]
  · have hsome : (trimLeft cs).isEmpty = false := by
      simpa [trimLeft_eq_nil_iff] using hblank
    have hkept : trimLeft (cs ++ back) = trimLeft cs ++ back := by
      rw [trimLeft] at hsome ⊢
      rw [List.dropWhile_append, hsome]
      rfl
    rw [hkept, trimRight_append hback, trim]

end Chars

namespace Text

/-- The text without leading and trailing blanks. -/
def trim (s : String) : String :=
  String.ofList (Chars.trim s.toList)

def words (s : String) : List String :=
  (Chars.words s.toList).map String.ofList

/-- Nothing but blanks, possibly nothing at all. -/
def isBlankText (s : String) : Bool :=
  Chars.allBlank s.toList

theorem isBlankText_append (s t : String) :
    isBlankText (s ++ t) = (isBlankText s && isBlankText t) := by
  simp [isBlankText, Chars.allBlank]

end Text

end MarkupAudit
