/-!
# Cutting and joining texts

Cutting a text at a separator, looking for one text in another, and replacing characters.

Main statements: the pieces of a cut joined by the separator give the text back
(`intercalate_splitOn`), pieces that do not hold the separator are found again
(`splitOn_intercalate`), and so a text is cut into exactly those pieces that do not hold the
separator and make up the text (`splitOn_eq_iff`). What stands before the first separator ends where
the text ends or the separator follows (`before_eq_iff`).
-/

namespace MarkupAudit

namespace Chars

/-- The pieces between the occurrences of a separator; always at least one. -/
def splitOn (separator : Char) : List Char → List (List Char)
  | [] => [[]]
  | c :: rest =>
    if c = separator then [] :: splitOn separator rest
    else match splitOn separator rest with
      | [] => [[c]]
      | piece :: pieces => (c :: piece) :: pieces

def before (separator : Char) (cs : List Char) : List Char :=
  cs.takeWhile (· != separator)

/-- The characters after the first separator, when there is one. -/
def after? (separator : Char) : List Char → Option (List Char)
  | [] => none
  | c :: rest => if c = separator then some rest else after? separator rest

def isInfix (pattern : List Char) : List Char → Bool
  | [] => pattern.isEmpty
  | c :: rest => pattern.isPrefixOf (c :: rest) || isInfix pattern rest

theorem splitOn_ne_nil (separator : Char) (cs : List Char) : splitOn separator cs ≠ [] := by
  cases cs with
  | nil => simp [splitOn]
  | cons c rest =>
    unfold splitOn
    split
    · simp
    · split <;> simp

/-- A text is cut into one piece more than it has separators. -/
theorem length_splitOn (separator : Char) (cs : List Char) :
    (splitOn separator cs).length = cs.count separator + 1 := by
  induction cs with
  | nil => rfl
  | cons c rest ih =>
    rcases List.exists_cons_of_ne_nil (splitOn_ne_nil separator rest) with ⟨piece, pieces, heq⟩
    rw [heq] at ih
    by_cases hc : c = separator
    · simpa [splitOn, hc, heq] using ih
    · simpa [splitOn, hc, heq] using ih

theorem intercalate_splitOn (separator : Char) (cs : List Char) :
    [separator].intercalate (splitOn separator cs) = cs := by
  induction cs with
  | nil => simp [splitOn]
  | cons c rest ih =>
    rcases List.exists_cons_of_ne_nil (splitOn_ne_nil separator rest) with ⟨piece, pieces, heq⟩
    rw [heq] at ih
    unfold splitOn
    split
    · next hc =>
      rw [heq, hc]
      simpa [List.intercalate] using ih
    · rw [heq]
      cases pieces with
      | nil => simpa [List.intercalate] using ih
      | cons q qs => simpa [List.intercalate] using ih

theorem splitOn_eq_singleton {separator : Char} {cs : List Char} (h : separator ∉ cs) :
    splitOn separator cs = [cs] := by
  induction cs with
  | nil => rfl
  | cons c rest ih =>
    have hc : c ≠ separator := fun heq => h (by simp [heq])
    simp [splitOn, hc, ih fun hmem => h (List.mem_cons_of_mem _ hmem)]

theorem splitOn_append_cons {separator : Char} {cs : List Char} (h : separator ∉ cs)
    (rest : List Char) :
    splitOn separator (cs ++ separator :: rest) = cs :: splitOn separator rest := by
  induction cs with
  | nil => simp [splitOn]
  | cons c cs ih =>
    have hc : c ≠ separator := fun heq => h (by simp [heq])
    simp [splitOn, hc, ih fun hmem => h (List.mem_cons_of_mem _ hmem)]

/-- Pieces that do not hold the separator are found again. -/
theorem splitOn_intercalate {separator : Char} {piece : List Char} {pieces : List (List Char)}
    (h : ∀ p ∈ piece :: pieces, separator ∉ p) :
    splitOn separator ([separator].intercalate (piece :: pieces)) = piece :: pieces := by
  induction pieces generalizing piece with
  | nil => simpa [List.intercalate] using splitOn_eq_singleton (h piece (by simp))
  | cons q qs ih =>
    have hrest := @ih q fun p hp => h p (List.mem_cons_of_mem _ hp)
    have hsplit := splitOn_append_cons (h piece (by simp)) ([separator].intercalate (q :: qs))
    rw [hrest] at hsplit
    simpa [List.intercalate] using hsplit

theorem mem_splitOn_not_mem {separator : Char} {cs piece : List Char}
    (h : piece ∈ splitOn separator cs) : separator ∉ piece := by
  induction cs generalizing piece with
  | nil => simp [splitOn] at h; simp [h]
  | cons c rest ih =>
    rcases List.exists_cons_of_ne_nil (splitOn_ne_nil separator rest) with ⟨head, tail, heq⟩
    unfold splitOn at h
    split at h
    · rcases List.mem_cons.1 h with rfl | hrest
      · simp
      · exact ih hrest
    · next hc =>
      rw [heq] at h
      rcases List.mem_cons.1 h with rfl | htail
      · intro hmem
        rcases List.mem_cons.1 hmem with rfl | hhead
        · exact hc rfl
        · exact ih (by simp [heq]) hhead
      · exact ih (by simp [heq, htail])

/-- A text is cut into exactly those pieces that do not hold the separator and make up the text. -/
theorem splitOn_eq_iff {separator : Char} {cs : List Char} {pieces : List (List Char)} :
    splitOn separator cs = pieces ↔
      pieces ≠ [] ∧ (∀ p ∈ pieces, separator ∉ p) ∧ cs = [separator].intercalate pieces := by
  constructor
  · rintro rfl
    exact ⟨splitOn_ne_nil separator cs, fun _ hp => mem_splitOn_not_mem hp,
      (intercalate_splitOn separator cs).symm⟩
  · rintro ⟨hne, hpieces, rfl⟩
    rcases List.exists_cons_of_ne_nil hne with ⟨piece, rest, rfl⟩
    exact splitOn_intercalate hpieces

/-- A character of a text is the separator or stands in one of the pieces. -/
theorem eq_or_exists_mem_splitOn (separator : Char) {cs : List Char} {c : Char} (hc : c ∈ cs) :
    c = separator ∨ ∃ p ∈ splitOn separator cs, c ∈ p := by
  induction cs with
  | nil => cases hc
  | cons d rest ih =>
    rcases List.exists_cons_of_ne_nil (splitOn_ne_nil separator rest) with ⟨head, tail, heq⟩
    unfold splitOn
    split
    · next hseparator =>
      rcases List.mem_cons.1 hc with rfl | hrest
      · exact Or.inl hseparator
      · exact (ih hrest).imp_right fun ⟨p, hp, hcp⟩ => ⟨p, List.mem_cons_of_mem _ hp, hcp⟩
    · rw [heq] at ih ⊢
      rcases List.mem_cons.1 hc with rfl | hrest
      · exact Or.inr ⟨_, List.mem_cons_self, List.mem_cons_self⟩
      · refine (ih hrest).imp_right ?_
        rintro ⟨p, hp, hcp⟩
        rcases List.mem_cons.1 hp with rfl | hp
        · exact ⟨_, List.mem_cons_self, List.mem_cons_of_mem _ hcp⟩
        · exact ⟨p, List.mem_cons_of_mem _ hp, hcp⟩

theorem not_mem_before (separator : Char) (cs : List Char) : separator ∉ before separator cs := by
  intro hmem
  simpa using List.all_eq_true.1 List.all_takeWhile separator hmem

theorem before_append {separator : Char} {cs : List Char} (h : separator ∉ cs)
    (rest : List Char) : before separator (cs ++ rest) = cs ++ before separator rest := by
  have hkept : ∀ c ∈ cs, (c != separator) = true := fun c hc => by
    simpa using fun heq : c = separator => h (heq ▸ hc)
  exact List.takeWhile_append_of_pos hkept

theorem before_eq_self {separator : Char} {cs : List Char} (h : separator ∉ cs) :
    before separator cs = cs := by
  simpa [before] using before_append h []

/-- What stands behind a separator does not matter. -/
theorem before_append_cons (separator : Char) (cs rest : List Char) :
    before separator (cs ++ separator :: rest) = before separator cs := by
  induction cs with
  | nil => simp [before]
  | cons c cs ih =>
    rw [before] at ih ⊢
    rw [List.cons_append, List.takeWhile_cons, ih, before, before, List.takeWhile_cons]

/-- What stands before the first separator ends where the text ends or the separator follows. -/
theorem before_eq_iff {separator : Char} {cs front : List Char} :
    before separator cs = front ↔ separator ∉ front ∧
      ∃ rest, cs = front ++ rest ∧ (rest = [] ∨ rest.head? = some separator) := by
  constructor
  · rintro rfl
    refine ⟨not_mem_before separator cs, ?_⟩
    induction cs with
    | nil => exact ⟨[], rfl, Or.inl rfl⟩
    | cons c cs ih =>
      by_cases hc : c = separator
      · exact ⟨c :: cs, by simp [before, hc], Or.inr (by simp [hc])⟩
      · rcases ih with ⟨rest, hcs, hrest⟩
        refine ⟨rest, ?_, hrest⟩
        rw [before] at hcs ⊢
        rw [List.takeWhile_cons_of_pos (by simpa using hc), List.cons_append, ← hcs]
  · rintro ⟨hfront, rest, rfl, rfl | hrest⟩
    · simpa using before_eq_self hfront
    · cases rest with
      | nil => cases hrest
      | cons c rest =>
        cases hrest
        rw [before_append_cons, before_eq_self hfront]

end Chars

namespace Text

/-- The pieces between the occurrences of a separator; always at least one. -/
def splitOn (separator : Char) (s : String) : List String :=
  (Chars.splitOn separator s.toList).map String.ofList

def before (separator : Char) (s : String) : String :=
  String.ofList (Chars.before separator s.toList)

def beginsWith (start : String) (s : String) : Bool :=
  start.toList.isPrefixOf s.toList

def endsIn (ending : String) (s : String) : Bool :=
  ending.toList.isSuffixOf s.toList

def mentions (pattern : String) (s : String) : Bool :=
  Chars.isInfix pattern.toList s.toList

/-- The text without its first characters. -/
def dropFirst (n : Nat) (s : String) : String :=
  String.ofList (s.toList.drop n)

def takeFirst (n : Nat) (s : String) : String :=
  String.ofList (s.toList.take n)

def expand (f : Char → List Char) (s : String) : String :=
  String.ofList (s.toList.flatMap f)

/-- The texts one after another with a separator between them. -/
def join (separator : String) (parts : List String) : String :=
  separator.intercalate parts

end Text

end MarkupAudit
