import MarkupAudit.Data.Keyed

/-!
# Tallies

A tally counts under keys and remembers the order in which the keys first came up.

Main statements: adding under a key raises its count and no other (`count_add_self`,
`count_add_of_ne`); adding the counts of another tally adds them under each key (`count_addAll`).
-/

namespace MarkupAudit

/-- Counts by key in the order in which the keys came up. -/
abbrev Tally (κ : Type) := Keyed κ Nat

namespace Tally

variable {κ : Type} [DecidableEq κ]

/-- The count of a key; one that never came up has none. -/
def count (tally : Tally κ) (key : κ) : Nat :=
  (tally.get? key).getD 0

def add (tally : Tally κ) (key : κ) (n : Nat) : Tally κ :=
  tally.set key (tally.count key + n)

/-- The tally after the counts of another one. -/
def addAll (tally other : Tally κ) : Tally κ :=
  other.entries.foldl (fun kept entry => kept.add entry.1 entry.2) tally

/-- Entries from the largest count to the smallest, equal counts in the order in which they were. -/
def falling {α : Type} (entries : List (α × Nat)) : List (α × Nat) :=
  entries.mergeSort fun a b => b.2 ≤ a.2

theorem count_add_self (tally : Tally κ) (key : κ) (n : Nat) :
    (tally.add key n).count key = tally.count key + n := by
  simp [add, count, Keyed.get?_set_self]

theorem count_add_of_ne (tally : Tally κ) {key other : κ} (hne : other ≠ key) (n : Nat) :
    (tally.add key n).count other = tally.count other := by
  simp [add, count, Keyed.get?_set_of_ne tally hne]

theorem count_foldl_add (tally : Tally κ) {entries : List (κ × Nat)}
    (hnodup : (entries.map Prod.fst).Nodup) (key : κ) :
    (entries.foldl (fun kept entry => kept.add entry.1 entry.2) tally).count key =
      tally.count key + (entries.lookup key).getD 0 := by
  induction entries generalizing tally with
  | nil => simp
  | cons entry rest ih =>
    rcases List.nodup_cons.1 hnodup with ⟨hfresh, hrest⟩
    have hlater := ih (tally.add entry.1 entry.2) hrest
    by_cases hkey : key = entry.1
    · -- The key comes up once only.
      subst hkey
      have hnone : rest.lookup entry.1 = none := Entries.lookup_eq_none_of_not_mem hfresh
      simp [hlater, count_add_self, hnone, Entries.lookup_cons_fst]
    · simp [hlater, count_add_of_ne tally hkey, Entries.lookup_cons_of_ne hkey]

theorem count_addAll (tally other : Tally κ) (key : κ) :
    (tally.addAll other).count key = tally.count key + other.count key :=
  count_foldl_add tally other.distinct key

end Tally

end MarkupAudit
