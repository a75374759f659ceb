/-!
# Ranges of code points

A character class is a list of ranges in increasing order, looked up by walking up to the first
range that could hold the code point.
-/

namespace MarkupAudit.Text

/-- The code points from the first to the last one, both included. -/
abbrev Range := Nat × Nat

namespace Range

/-- Some range of an increasing list holds the code point; ranges above it need no look. -/
def covers : List Range → Nat → Bool
  | [], _ => false
  | (first, last) :: rest, n => !decide (n < first) && (decide (n ≤ last) || covers rest n)

/-- Ranges follow one another with nothing shared. -/
def Increasing (ranges : List Range) : Prop :=
  ranges.Pairwise fun low high => low.2 < high.1

instance (ranges : List Range) : Decidable (Increasing ranges) :=
  inferInstanceAs (Decidable (ranges.Pairwise _))

/-- In an increasing list of non-empty ranges the early stop loses nothing. -/
theorem covers_iff {ranges : List Range} (hincreasing : Increasing ranges)
    (hnonempty : ∀ r ∈ ranges, r.1 ≤ r.2) (n : Nat) :
    covers ranges n = true ↔ ∃ r ∈ ranges, r.1 ≤ n ∧ n ≤ r.2 := by
  induction ranges with
  | nil => simp [covers]
  | cons r rest ih =>
    rcases r with ⟨first, last⟩
    rcases List.pairwise_cons.1 hincreasing with ⟨hlater, hrest⟩
    have hcovers := ih hrest fun r hr => hnonempty r (List.mem_cons_of_mem _ hr)
    have hfirst : first ≤ last := hnonempty (first, last) List.mem_cons_self
    simp only [covers, Bool.and_eq_true, Bool.not_eq_true', decide_eq_false_iff_not, Nat.not_lt,
      Bool.or_eq_true, decide_eq_true_eq, hcovers, List.mem_cons, exists_eq_or_imp]
    constructor
    · rintro ⟨hlow, hhigh | ⟨r, hr, hbounds⟩⟩
      · exact Or.inl ⟨hlow, hhigh⟩
      · exact Or.inr ⟨r, hr, hbounds⟩
    · rintro (⟨hlow, hhigh⟩ | ⟨r, hr, hlow, hhigh⟩)
      · exact ⟨hlow, Or.inl hhigh⟩
      · have hbehind : last < r.1 := hlater r hr
        exact ⟨by omega, Or.inr ⟨r, hr, hlow, hhigh⟩⟩

end Range

end MarkupAudit.Text
