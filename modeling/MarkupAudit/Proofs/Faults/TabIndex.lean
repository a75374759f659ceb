import MarkupAudit.Proofs.Faults.Success
import MarkupAudit.Proofs.Number.Digits
import MarkupAudit.Rules.Attributes

/-!
# Tab indices that cannot be read

A tab index whose characters all look like digits is read as an integer. This fails if one of them
is not a decimal digit, or if there are more digits than are read.

Main statement: `refusesIf_tabindexNotPositive`.
-/

namespace MarkupAudit

namespace Rules

/-- The tab index, without blanks around it and plus signs before it, has only characters that look
like digits, but one of them is not a decimal digit or there are more than 4300. -/
def IsUnreadableTabIndex (value : String) : Prop :=
  let digits := (tabIndexDigits value).toList
  digits ≠ [] ∧ (∀ c ∈ digits, Text.isDigitLike c = true) ∧
    ((∃ c ∈ digits, Text.isDecimalDigit c = false) ∨ 4300 < digits.length)

end Rules

/-- Some element of the document has a tab index that cannot be read. -/
def Document.HasUnreadableTabIndex (d : Document) : Prop :=
  ∃ p ∈ d.places, ∃ value, p.element.attr? "tabindex" = some value ∧
    Rules.IsUnreadableTabIndex value

namespace Rules

/-- The tab index is made of characters that look like digits, so it is read. -/
def isTried (value : String) : Bool :=
  tabIndexDigits value != "" && (tabIndexDigits value).toList.all Text.isDigitLike

theorem isTried_iff {value : String} :
    isTried value = true ↔ (tabIndexDigits value).toList ≠ [] ∧
      ∀ c ∈ (tabIndexDigits value).toList, Text.isDigitLike c = true := by
  rw [isTried, Bool.and_eq_true, List.all_eq_true, bne_iff_ne, ne_eq, ne_eq,
    String.toList_eq_nil_iff]

theorem refusesIf_judgeTabIndex (p : Place) :
    RefusesIf (∃ value, p.element.attr? "tabindex" = some value ∧ IsUnreadableTabIndex value)
      (judgeTabIndex p) := by
  cases hvalue : p.element.attr? "tabindex" with
  | none =>
    have hok : judgeTabIndex p = .ok none := by rw [judgeTabIndex, hvalue]
    exact Succeeds.refusesIf ⟨none, hok⟩ (by simp)
  | some value =>
    suffices hthis : RefusesIf (IsUnreadableTabIndex value) (judgeTabIndex p) from
      hthis.congr (by simp)
    rw [judgeTabIndex, hvalue]
    show RefusesIf _ (if isTried value then _ else _)
    split
    · next htried =>
      rcases isTried_iff.1 htried with ⟨hne, hlike⟩
      constructor
      · rintro ⟨-, -, hbad⟩
        rcases Number.exists_readInteger_eq_error hlike hbad with ⟨cause, hread, hcause⟩
        exact ⟨cause, by rw [hread], hcause⟩
      · intro hfalse
        have hgood := fun hbad => hfalse ⟨hne, hlike, hbad⟩
        rcases Number.exists_readInteger_eq_ok hne hgood with ⟨n, hread⟩
        rw [hread]
        exact succeeds_ok _
    -- A tab index that is not read as a number is never refused.
    · next hskipped =>
      exact (succeeds_ok none).refusesIf fun hbad => hskipped (isTried_iff.2 ⟨hbad.1, hbad.2.1⟩)

theorem refusesIf_tabindexNotPositive (s : Settings) (d : Document) :
    RefusesIf d.HasUnreadableTabIndex (tabindexNotPositive.check s d) :=
  Finding.refusesIf_judgeOrFail refusesIf_judgeTabIndex

end Rules

end MarkupAudit
