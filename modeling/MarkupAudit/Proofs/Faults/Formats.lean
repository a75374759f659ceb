import MarkupAudit.Format.Email
import MarkupAudit.Format.Language
import MarkupAudit.Format.Phone
import MarkupAudit.Format.Viewport
import MarkupAudit.Proofs.Faults.Success

/-!
# Formats under the packaged settings

The packaged settings hold what their readers expect, so the tests of phone numbers, languages and
viewports succeed on every text. So does the test of mail addresses: a text with one `@` is cut into
two halves.

Main statements: `Email.succeeds_isValid`, `Phone.succeeds_isValid`,
`Viewport.succeeds_restrictions` and `Language.succeeds_isRightToLeft`.
-/

namespace MarkupAudit

namespace Settings

theorem phoneMinimum_packaged : packaged.phoneMinimum = .ok 7 := rfl

theorem leastMaximumScale_packaged : packaged.leastMaximumScale = .ok 2 := rfl

theorem greatestMinimumScale_packaged : packaged.greatestMinimumScale = .ok 1 := rfl

theorem succeeds_rightToLeft_packaged : Succeeds packaged.rightToLeft := by
  have hget : packaged.get "languages.rtl" (.list (rightToLeftCodes.map .str)) =
      .list (rightToLeftCodes.map .str) := rfl
  rw [rightToLeft, hget]
  refine (succeeds_ok (rightToLeftCodes.map Value.str)).bind ?_
  rintro items ⟨⟩
  refine succeeds_mapM_iff.2 ?_
  intro v hv
  rcases List.mem_map.1 hv with ⟨code, -, rfl⟩
  exact succeeds_ok (Text.lower code)

end Settings

namespace Email

theorem succeeds_halves {cs : List Char} (hcount : cs.count '@' = 1) : Succeeds (halves cs) := by
  have hlength : (Chars.splitOn '@' cs).length = 2 := by rw [Chars.length_splitOn, hcount]
  match heq : Chars.splitOn '@' cs with
  | [localPart, domain] => exact ⟨(localPart, domain), by rw [halves, heq]⟩
  | [] => simp [heq] at hlength
  | [_] => simp [heq] at hlength
  | _ :: _ :: _ :: _ => simp [heq] at hlength

theorem succeeds_isValid (s : String) : Succeeds (isValid s) := by
  rw [isValid, isAddress]
  split
  · exact succeeds_ok false
  · next hpassed =>
    have hcount : s.toList.count '@' = 1 := by
      simp only [Bool.or_eq_true, not_or, bne_iff_ne, ne_eq, Classical.not_not] at hpassed
      exact hpassed.2
    exact (succeeds_map_iff _).2 (succeeds_halves hcount)

end Email

namespace Phone

theorem succeeds_isValid (number : String) : Succeeds (isValid .packaged number) :=
  ⟨isNumber number.toList 7, by rw [isValid, Settings.phoneMinimum_packaged]; rfl⟩

end Phone

namespace Viewport

theorem succeeds_scaleRestriction (content : List Char) (name : String) (bound : Float)
    (restricting : List Ordering) :
    Succeeds (scaleRestriction content name (.float bound) restricting) := by
  rw [scaleRestriction]
  split
  · exact succeeds_ok []
  · split
    · exact succeeds_ok []
    -- Two floating point numbers can always be compared.
    · exact (succeeds_map_iff _).2 (succeeds_ok _)

theorem succeeds_restrictions (content : String) : Succeeds (restrictions .packaged content) := by
  rw [restrictions, Settings.leastMaximumScale_packaged, Settings.greatestMinimumScale_packaged]
  exact (succeeds_scaleRestriction _ _ _ _).bind fun _ _ =>
    (succeeds_scaleRestriction _ _ _ _).bind fun _ _ => succeeds_ok _

end Viewport

namespace Language

theorem succeeds_isRightToLeft (tag : Option String) : Succeeds (isRightToLeft .packaged tag) := by
  cases tag with
  | none => exact succeeds_ok false
  | some tag =>
    rw [isRightToLeft]
    split
    · exact succeeds_ok false
    · exact (succeeds_map_iff _).2 Settings.succeeds_rightToLeft_packaged

end Language

end MarkupAudit
