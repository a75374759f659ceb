import MarkupAudit.Audit.Basic
import MarkupAudit.Proofs.Faults.Success

/-!
# Headers that can always be filled in

The header over several findings is a template. If it breaks off nowhere and its fields only name
the count and the rule, it can be filled in whatever these are, and running the rule comes to no
other end than its check.

Main statements: `succeeds_fillTemplate` and `refusesIf_run`.
-/

namespace MarkupAudit

namespace Text.Template

/-- The fields that name the count or the rule, without a conversion and without a layout. -/
def plainFields : List Field :=
  [⟨"count".toList, none, []⟩, ⟨"rule".toList, none, []⟩]

def Piece.isPlain : Piece → Bool
  | .literal _ => true
  | .field f => plainFields.contains f

/-- The template breaks off nowhere, and its fields name the count or the rule. -/
def isPlain (template : List Char) : Bool :=
  let (found, fault) := pieces template.length template
  fault.isNone && found.all Piece.isPlain

section

variable {count : Int} {rule : List Char} {expand : List Char → Except Fault (List Char)}

theorem succeeds_fillField {f : Field} (hf : f ∈ plainFields) :
    Succeeds (fillField [("count", .number count), ("rule", .text rule)] expand f) := by
  -- Without a layout a value is written as it is, so nothing depends on which value it is.
  rcases List.mem_cons.1 hf with rfl | hrest
  · exact ⟨(toString count).toList, rfl⟩
  · rcases List.mem_singleton.1 hrest with rfl
    exact ⟨rule, rfl⟩

theorem succeeds_fillPieces {found : List Piece} (hplain : ∀ piece ∈ found, piece.isPlain = true) :
    Succeeds (fillPieces [("count", .number count), ("rule", .text rule)] expand found) := by
  induction found with
  | nil => exact succeeds_ok []
  | cons piece rest ih =>
    have hrest := ih fun piece hpiece => hplain piece (List.mem_cons_of_mem _ hpiece)
    cases piece with
    | literal cs => exact (succeeds_map_iff _).2 hrest
    | field f =>
      have hf : f ∈ plainFields := by simpa [Piece.isPlain] using hplain (.field f)
      exact (succeeds_fillField hf).bind fun _ _ => hrest.bind fun _ _ => succeeds_ok _

theorem succeeds_fillTemplate {template : String} (hplain : isPlain template.toList = true) :
    Succeeds (fillTemplate [("count", .number count), ("rule", .text rule)] template) := by
  rw [isPlain] at hplain
  rw [fillTemplate, succeeds_map_iff, nesting, fill]
  cases hpieces : pieces template.toList.length template.toList with
  | mk found fault =>
    simp only [hpieces, Bool.and_eq_true, List.all_eq_true, Option.isNone_iff_eq_none] at hplain
    rw [hplain.1]
    exact (succeeds_fillPieces hplain.2).bind fun _ _ => succeeds_ok _

end

end Text.Template

namespace Wording

open Text.Template

variable {header : Option String}

/-- The standard header is plain, so only a header that is given can be something else. -/
theorem isPlain_headerOf (hplain : ∀ given ∈ header, isPlain given.toList = true) :
    isPlain (headerOf header).toList = true := by
  have hstandard : isPlain standardHeader.toList = true := by
    rw [standardHeader, String.toList_ofList]
    decide
  rw [headerOf.eq_def]
  split
  · next given =>
    split
    · exact hstandard
    · exact hplain given rfl
  · exact hstandard

theorem succeeds_list (hplain : ∀ given ∈ header, isPlain given.toList = true) (rule : String)
    (messages : List String) : Succeeds (list header rule messages) := by
  rcases succeeds_fillTemplate (isPlain_headerOf hplain) with ⟨line, hline⟩
  exact ⟨_, by rw [list, hline]⟩

theorem succeeds_tell (hplain : ∀ given ∈ header, isPlain given.toList = true)
    (style : ReportStyle) (rule : String) (messages : List String) :
    Succeeds (tell style header rule messages) := by
  match messages, style with
  | [], _ => exact succeeds_ok ""
  | [message], _ => exact succeeds_ok message
  | message :: _ :: _, .firstMatch => exact succeeds_ok message
  | _ :: _ :: _, .collect => exact succeeds_list hplain rule _

end Wording

namespace Rule

/-- The header that the rule gives, if it gives one, can always be filled in. -/
def HasPlainHeader (rule : Rule) : Prop :=
  ∀ header ∈ rule.summary, Text.Template.isPlain header.toList = true

section

variable {rule : Rule} {cs ds : List Char}

theorem hasPlainHeader_of_none (hnone : rule.summary = none) : rule.HasPlainHeader := by
  simp [HasPlainHeader, hnone]

theorem hasPlainHeader_of_ofList (hsummary : rule.summary = some (String.ofList cs))
    (hplain : Text.Template.isPlain cs = true) : rule.HasPlainHeader := by
  simpa [HasPlainHeader, hsummary] using hplain

theorem hasPlainHeader_of_append
    (hsummary : rule.summary = some (String.ofList cs ++ String.ofList ds))
    (hplain : Text.Template.isPlain (cs ++ ds) = true) : rule.HasPlainHeader := by
  simpa [HasPlainHeader, hsummary] using hplain

end

theorem refusesIf_run {rule : Rule} {s : Settings} {d : Document} {condition : Prop}
    (hplain : rule.HasPlainHeader) (hcheck : RefusesIf condition (rule.check s d)) :
    RefusesIf condition (rule.run s d) :=
  hcheck.bind fun _ => (Wording.succeeds_tell hplain _ _ _).bind fun _ _ => succeeds_ok _

end Rule

end MarkupAudit
