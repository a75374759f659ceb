import MarkupAudit.Document.Parse
import MarkupAudit.Proofs.Markup.Refusal
import MarkupAudit.Settings.Readers

/-!
# What is parsed

A text is parsed unless scanning it is given up. Nesting, implied end tags and everything else that
mends a text take whatever scanning gives and fail at nothing. So with the packaged settings a
document is there for every text in which the scanner comes to no marked section of an unknown kind
and to no decimal reference with too many digits.

Main statement: `texts_are_parsed_unless_blocked`.
-/

namespace MarkupAudit

open Markup

namespace Document

/-- The characters of a text behind the marks that may stand before them. -/
def written (markup : String) : List Char :=
  markup.toList.dropWhile (· == byteOrderMark)

variable {source markup : String} {keepFirst : Bool}

theorem read_of_ok {events : List Event} (h : Scan.events (written markup) = .ok events) :
    ∃ d, read keepFirst source markup = .ok d ∧ d.source = source := by
  have hread : Scan.events (markup.toList.dropWhile (· == byteOrderMark)) = .ok events := h
  rw [read, hread]
  refine ⟨_, rfl, ?_⟩
  split <;> rfl

theorem read_of_error {cause : Markup.Fault} (h : Scan.events (written markup) = .error cause) :
    read keepFirst source markup = .error (scanFault cause) := by
  have hread : Scan.events (markup.toList.dropWhile (· == byteOrderMark)) = .error cause := h
  rw [read, hread]

/-- A text is read when it is scanned. -/
theorem succeeds_read_iff :
    Succeeds (read keepFirst source markup) ↔ Succeeds (Scan.events (written markup)) := by
  cases hevents : Scan.events (written markup) with
  | ok events =>
    rcases read_of_ok hevents with ⟨d, hread, -⟩
    exact iff_of_true ⟨d, hread⟩ (succeeds_ok events)
  | error cause =>
    rw [read_of_error hevents]
    exact iff_of_false (not_succeeds_error _) (not_succeeds_error cause)

theorem source_of_read {d : Document} (h : read keepFirst source markup = .ok d) :
    d.source = source := by
  cases hevents : Scan.events (written markup) with
  | ok events =>
    rcases read_of_ok hevents with ⟨other, hother, hsource⟩
    rw [h] at hother
    cases hother
    exact hsource
  | error cause =>
    rw [read_of_error hevents] at h
    cases h

/-- A document is called what it was to be called when it was parsed. -/
theorem source_of_parse {parser v : Value} {d : Document} (h : parse parser source v = .ok d) :
    d.source = source := by
  cases v with
  | str markup =>
    rcases exists_of_bind_eq_ok h with ⟨keepFirst, -, hread⟩
    exact source_of_read hread
  | _ => cases h

/-- What keeps a text from being read is unreadable markup or a numeral that is too long. -/
theorem fault_of_read {fault : MarkupAudit.Fault}
    (h : read keepFirst source markup = .error fault) :
    (∃ cause, fault = .unreadableMarkup cause) ∨
      ∃ cause, fault = .number cause ∧ Reference.TooLong cause := by
  cases hevents : Scan.events (written markup) with
  | ok events =>
    rcases read_of_ok hevents with ⟨d, hread, -⟩
    rw [h] at hread
    cases hread
  | error cause =>
    rw [read_of_error hevents] at h
    cases h
    have hexplained : Scan.Explained cause := Scan.explained_of_events hevents
    cases cause with
    | numeral cause => exact .inr ⟨cause, rfl, hexplained⟩
    | sectionWithoutName found => exact .inl ⟨_, rfl⟩
    | unknownSection name => exact .inl ⟨_, rfl⟩

theorem parse_packaged (source markup : String) :
    parse Settings.packaged.parser source (.str markup) = read true source markup := by
  have hparser : Settings.packaged.parser = .str standardParser := rfl
  rw [hparser]
  rfl

/-- The scanner comes to nothing that no step takes in a text without the beginning of a marked
section and without a numeral that is too long. -/
theorem not_blocked_of_comes (hsection : ¬ ['<', '!', '['] <:+: markup.toList)
    (hlong : ¬ Reference.HasLong markup.toList) {cs : List Char}
    (hcomes : Scan.Comes (written markup) cs) : ¬ Scan.Blocked cs := by
  have hpiece : cs <:+: markup.toList :=
    (hcomes.suffix.trans (List.dropWhile_suffix _)).isInfix
  intro hblocked
  rcases hblocked.section_or_hasLong with hbegins | hnumeral
  · exact hsection (hbegins.trans hpiece)
  · exact hlong (hnumeral.of_piece hpiece)

/-- With the packaged settings every text is parsed in which the scanner comes to nothing that no
step takes; a text in which it does is refused, as unreadable or with the number of digits. No text
is refused that has neither the beginning of a marked section nor a numeral that is too long. Null
and values other than texts are refused. Elements may lie in one another to any depth: that the
limit on the depth of recursion may be reached on the way down is left out of account. -/
theorem texts_are_parsed_unless_blocked (source : String) :
    parse Settings.packaged.parser source .null = .error .missingMarkup ∧
      (∀ v : Value, v.kind ≠ .null → v.kind ≠ .str →
        parse Settings.packaged.parser source v = .error (.markupNotText v.kind)) ∧
      ∀ markup : String,
        ((∃ d, parse Settings.packaged.parser source (.str markup) = .ok d ∧ d.source = source) ↔
          ∀ cs, Scan.Comes (written markup) cs → ¬ Scan.Blocked cs) ∧
        (∀ fault, parse Settings.packaged.parser source (.str markup) = .error fault →
          (∃ cause, fault = .unreadableMarkup cause) ∨
            ∃ digits, Number.digitLimit < digits ∧ fault = .number (.tooManyDigits digits)) ∧
        (¬ ['<', '!', '['] <:+: markup.toList → ¬ Reference.HasLong markup.toList →
          ∃ d, parse Settings.packaged.parser source (.str markup) = .ok d) := by
  refine ⟨rfl, ?_, ?_⟩
  · intro v hnull htext
    cases v with
    | null => exact absurd rfl hnull
    | str markup => exact absurd rfl htext
    | _ => rfl
  · intro markup
    have hparsed : Succeeds (parse Settings.packaged.parser source (.str markup)) ↔
        ∀ cs, Scan.Comes (written markup) cs → ¬ Scan.Blocked cs := by
      rw [parse_packaged, succeeds_read_iff, Scan.succeeds_events_iff]
    refine ⟨?_, ?_, ?_⟩
    · rw [← hparsed]
      constructor
      · rintro ⟨d, hd, -⟩
        exact ⟨d, hd⟩
      · rintro ⟨d, hd⟩
        exact ⟨d, hd, source_of_parse hd⟩
    · intro fault hfault
      rw [parse_packaged] at hfault
      rcases fault_of_read hfault with hunreadable | ⟨cause, rfl, digits, hlong, rfl⟩
      · exact .inl hunreadable
      · exact .inr ⟨digits, hlong, rfl⟩
    · intro hsection hlong
      exact hparsed.2 fun cs hcomes => not_blocked_of_comes hsection hlong hcomes

theorem texts_are_parsed_unless_blocked_reference :
    ∃ d, parse Settings.packaged.parser "page" (.str "<p>&amp;") = .ok d := by
  have hcharacters : "<p>&amp;".toList = ['<', 'p', '>', '&', 'a', 'm', 'p', ';'] := by decide
  have hsection : ¬ ['<', '!', '['] <:+: "<p>&amp;".toList := by
    rw [hcharacters]
    decide
  have hlong : ¬ Reference.HasLong "<p>&amp;".toList := by
    rw [hcharacters]
    simp [Reference.hasLong_cons_iff, Reference.not_hasLong_nil, Reference.LongBehind]
  exact ((texts_are_parsed_unless_blocked "page").2.2 "<p>&amp;").2.2 hsection hlong

/-- A marked section of an unknown kind keeps a text from being parsed. -/
theorem marked_section_is_not_parsed :
    parse Settings.packaged.parser "" (.str "<![x]>") =
      .error (.unreadableMarkup (.unknownSection "x")) := by
  have hwritten : written "<![x]>" = ['<', '!', '[', 'x', ']', '>'] := by decide
  have hstep : Scan.step false none '<' ['!', '[', 'x', ']', '>'] =
      .reject (.unknownSection "x") := by
    decide +kernel
  have hwalk : Scan.walk false none ['<', '!', '[', 'x', ']', '>'] =
      .error (.unknownSection "x") := by
    rw [Scan.walk, hstep]
  have hevents : Scan.events (written "<![x]>") = .error (.unknownSection "x") := by
    rw [hwritten, Scan.events, hwalk]
    rfl
  rw [parse_packaged, read_of_error hevents]
  rfl

end Document

end MarkupAudit
