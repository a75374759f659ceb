import MarkupAudit.Data.Keyed
import MarkupAudit.Settings.Convert

/-!
# Tasks

A batch audits documents that are given as pairs of a label and markup, as a table of markup by
label, or as the rows of a table with named columns. Each form gives a list of tasks in order. A
label that is no text is written as one, which fails for an integer of too many digits.

Main statements: pairs and a table by label give the tasks as they stand (`tasks_pairs`,
`tasks_mapping`).
-/

namespace MarkupAudit.Batch

/-- A document to be audited: what it is called, and what should be its markup. -/
structure Task where
  source : String
  markup : Value

/-- The task of a document with a label. -/
def Task.ofLabelled (document : Value × Value) : Except Fault Task :=
  document.1.toText.map fun source => ⟨source, document.2⟩

/-- A table with named columns. -/
structure Frame where
  columns : List String
  rows : List (Value × List Value)

namespace Frame

/-- Columns that may hold what a document is called, the preferred one first. -/
def sourceColumns : List String := ["source", "url"]

/-- Columns that may hold markup, the preferred one first. -/
def contentColumns : List String := ["content", "html"]

def column? (frame : Frame) (names : List String) : Option Nat :=
  (names.find? frame.columns.contains).bind fun name => frame.columns.findIdx? (· == name)

/-- Markup as it is taken from a cell: anything but a text counts as missing. -/
def cellMarkup : Value → Value
  | .str s => .str s
  | _ => .null

/-- The tasks of a table: a row each, called by its source or else by its label. -/
def tasks (frame : Frame) : Except Fault (List Task) :=
  match frame.column? contentColumns with
  | none => .error .noContentColumn
  | some content =>
    frame.rows.mapM fun (label, cells) =>
      let called := match frame.column? sourceColumns with
        | some source => cells.getD source .null
        | none => label
      Task.ofLabelled (called, cellMarkup (cells.getD content .null))

end Frame

def readPair (v : Value) : Except Fault (Value × Value) :=
  match v.items with
  | .error _ => .error (.notUnpackable v.kind)
  | .ok [first, second] => .ok (first, second)
  | .ok items => .error (if items.length < 2 then .tooFewParts items.length else .tooManyParts)

def taskOfPair (v : Value) : Except Fault Task := do
  Task.ofLabelled (← readPair v)

/-- The documents of a batch. -/
inductive Sources where
  | pairs (v : Value)
  | mapping (documents : Keyed String Value)
  | table (frame : Frame)

/-- The tasks that the documents of a batch give, in order. -/
def Sources.tasks : Sources → Except Fault (List Task)
  | .pairs v => do (← v.items).mapM taskOfPair
  | .mapping documents => .ok (documents.entries.map fun entry => ⟨entry.1, entry.2⟩)
  | .table frame => frame.tasks

def Sources.ofPairs (documents : List (String × Value)) : Sources :=
  .pairs (.list (documents.map fun document => .list [.str document.1, document.2]))

theorem tasks_labelled (documents : List (Value × Value)) :
    (Sources.pairs (.list (documents.map fun document => .list [document.1, document.2]))).tasks =
      documents.mapM Task.ofLabelled := by
  simp only [Sources.tasks, Value.items, bind, Except.bind]
  induction documents with
  | nil => rfl
  | cons document rest ih =>
    simp only [List.map_cons, List.mapM_cons, ih]
    rfl

theorem tasks_pairs (documents : List (String × Value)) :
    (Sources.ofPairs documents).tasks =
      .ok (documents.map fun document => ⟨document.1, document.2⟩) := by
  have htasks := tasks_labelled (documents.map fun document => (.str document.1, document.2))
  rw [List.map_map, List.mapM_map] at htasks
  exact htasks.trans List.mapM_pure

theorem tasks_mapping (documents : Keyed String Value) :
    (Sources.mapping documents).tasks =
      .ok (documents.entries.map fun entry => ⟨entry.1, entry.2⟩) := rfl

end MarkupAudit.Batch
