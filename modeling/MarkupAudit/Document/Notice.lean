/-!
# Notices

What was put right while a document was read. Reading never fails because of a defect in the
markup; a notice records the repair.
-/

namespace MarkupAudit

/-- A repair that was made while a document was read. -/
inductive Notice where
  /-- An attribute was written twice; the first value was kept. -/
  | duplicateAttribute (name : String)
  | impliedTableBody
  /-- A void element had content, which now follows it. -/
  | hoistedContent (tag : String)
  /-- There was nothing but blanks to read. -/
  | emptyDocument
  deriving DecidableEq, Repr

def Notice.text : Notice → String
  | .duplicateAttribute name => "duplicate_attribute:" ++ name
  | .impliedTableBody => "implied_tbody"
  | .hoistedContent tag => "void_element_content_hoisted:" ++ tag
  | .emptyDocument => "empty_document"

end MarkupAudit
