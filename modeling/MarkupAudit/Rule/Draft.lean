import MarkupAudit.Rule.Basic

/-!
# Drafts of rules

The simplest rules say one sentence about every element of a tag, or about every document. Such a
rule is drafted by its tag and its sentence alone; it need not even have a name.
-/

namespace MarkupAudit

/-- How a drafted rule is named and told. -/
structure RuleHeading where
  name : String
  summary : Option String
  style : ReportStyle

/-- The heading of a rule that was drafted without one. -/
def RuleHeading.unnamed : RuleHeading := ⟨"unnamed_rule", none, .collect⟩

/-- A sentence about every element of a tag, or about the document as a whole. -/
structure RuleDraft where
  heading : Option RuleHeading
  tag : Option String
  message : String

namespace RuleDraft

def findings (draft : RuleDraft) (d : Document) : List Finding :=
  match draft.tag with
  | some tag => (Place.tagged [tag] d.places).map fun p => .about p draft.message
  | none => [⟨none, draft.message⟩]

def rule (draft : RuleDraft) (category : Category) : Rule :=
  let heading := draft.heading.getD .unnamed
  { name := heading.name
    category := category
    summary := heading.summary
    style := heading.style
    check := fun _ d => .ok (draft.findings d) }

end RuleDraft

end MarkupAudit
