import MarkupAudit.Fault
import MarkupAudit.Rule.Basic
import MarkupAudit.Text.Template

/-!
# Wording of a rule's findings

One finding stands for itself. Several findings of a listing rule stand under a header, which the
rule gives as a template with the fields `count` and `rule`.
-/

namespace MarkupAudit.Wording

def standardHeader : String := "Found \x7bcount\x7d elements violating \x7brule\x7d:"

/-- The header that a rule gives, or the standard one if it gives none or an empty one. -/
def headerOf : Option String → String
  | some header => if header = "" then standardHeader else header
  | none => standardHeader

def list (header : Option String) (rule : String) (messages : List String) :
    Except Fault String :=
  let values : Text.Template.Values :=
    [("count", .number messages.length), ("rule", .text rule.toList)]
  match Text.fillTemplate values (headerOf header) with
  | .ok line => .ok (Text.join "\n" (line :: messages.map ("- " ++ ·)))
  | .error cause => .error (.template cause)

def tell (style : ReportStyle) (header : Option String) (rule : String) :
    List String → Except Fault String
  | [] => .ok ""
  | [message] => .ok message
  | message :: others =>
    match style with
    | .firstMatch => .ok message
    | .collect => list header rule (message :: others)

end MarkupAudit.Wording
