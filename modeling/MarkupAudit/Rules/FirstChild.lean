import MarkupAudit.Rule.Basic

/-!
# Rules about what an element begins with

A field set begins with its legend, and a disclosure with its summary. The elements that begin with
something else come first among the findings, then the legends and summaries that stand elsewhere.
-/

namespace MarkupAudit.Rules

open Rule

def isFirstChildOf (p parent : Place) : Bool :=
  parent.firstChild?.any p.same

/-- The finding about an element that begins with something else than expected. -/
def otherFirstChild? (container expected : String) (parent : Place) : Option Finding :=
  match parent.firstChild? with
  | some first =>
    if first.element.tag = expected then none
    else some (.about first
      (s!"<{container}> has <{first.element.tag}{first.element.identifier}> as first child - " ++
        s!"<{expected}> must be the first child"))
  | none => none

def misplacedChildren (container expected : String) (parent : Place) : List Finding :=
  (parent.children.filter fun child =>
    child.element.tag == expected && !isFirstChildOf child parent).map fun child =>
      .about child
        (s!"<{expected}{child.element.identifier}> is not the first child of <{container}>")

def firstChildFindings (container expected : String) (d : Document) : List Finding :=
  let parents := d.placesOf [container]
  parents.filterMap (otherFirstChild? container expected) ++
    parents.flatMap (misplacedChildren container expected)

def legendIsFirstChild : Rule :=
  listing "legend_is_first_child" .warnings
    "Found <legend> elements that are not the first child of <fieldset>:"
    (firstChildFindings "fieldset" "legend")

def summaryIsFirstChild : Rule :=
  listing "summary_is_first_child" .warnings
    "Found <summary> elements that are not the first child of <details>:"
    (firstChildFindings "details" "summary")

end MarkupAudit.Rules
