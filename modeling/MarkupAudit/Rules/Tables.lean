import MarkupAudit.Rules.FirstChild

/-!
# Rules about tables

A table with the role of a presentation lays out a page and says nothing about data; all others are
tables of data.
-/

namespace MarkupAudit.Rules

open Rule

def dataTables (d : Document) : List Place :=
  (d.placesOf ["table"]).filter fun p => !p.element.isPresentation

/-! ## Headers and captions -/

def tableHeaderScopeIsValid : Rule :=
  listing "table_header_scope_is_valid" .advice
      "Found <th> elements with invalid scope attributes:" <|
    onTags ["th"] fun p =>
      match p.element.attr? "scope" with
      | some scope =>
        if ["col", "row"].contains (Element.normalized scope) then none
        else
          some (s!"<th{p.element.identifier} scope=\"{scope}\"> has invalid scope - " ++
            "must be \"col\" or \"row\"")
      | none => none

def misplacedCaptions (table : Place) : List Finding :=
  (table.children.filter fun child =>
    child.element.tag == "caption" && !isFirstChildOf child table).map fun _ =>
      .about table
        (s!"The <table{table.element.identifier}> element has a <caption> but it is not the " ++
          "first child. The <caption> must be the first child of the <table> element. See: " ++
          "https://html.spec.whatwg.org/multipage/tables.html#the-caption-element")

def missingCaption? (table : Place) : Option Finding :=
  match table.firstChild? with
  | some first =>
    if first.element.tag = "caption" then none
    else some (.about table
      (s!"The <table{table.element.identifier}> element is missing a <caption> as its first " ++
        "child. Data tables must have a <caption> element to provide a title or explanation. " ++
        "See: https://www.w3.org/WAI/WCAG22/Techniques/html/H39"))
  | none => none

/-- A table of data begins with a caption. Misplaced captions are told before missing ones. -/
def tablesHaveCaption : Rule :=
  telling "tables_have_caption" .warnings fun d =>
    (dataTables d).flatMap misplacedCaptions ++ (dataTables d).filterMap missingCaption?

def tablesHaveThead : Rule :=
  telling "tables_have_thead" .warnings fun d =>
    Finding.judge (fun table =>
      let sections := table.children.map (·.element.tag)
      if sections.contains "tbody" && !sections.contains "thead" then
        some (s!"The <table{table.element.identifier}> element has a <tbody> but is missing a " ++
          "<thead>. Data tables with a <tbody> must have a <thead> to provide column headers.")
      else none) (dataTables d)

/-! ## Structure -/

/-- Pairs of sections that stand in the wrong order when the first comes before the second, and how
a sentence says so. -/
def sectionOrderRules : List (String × String × String) :=
  [("tfoot", "thead", "tfoot cannot come before thead"),
    ("tbody", "tfoot", "tbody cannot come before tfoot"),
    ("tbody", "thead", "tbody cannot come before thead"),
    ("tfoot", "colgroup", "tfoot cannot come before colgroup"),
    ("tbody", "colgroup", "tbody cannot come before colgroup"),
    ("thead", "colgroup", "thead cannot come before colgroup")]

/-- The children with the later tag behind a child with the earlier one. -/
def outOfOrder (earlier later : String) : List Place → List Place
  | [] => []
  | child :: rest =>
    if child.element.tag = earlier then rest.filter fun c => c.element.tag == later
    else outOfOrder earlier later rest

def orderFindings (rule : String × String × String) (table : Place) : List Finding :=
  let (earlier, later, reason) := rule
  (outOfOrder earlier later table.children).map fun child =>
    .about child
      (s!"The <table{table.element.identifier}> element has invalid structure: {reason}. " ++
        "Table elements must be in this order: caption, colgroup, thead, tfoot, tbody. " ++
        "See: https://www.w3.org/TR/WCAG22/#parsing")

/-- The sections of a table stand in order. -/
def tableStructureIsOrdered : Rule :=
  telling "table_structure_is_ordered" .warnings fun d =>
    sectionOrderRules.flatMap fun rule => (d.placesOf ["table"]).flatMap (orderFindings rule)

def noNestedTables : Rule :=
  telling "no_nested_tables" .warnings <|
    onTags ["table"] fun p =>
      if p.isInside ["table"] then
        some (s!"Found a nested <table{p.element.identifier}> element inside another table. " ++
          "Tables should not be nested as they are likely being used for layout purposes. " ++
          "Use CSS for layout instead. See: https://www.w3.org/WAI/tutorials/tables/tips/")
      else none

/-! ## Tables for layout -/

def semanticTags : List String := ["th", "thead", "tfoot", "caption", "colgroup"]

def semanticAttributes : List String := ["axis", "scope", "headers"]

def judgeSemantics (p : Place) : Option String :=
  if semanticTags.contains p.element.tag then
    some (s!"Presentation table contains semantic element <{p.element.tag}>: " ++
      p.element.snippet)
  else
    match semanticAttributes.filter p.element.hasAttr with
    | [] => none
    | present =>
      let shown := Text.join ", " present
      some (s!"Presentation table contains element with semantic attribute(s) [{shown}]: " ++
        p.element.snippet)

def presentationTablesHaveNoSemantics : Rule :=
  listing "presentation_tables_have_no_semantics" .errors
    "Found \x7bcount\x7d semantic elements in presentation tables:" fun d =>
      ((d.placesOf ["table"]).filter fun p => p.element.hasRole "presentation").flatMap
        fun table => Finding.judge judgeSemantics table.descendants

end MarkupAudit.Rules
