import MarkupAudit.Rule.Basic

/-!
# Rules about lists
-/

namespace MarkupAudit.Rules

open Rule

/-- Elements that support scripts and may stand anywhere in a list. -/
def scriptSupporting : List String := ["script", "template"]

def itemLists : List String := ["ul", "ol"]

def judgeListChild (p : Place) : Option String :=
  match p.parentTag? with
  | some parent =>
    if itemLists.contains parent && p.element.tag != "li" &&
        !scriptSupporting.contains p.element.tag then
      some (s!"<{p.element.tag}{p.element.identifier}> is not allowed as a child of <{parent}> " ++
        "- only <li> elements are allowed")
    else none
  | none => none

def judgeItem (p : Place) : Option String :=
  if itemLists.contains p.parentName then none
  else
    some (s!"<li{p.element.identifier}> must be a child of <ul> or <ol>, " ++
      s!"found within <{p.parentName}>")

/-- A list holds items only, and items stand in lists only. -/
def listItemsHaveValidParent : Rule :=
  listing "list_items_have_valid_parent" .warnings
    "Found list items with incorrect parent elements:" fun d =>
      onEvery judgeListChild d ++ onTags ["li"] judgeItem d

/-! ## Definition lists -/

/-- Elements that a definition list may hold. -/
def definitionParts : List String := ["dt", "dd", "div"]

/-- The findings about children that a definition list may not hold. -/
def definitionChildFindings (relation : String) (d : Document) : List Finding :=
  (d.placesOf ["dl"]).flatMap fun dl =>
    (dl.children.filter fun child =>
      !(definitionParts.contains child.element.tag ||
        scriptSupporting.contains child.element.tag)).map fun child =>
        .about child
          (s!"<{child.element.tag}{child.element.identifier}> is not allowed as a {relation} " ++
            "of <dl> - only <dt>, <dd>, or <div> elements are allowed")

/-- The finding about what follows a term without being a definition. -/
def followingTerm (dt : Place) : Except Fault (Option Finding) := do
  match ← dt.next with
  | some following =>
    return if following.element.tag = "dd" then none
      else some (.about following
        (s!"<dt> must be followed by <dd>, found " ++
          s!"<{following.element.tag}{following.element.identifier}> instead"))
  | none => return none

/-- What is said of a definition that follows neither a term nor a definition. -/
def judgeDefinition (dd : Place) : Except Fault (Option String) := do
  match ← dd.previous with
  | some preceding =>
    return if ["dt", "dd"].contains preceding.element.tag then none
      else
        some (s!"<dd{dd.element.identifier}> must be preceded by <dt> or <dd>, " ++
          s!"found <{preceding.element.tag}> instead")
  | none => return none

def definitionListFindings (d : Document) : Except Fault (List Finding) := do
  let terms ← (d.placesOf ["dt"]).mapM followingTerm
  let definitions ← Finding.judgeOrFail judgeDefinition (d.placesOf ["dd"])
  return terms.filterMap id ++ definitions ++ definitionChildFindings "child" d

def definitionListStructureIsValid : Rule :=
  listingOrFail "definition_list_structure_is_valid" .warnings
    "Found definition lists with invalid structure:" definitionListFindings

/-- The element is a definition list or a division of one. -/
def holdsDefinitions (parent : Place) : Bool :=
  parent.element.tag = "dl" || (parent.element.tag = "div" && parent.parentTag? = some "dl")

def judgeDefinitionPart (p : Place) : Except Fault (Option String) := do
  let parent ← p.parentFor "tag"
  return if holdsDefinitions parent then none
    else
      some (s!"<{p.element.tag}{p.element.identifier}> must be a child of <dl> or <div> within " ++
        s!"<dl>, found within <{parent.element.tag}>")

def definitionPartFindings (d : Document) : Except Fault (List Finding) := do
  let terms ← Finding.judgeOrFail judgeDefinitionPart (d.placesOf ["dt"])
  let definitions ← Finding.judgeOrFail judgeDefinitionPart (d.placesOf ["dd"])
  return terms ++ definitions ++ definitionChildFindings "direct child" d

def definitionListItemsHaveValidParent : Rule :=
  listingOrFail "definition_list_items_have_valid_parent" .warnings
    "Found definition lists with invalid nesting:" definitionPartFindings

end MarkupAudit.Rules
