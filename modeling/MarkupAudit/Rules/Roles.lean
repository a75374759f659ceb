import MarkupAudit.Rule.Basic

/-!
# Rules about roles and the attributes that they require
-/

namespace MarkupAudit.Rules

open Rule

def judgeRole (role : String) (required : List String) (p : Place) : Option String :=
  if p.element.hasRole role then
    match required.filter fun name => !p.element.hasAttr name with
    | [] => none
    | missing =>
      let noun := if 1 < required.length then "attributes" else "attribute"
      let shown := Text.join ", " (missing.map fun name => "[" ++ name ++ "]")
      some (s!"<{p.element.upperTag}{p.element.filledId} role=\"{role}\"> " ++
        s!"missing required {noun}: {shown}")
  else none

def roleRequires (name role summary : String) (required : List String) : Rule :=
  listing name .errors summary (onEvery (judgeRole role required))

def rangeAttributes : List String := ["aria-valuemin", "aria-valuemax", "aria-valuenow"]

def sliderRoleHasRequiredAttributes : Rule :=
  roleRequires "slider_role_has_required_attributes" "slider"
    ("Found \x7bcount\x7d slider elements with role=\"slider\" " ++
      "missing required ARIA attributes:")
    rangeAttributes

def spinbuttonRoleHasRequiredAttributes : Rule :=
  roleRequires "spinbutton_role_has_required_attributes" "spinbutton"
    ("Found \x7bcount\x7d spinbutton elements with role=\"spinbutton\" " ++
      "missing required ARIA attributes:")
    rangeAttributes

def checkboxRoleHasAriaChecked : Rule :=
  roleRequires "checkbox_role_has_aria_checked" "checkbox"
    ("Found \x7bcount\x7d checkbox elements with role=\"checkbox\" " ++
      "missing the required [aria-checked] attribute:")
    ["aria-checked"]

def comboboxRoleHasAriaExpanded : Rule :=
  roleRequires "combobox_role_has_aria_expanded" "combobox"
    ("Found \x7bcount\x7d combobox elements with role=\"combobox\" " ++
      "missing the required [aria-expanded] attribute:")
    ["aria-expanded"]

def scrollbarRoleHasRequiredAttributes : Rule :=
  roleRequires "scrollbar_role_has_required_attributes" "scrollbar"
    ("Found \x7bcount\x7d scrollbar elements with role=\"scrollbar\" " ++
      "missing required ARIA attributes:")
    ("aria-controls" :: rangeAttributes ++ ["aria-orientation"])

def headingRoleHasLevel : Rule :=
  telling "heading_role_has_level" .warnings <|
    onEvery fun p =>
      if p.element.attrIs "role" ["heading"] && !p.element.hasAttr "aria-level" then
        some (s!"The <{p.element.tag}{p.element.identifier}> element has role=\"heading\" but " ++
          "is missing the aria-level attribute. Elements with role=\"heading\" should specify " ++
          "aria-level to indicate their hierarchical level.")
      else none

end MarkupAudit.Rules
