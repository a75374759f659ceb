import MarkupAudit.Rule.Basic

/-!
# Rules about forms and their fields
-/

namespace MarkupAudit.Rules

open Rule

/-! ## Labels -/

/-- What the labels that have the attribute `for` name as their fields. -/
def labelTargets (d : Document) : List String :=
  (d.placesOf ["label"]).filterMap fun p => p.element.attr? "for"

def isLabelled (targets : List String) (p : Place) : Bool :=
  (match p.element.attr? "id" with
    | some id => id != "" && targets.contains id
    | none => false) || p.isInside ["label"]

def noPlaceholderAsLabel : Rule :=
  listing "no_placeholder_as_label" .advice "Found elements using placeholder as label:" fun d =>
    let targets := labelTargets d
    onTags ["input", "textarea"] (fun p =>
      match p.element.attr? "placeholder" with
      | some placeholder =>
        if Element.namingAttributes.any p.element.hasAttr || isLabelled targets p then none
        else
          some (s!"<{p.element.tag}{p.element.identifier} placeholder=\"{placeholder}\"> uses " ++
            "placeholder as label - add proper label, title, aria-label, or aria-labelledby")
      | none => none) d

/-- Fields that a label may name. -/
def labelableFields : List String :=
  ["input", "select", "textarea", "meter", "output", "progress"]

def unlabelledTypes : List String := ["button", "submit", "hidden", "reset", "image"]

def formFieldsHaveLabel : Rule :=
  listing "form_fields_have_label" .errors "Found form fields without proper labels:" fun d =>
    -- A label for a blank target names no field.
    let targets := (labelTargets d).filter fun target => !Text.isBlankText target
    onTags labelableFields (fun p =>
      if (p.element.tag = "input" && unlabelledTypes.contains p.element.inputType) ||
          p.element.hasAccessibleName || isLabelled targets p then none
      else
        let shown := p.element.listed ["type", "name", "class"]
        some (s!"<{p.element.tag}{shown}> is missing a label " ++
          "(label[for], wrapping <label>, aria-label, title, or aria-labelledby)")) d

def labelForNotEmpty : Rule :=
  listing "label_for_not_empty" .errors "Found labels with empty or invalid for attributes:" <|
    onTags ["label"] fun p =>
      match p.element.attr? "for" with
      | some target =>
        if Text.isBlankText target then
          some (s!"<label for=\"{target}\">{p.element.textOrDots}</label> " ++
            "has an empty or whitespace-only for attribute")
        else none
      | none => none

/-- Controls that a label may hold. -/
def labelableControls : List String :=
  ["button", "input", "meter", "output", "progress", "select", "textarea"]

def controlsIn (label : Place) : List Place :=
  label.descendants.filter fun p =>
    labelableControls.contains p.element.tag &&
      !(p.element.tag == "input" && p.element.attrIs "type" ["hidden"])

def labelAdvice : String := "https://www.w3.org/WAI/WCAG22/Techniques/html/H44"

def labelFindings (label : Place) : List Finding :=
  let controls := controlsIn label
  let name := label.element.identifier
  (if !label.element.hasAttr "for" && controls.isEmpty then
    [Finding.about label
      (s!"The <label{name}> element is missing the for attribute and does not contain a form " ++
        "control. Labels should either have a for attribute referencing a form control, or " ++
        "contain a labelable element (button, input, meter, output, progress, select, or " ++
        s!"textarea). See: {labelAdvice}")]
  else []) ++
  (if 1 < controls.length then
    [Finding.about label
      (s!"The <label{name}> element contains multiple form controls. " ++
        s!"A label should only contain one form control element. See: {labelAdvice}")]
  else [])

def labelsHaveControl : Rule :=
  telling "labels_have_control" .warnings fun d => (d.placesOf ["label"]).flatMap labelFindings

/-! ## Buttons -/

def buttonTypes : List String := ["reset", "submit", "button"]

def buttonInputsHaveLabel : Rule :=
  listing "button_inputs_have_label" .errors "Found button-type inputs without proper labels:" <|
    onTags ["input"] fun p =>
      if buttonTypes.contains p.element.inputType && isBlankValue (p.element.attr? "value") &&
          !p.element.hasAccessibleName then
        let type := p.element.attrOr "type"
        let shown := p.element.listed ["name", "class"]
        some (s!"<input type=\"{type}\"{shown}> is missing a label " ++
          "(value, title, aria-label, or aria-labelledby)")
      else none

def buttonsHaveAccessibleName : Rule :=
  listing "buttons_have_accessible_name" .errors "Found empty buttons without proper labels:" <|
    onTags ["button"] fun p =>
      if p.element.isEmpty && !p.element.hasAccessibleName then
        let shown := p.element.listed ["type", "name", "class"]
        some s!"<button{shown}> is empty and has no accessible label"
      else none

def buttonAttributesNotEmpty : Rule :=
  listing "button_attributes_not_empty" .errors "Found buttons with empty label attributes:" <|
    onTags ["button"] fun p =>
      (Element.namingAttributes.find? fun name =>
        (p.element.attr? name).any Text.isBlankText).map fun name =>
          let shown := p.element.listed ["type"]
          s!"<button{shown}>{p.element.textOrDots}</button> has an empty {name} attribute"

def buttonsHaveType : Rule :=
  listing "buttons_have_type" .errors "Found buttons without type attributes:" <|
    onTags ["button"] fun p =>
      if ["type", "form", "formaction", "formtarget"].any p.element.hasAttr then none
      else
        let shown := p.element.listed ["name", "class"]
        some s!"<button{shown}>{p.element.textOrDots}</button> is missing a type attribute"

def submissionAttributes : List String :=
  ["formmethod", "formaction", "formtarget", "formenctype", "formnovalidate"]

def nonSubmitButtonsHaveNoFormAttributes : Rule :=
  listing "non_submit_buttons_have_no_form_attributes" .errors
      ("Found \x7bcount\x7d buttons with type=\"reset\" or type=\"button\" " ++
        "using invalid form attributes:") <|
    onTags ["button"] fun p =>
      if ["reset", "button"].contains p.element.inputType then
        match submissionAttributes.filter p.element.hasAttr with
        | [] => none
        | present =>
          let type := p.element.attrOr "type"
          let shown := Text.join ", " present
          some (s!"Button with type=\"{type}\" has invalid form attributes [{shown}]: " ++
            p.element.snippet)
      else none

/-! ## Fields -/

def disableable : List String := ["button", "input", "select", "textarea"]

def disabledStyledControlsAreDisabled : Rule :=
  listing "disabled_styled_controls_are_disabled" .errors
      ("Found \x7bcount\x7d controls styled as disabled without proper disabled or " ++
        "readonly attributes:") <|
    onTags disableable fun p =>
      let classes := p.element.attrOr "class"
      if Text.mentions "disabled" (Text.lower classes) &&
          !(["disabled", "readonly"].any p.element.hasAttr) then
        let kind := Text.capitalized p.element.tag
        some (s!"{kind} with class=\"{classes}\" is styled as disabled but is not actually " ++
          s!"disabled: {p.element.snippet}")
      else none

def inputsHaveType : Rule :=
  listing "inputs_have_type" .errors "Found \x7bcount\x7d inputs without a valid type attribute:" <|
    onTags ["input"] fun p =>
      if isBlankValue (p.element.attr? "type") then
        some (s!"Input{p.element.bracketedName} is missing a valid type attribute: " ++
          p.element.snippet)
      else none

def optgroupsHaveLabel : Rule :=
  listing "optgroups_have_label" .errors
      "Found \x7bcount\x7d optgroups without a label attribute:" <|
    onTags ["optgroup"] fun p =>
      if isBlankValue (p.element.attr? "label") then
        some s!"Optgroup is missing a label attribute: {p.element.snippet}"
      else none

def formsHaveAction : Rule :=
  listing "forms_have_action" .errors
      "Found \x7bcount\x7d forms without a valid action attribute:" <|
    onTags ["form"] fun p =>
      if isBlankValue (p.element.attr? "action") then
        some (s!"Form{p.element.bracketedName} is missing a valid action attribute: " ++
          p.element.snippet)
      else none

/-! ## Choices -/

/-- The value that a selection without a choice would have: that of its first option. -/
def firstOptionValue? (select : Place) : Option String :=
  (select.descendants.find? fun p => p.element.tag == "option").map fun first =>
    (first.element.attr? "value").getD first.element.textContent

def requiresChoice (p : Place) : Bool :=
  p.element.hasAttr "required" && !p.element.hasAttr "multiple" &&
    (match p.element.attr? "size" with
      | some size => Text.trim size == "1"
      | none => true)

def requiredSelectHasEmptyFirstOption : Rule :=
  listing "required_select_has_empty_first_option" .advice
      "Found required select elements without an empty first option:" <|
    onTags ["select"] fun p =>
      if requiresChoice p then
        match firstOptionValue? p with
        | some value =>
          if value = "" then none
          else
            let shown := Text.takeFirst 50 (Text.trim value)
            some (s!"<select{p.element.identifier} required> should start with an empty " ++
              s!"<option> (current first value: \"{shown}\")")
        | none => none
      else none

def inputsOfType (d : Document) (type : String) : List Place :=
  (d.placesOf ["input"]).filter fun p => p.element.inputType == type

def judgeGroup (type reason : String) (p : Place) : Option String :=
  if isBlankValue (p.element.attr? "name") then
    some (s!"<input type=\"{type}\"{p.element.filledId}> lacks [name] attribute " ++
      s!"(required {reason})")
  else none

/-- Choices belong to groups: radio buttons always, and checkboxes when there are several. -/
def radioCheckboxInputsHaveName : Rule :=
  listing "radio_checkbox_inputs_have_name" .errors
    ("Found \x7bcount\x7d radio/checkbox inputs without [name] attribute " ++
      "(required for proper grouping):") fun d =>
      let checkboxes := inputsOfType d "checkbox"
      Finding.judge (judgeGroup "radio" "for grouping") (inputsOfType d "radio") ++
        (if 1 < checkboxes.length then
          Finding.judge (judgeGroup "checkbox" "when multiple checkboxes exist") checkboxes
        else [])

def radiosInsideFieldset : Rule :=
  listing "radios_inside_fieldset" .errors
    ("Found \x7bcount\x7d radio buttons outside <fieldset> " ++
      "(strongly recommended for accessibility):") fun d =>
      Finding.judge (fun p =>
        if p.isInside ["fieldset"] then none
        else
          let byId := p.element.filledId
          let shown := if byId = "" then p.element.filledAttr "name" " name=\"" "\"" else byId
          some (s!"<input type=\"radio\"{shown}> is not inside a <fieldset> " ++
            "(recommended for grouping)")) (inputsOfType d "radio")

end MarkupAudit.Rules
