import MarkupAudit.Format.Identifier
import MarkupAudit.Number.Integer
import MarkupAudit.Rule.Basic

/-!
# Rules about attributes that any element may have
-/

namespace MarkupAudit.Rules

open Rule

/-! ## Identifiers and classes -/

def classAttributeNotEmpty : Rule :=
  listing "class_attribute_not_empty" .advice "Found elements with empty class attributes:" <|
    onEvery fun p =>
      match p.element.attr? "class" with
      | some value =>
        if Text.isBlankText value then
          some
            (s!"<{p.element.upperTag}{p.element.identifier} class=\"{value}\"> " ++
              "has an empty class attribute")
        else none
      | none => none

def idAttributeNotEmpty : Rule :=
  listing "id_attribute_not_empty" .advice "Found elements with empty id attributes:" <|
    onEvery fun p =>
      match p.element.attr? "id" with
      | some value =>
        if Text.isBlankText value then
          let shown := ((p.element.attr? "name").map (Element.attrText "name")).getD ""
          some (s!"<{p.element.upperTag}{shown} id=\"{value}\"> " ++
            "has an empty id attribute")
        else none
      | none => none

def wordAttributes (e : Element) : List String :=
  ["id", "lang"] ++ (if e.tag = "map" then ["name"] else [])

def spacedAttribute? (e : Element) : Option (String × String) :=
  (wordAttributes e).findSome? fun name =>
    match e.attr? name with
    | some value => if value.toList.any Text.isBlank then some (name, value) else none
    | none => none

def attributesHaveNoWhitespace : Rule :=
  listing "attributes_have_no_whitespace" .errors "Found attributes containing whitespace:" <|
    onEvery fun p =>
      (spacedAttribute? p.element).map fun (name, value) =>
        s!"<{p.element.upperTag} {name}=\"{value}\"> contains whitespace in the {name} attribute"

def invalidIdentifiers (e : Element) : List String :=
  (match e.attr? "id" with
    | some id => if Identifier.isInvalid id then [s!"id=\"{id}\""] else []
    | none => []) ++
  (Identifier.invalidTokens (e.attrOr "class")).map fun token => s!"class=\"{token}\""

def cssIdentifiersAreValid : Rule :=
  listing "css_identifiers_are_valid" .errors
      ("Found \x7bcount\x7d elements with invalid CSS identifiers " ++
        "(must not start with digit, --, or -digit):") <|
    onEvery fun p =>
      match invalidIdentifiers p.element with
      | [] => none
      | invalid =>
        let shown := Text.join ", " invalid
        some (s!"Element <{p.element.tag}> has invalid CSS identifier(s) [{shown}]: " ++
          s!"{p.element.snippet}")

/-! ## Keyboard -/

/-- The characters of a tab index that count: without blanks around it and plus signs before it. -/
def tabIndexDigits (value : String) : String :=
  String.ofList ((Chars.trim value.toList).dropWhile (· == '+'))

/-- The judgement on a tab index. Digits of every script count; what merely looks like a digit is
tried too, and is a fault. -/
def judgeTabIndex (p : Place) : Except Fault (Option String) :=
  match p.element.attr? "tabindex" with
  | none => .ok none
  | some value =>
    let digits := tabIndexDigits value
    if digits != "" && digits.toList.all Text.isDigitLike then
      match Number.readInteger digits with
      | .error cause => .error (.number cause)
      | .ok n =>
        .ok (if n > 0 then
          some s!"<{p.element.upperTag} tabindex=\"{value}\"> has a positive tabindex value"
        else none)
    else .ok none

def tabindexNotPositive : Rule where
  name := "tabindex_not_positive"
  category := .errors
  summary := some "Found elements with tabindex > 0:"
  style := .collect
  check := fun _ d => Finding.judgeOrFail judgeTabIndex d.places

def noAccesskey : Rule :=
  listing "no_accesskey" .errors
      ("Found \x7bcount\x7d elements using [accesskey] attribute " ++
        "(creates conflicts with browser and OS shortcuts):") <|
    onEvery fun p =>
      (p.element.attr? "accesskey").map fun key =>
        s!"<{p.element.upperTag}> has accesskey=\"{key}\" (may conflict with browser/OS shortcuts)"

/-! ## Layout and behaviour -/

/-- Elements that may be given a width and a height. -/
def sizedTags : List String := ["img", "object", "embed", "svg", "canvas", "iframe", "video"]

/-- The element may be given a width and a height: it is embedded content, a source of a picture, or
part of a drawing or a formula. -/
def maySetSize (p : Place) : Bool :=
  sizedTags.contains p.element.tag ||
    (p.element.tag = "source" && p.parentTag? = some "picture") ||
    p.isInside ["svg", "math"]

def widthHeightOnAllowedElements : Rule :=
  listing "width_height_on_allowed_elements" .errors
      ("Found \x7bcount\x7d elements with inappropriate width or height attributes " ++
        "(use CSS instead):") <|
    onEvery fun p =>
      if maySetSize p then none
      else (["width", "height"].find? p.element.hasAttr).map fun name =>
        s!"Element <{p.element.tag}> has inappropriate {name} attribute: {p.element.snippet}"

def handlerAttributes (e : Element) : List String :=
  e.attributes.keys.filter fun name => Text.beginsWith "on" name && decide (2 < name.length)

def noInlineEventHandlers : Rule :=
  listing "no_inline_event_handlers" .errors
      ("Found \x7bcount\x7d elements with JavaScript event attributes " ++
        "(use CSS pseudo-classes or addEventListener instead):") <|
    onEvery fun p =>
      match handlerAttributes p.element with
      | [] => none
      | handlers =>
        let shown := Text.join ", " handlers
        some (s!"Element <{p.element.tag}> has JavaScript event attribute(s) [{shown}]: " ++
          s!"{p.element.snippet}")

/-! ## Abbreviations -/

def titleIssue? : Option String → Option String
  | none => some "is missing a title attribute"
  | some title =>
    if title = "" then some "has an empty title attribute"
    else if Text.isBlankText title then some "has a whitespace-only title attribute"
    else none

def abbrHasTitle : Rule :=
  listing "abbr_has_title" .warnings
      "Found <abbr> elements without a proper title attribute:" <|
    onTags ["abbr"] fun p =>
      (titleIssue? (p.element.attr? "title")).map fun issue =>
        s!"<abbr{p.element.identifier}> {issue} (content: \"{p.element.textContent}\")"

end MarkupAudit.Rules
