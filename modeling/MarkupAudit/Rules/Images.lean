import MarkupAudit.Format.FileName
import MarkupAudit.Rule.Basic

/-!
# Rules about images
-/

namespace MarkupAudit.Rules

open Rule

/-! ## Text in place of an image -/

/-- The element is an input field, but not one that shows an image. -/
def isOtherInput (e : Element) : Bool :=
  e.tag = "input" && e.inputType != "image"

/-- What is wrong with the text in place of an image. An empty text marks a decoration. -/
def altIssue? : Option String → Option String
  | none => some "is missing the alt attribute"
  | some alt =>
    if isWhitespaceOnly (some alt) then some "has an alt attribute with only whitespace" else none

def imagesHaveAlt : Rule :=
  listing "images_have_alt" .errors "Found images without proper alt attributes:" <|
    onTags ["img", "area", "input"] fun p =>
      if isOtherInput p.element then none
      else (altIssue? (p.element.attr? "alt")).map fun issue =>
        let shown := p.element.listed ["type"]
        let src := p.element.attrOr "src"
        s!"<{p.element.tag}{shown} src=\"{src}\"> {issue}"

def roleImgHasLabel : Rule :=
  listing "role_img_has_label" .errors "Found elements with role=\"img\" without proper labels:" <|
    onEvery fun p =>
      if p.element.hasRole "img" && !p.element.attrIs "aria-hidden" ["true"] &&
          isBlankValue (p.element.attr? "aria-label") &&
          isBlankValue (p.element.attr? "aria-labelledby") then
        let shown := p.element.listed ["id", "class"]
        some s!"<{p.element.tag}{shown} role=\"img\"> is missing aria-label or aria-labelledby"
      else none

def isImageLike (e : Element) : Bool :=
  ["img", "area"].contains e.tag ||
    (["input", "embed", "object"].contains e.tag && e.attrIs "type" ["image"])

/-- The text in place of an image is no file name. -/
def altIsNotFileName : Rule :=
  listing "alt_is_not_file_name" .warnings "Found elements with file names in alt attributes:" <|
    onEvery fun p =>
      match p.element.attr? "alt" with
      | some alt =>
        if isImageLike p.element && FileName.looksLike alt then
          let shown := p.element.listed ["type"]
          some (s!"<{p.element.tag}{shown}{p.element.identifier} alt=\"{alt}\"> " ++
            "contains a file name in the alt attribute")
        else none
      | none => none

/-! ## Sources -/

def invalidSources : List String := ["", "#", "/"]

def isInvalidSource (source : String) : Bool :=
  invalidSources.contains (Text.trim source)

def sourceIssue? (src srcset : Option String) : Option String :=
  if src.isNone && srcset.isNone then some "is missing both src and srcset attributes"
  else
    let invalidSrc := (src.filter isInvalidSource).map fun value => s!"has invalid src=\"{value}\""
    let invalidSrcset :=
      (srcset.filter isInvalidSource).map fun value => s!"has invalid srcset=\"{value}\""
    invalidSrc.or invalidSrcset

def imagesHaveValidSource : Rule :=
  listing "images_have_valid_source" .errors "Found images without valid source attributes:" <|
    onTags ["img", "input"] fun p =>
      if isOtherInput p.element then none
      else (sourceIssue? (p.element.attr? "src") (p.element.attr? "srcset")).map fun issue =>
        let shown := p.element.listed ["type"]
        let alt := p.element.attrOr "alt"
        s!"<{p.element.tag}{shown} alt=\"{alt}\"> {issue}"

/-! ## Decorations -/

/-- Why an image map area counts as a decoration. -/
def areaIndicator? (e : Element) : Option String :=
  match e.attr? "alt" with
  | some alt =>
    if e.hasAttr "href" then none else if alt = "" then some "empty alt" else some "no href"
  | none => none

/-- Why an element counts as a decoration, if it does. -/
def decorativeIndicator? (e : Element) : Option String :=
  let byHiding := if e.attrIs "aria-hidden" ["true"] then some "aria-hidden=\"true\"" else none
  if e.tag = "img" then
    if e.attr? "alt" = some "" then some "empty alt" else byHiding
  else if e.tag = "area" then byHiding.or (areaIndicator? e)
  else if ["svg", "canvas"].contains e.tag ||
      (["embed", "object"].contains e.tag && e.attrIs "type" ["image"]) then byHiding
  else none

def decorationNames : List String :=
  ["title", "aria-label", "aria-labelledby", "aria-describedby"]

def decorativeImagesHaveNoName : Rule :=
  listing "decorative_images_have_no_name" .warnings
      "Found decorative images with accessible names:" <|
    onEvery fun p =>
      match decorativeIndicator? p.element with
      | none => none
      | some indicator =>
        let naming := decorationNames.find? p.element.hasAttr
        -- An area that leads nowhere is reported even when no attribute names it.
        if naming.isNone && indicator != "no href" then none
        else
          let shown := p.element.listed ["type"]
          let what := naming.getD "accessible name"
          some (s!"<{p.element.tag}{shown}{p.element.identifier}> is decorative ({indicator}) " ++
            s!"but has [{what}] attribute")

def decorationCriteria : String :=
  "https://accessibilite.numerique.gouv.fr/methode/criteres-et-tests/#1.2"

def imageTags : List String := ["img", "svg", "area", "embed", "canvas", "object"]

def noRolePresentationOnImages : Rule :=
  telling "no_role_presentation_on_images" .warnings <|
    onTags imageTags fun p =>
      if p.element.isPresentation then
        let alternative := if p.element.tag = "img" then " or an empty alt attribute" else ""
        some (s!"The <{p.element.tag}{p.element.identifier}> element uses " ++
          "role=\"presentation\", which has poor browser support. Use aria-hidden=\"true\" " ++
          s!"instead{alternative} to mark decorative images. See: {decorationCriteria}")
      else none

def svgHasRoleOrHidden : Rule :=
  telling "svg_has_role_or_hidden" .warnings <|
    onTags ["svg"] fun p =>
      if !p.element.attrIs "aria-hidden" ["true"] && !p.element.attrIs "role" ["img"] then
        some (s!"The <svg{p.element.identifier}> element must have either aria-hidden=\"true\" " ++
          s!"(if decorative) or role=\"img\" (if informative). See: {decorationCriteria}")
      else none

end MarkupAudit.Rules
