import MarkupAudit.Rule.Basic

/-!
# Rules about sound, video and embedded pages
-/

namespace MarkupAudit.Rules

open Rule

def mediaHasNoAutoplay : Rule :=
  telling "media_has_no_autoplay" .warnings <|
    onTags ["video", "audio"] fun p =>
      if p.element.hasAttr "autoplay" then
        some (s!"The <{p.element.tag}{p.element.identifier}> element has the autoplay " ++
          "attribute, which can be disruptive for users. Remove the autoplay attribute to give " ++
          "users control over media playback. See: https://www.w3.org/TR/WCAG22/#audio-control")
      else none

def mediaHasControls : Rule :=
  telling "media_has_controls" .warnings <|
    onTags ["video", "audio"] fun p =>
      if p.element.hasAttr "controls" then none
      else
        some (s!"The <{p.element.tag}{p.element.identifier}> element is missing the controls " ++
          "attribute. Add controls to give users the ability to play, pause, and control the " ++
          "media. See: https://www.w3.org/TR/WCAG22/#keyboard")

/-- How a sentence calls an embedded page: by its address, else by the start of its text. -/
def pageName (e : Element) : String :=
  let src := e.attrOr "src"
  let srcdoc := e.attrOr "srcdoc"
  if src != "" then s!" (src=\"{src}\")"
  else if srcdoc != "" then
    let shown := truncate srcdoc 50
    s!" (srcdoc=\"{shown}\")"
  else ""

def iframesHaveTitle : Rule :=
  listing "iframes_have_title" .errors
      "Found \x7bcount\x7d iframes without a valid title attribute:" <|
    onTags ["iframe"] fun p =>
      if isBlankValue (p.element.attr? "title") then
        some (s!"Iframe{pageName p.element} is missing a valid title attribute: " ++
          p.element.snippet)
      else none

end MarkupAudit.Rules
