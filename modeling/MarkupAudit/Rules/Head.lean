import MarkupAudit.Format.Viewport
import MarkupAudit.Rule.Basic

/-!
# Rules about the head of a document
-/

namespace MarkupAudit.Rules

open Rule

def titleNotEmpty : Rule :=
  listing "title_not_empty" .errors "Found \x7bcount\x7d empty title tags:" fun d =>
    match d.placesOf ["title"] with
    | [] => [⟨none, "Document is missing a <title> tag"⟩]
    | titles =>
      Finding.judge (fun p =>
        if Text.isBlankText p.element.textContent then
          some s!"Title tag is empty or contains only whitespace: {p.element.snippet}"
        else none) titles

def judgeViewport (s : Settings) (p : Place) : Except Fault (Option String) :=
  if p.element.attrIs "name" ["viewport"] then
    (Viewport.restrictions s (p.element.attrOr "content")).map fun restrictions =>
      if restrictions.isEmpty then none
      else
        let shown := Text.join ", " restrictions
        some s!"Viewport meta tag restricts zoom [{shown}]: {p.element.snippet}"
  else .ok none

def viewportAllowsZoom : Rule where
  name := "viewport_allows_zoom"
  category := .errors
  summary := some ("Found \x7bcount\x7d viewport meta tags that restrict zoom " ++
    "(users should be able to zoom for readability):")
  style := .collect
  check := fun s d => Finding.judgeOrFail (judgeViewport s) (d.placesOf ["meta"])

def charsetIsUtf8 : Rule :=
  listing "charset_is_utf8" .errors
      ("Found \x7bcount\x7d meta tags with incorrect charset " ++
        "(use UTF-8 for maximum compatibility and security):") <|
    onTags ["meta"] fun p =>
      match p.element.attr? "charset" with
      | some charset =>
        if p.element.attrIs "charset" ["utf-8"] then none
        else some s!"Meta charset is not UTF-8 [charset=\"{charset}\"]: {p.element.snippet}"
      | none => none

def declaresCharset (e : Element) : Bool :=
  e.tag = "meta" && e.hasAttr "charset"

/-- The finding about a head that begins with something else than its character set. -/
def otherFirstDeclaration? (head : Place) : Option Finding :=
  match head.firstChild? with
  | some first =>
    if declaresCharset first.element then none
    else some (.about first
      (s!"First child of <head> is <{first.element.tag}> instead of charset meta tag: " ++
        first.element.snippet))
  | none => none

def charsetIsFirst : Rule :=
  listing "charset_is_first" .errors
    ("Found \x7bcount\x7d <head> elements where charset is not declared first " ++
      "(charset must be the first element for security and compatibility):") fun d =>
      (d.placesOf ["head"]).filterMap otherFirstDeclaration?

end MarkupAudit.Rules
