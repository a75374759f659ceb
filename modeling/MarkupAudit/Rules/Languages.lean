import MarkupAudit.Format.Language
import MarkupAudit.Rule.Basic

/-!
# Rules about languages and writing directions
-/

namespace MarkupAudit.Rules

open Rule

def languageIssue? : Option String → Option String
  | none => some "HTML element is missing a lang attribute"
  | some lang =>
    if lang = "" then some "HTML element has an empty lang attribute"
    else if lang.toList.any Text.isBlank then
      some s!"HTML element has a lang attribute containing whitespace: lang=\"{lang}\""
    else none

def htmlHasValidLang : Rule :=
  listing "html_has_valid_lang" .errors "HTML element must have a valid language defined:" <|
    onTags ["html"] fun p => languageIssue? (p.element.attr? "lang")

def directions : List String := ["rtl", "ltr", "auto"]

def dirAttributeIsValid : Rule :=
  listing "dir_attribute_is_valid" .errors
      ("Found \x7bcount\x7d elements with invalid [dir] attribute " ++
        "(must be rtl, ltr, or auto):") <|
    onEvery fun p =>
      match p.element.attr? "dir" with
      | some dir =>
        if p.element.attrIs "dir" directions then none
        else
          some (s!"<{p.element.upperTag}> has invalid dir=\"{dir}\" " ++
            "(must be \"rtl\", \"ltr\", or \"auto\")")
      | none => none

/-! ## Direction and language together -/

def runsRightToLeft (e : Element) : Bool :=
  e.attrIs "dir" ["rtl"]

/-- The language of the element itself, or of the nearest ancestor that has one. -/
def inheritedLanguage? (p : Place) : Option String :=
  (p.element.attr? "lang").or (p.ancestors.findSome? fun q => q.element.attr? "lang")

def directionAdvice : String := "https://www.w3.org/International/questions/qa-html-dir"

def judgeOwnDirection (s : Settings) (p : Place) : Except Fault (Option String) :=
  (Language.isRightToLeft s (p.element.attr? "lang")).map fun isRightToLeft =>
    if isRightToLeft && !runsRightToLeft p.element then
      let lang := p.element.attrOr "lang"
      some (s!"The <{p.element.tag}{p.element.identifier}> element has lang=\"{lang}\" but is " ++
        "missing dir=\"rtl\". Right-to-left languages like Arabic and Hebrew require the " ++
        s!"dir=\"rtl\" attribute. See: {directionAdvice}")
    else none

def someRightToLeft (s : Settings) : List Located → Except Fault Bool
  | [] => .ok false
  | q :: outer => do
    if ← Language.isRightToLeft s (q.element.attr? "lang") then return true
    someRightToLeft s outer

/-- The judgement on an element that changes the language inside content written from right to
left. -/
def judgeChangedLanguage (s : Settings) (p : Place) : Except Fault (Option String) :=
  match p.element.attr? "lang" with
  | some lang =>
    if p.element.hasAttr "dir" then .ok none
    else (someRightToLeft s p.ancestors).map fun inside =>
      if inside then
        some (s!"The <{p.element.tag}{p.element.identifier}> element has lang=\"{lang}\" within " ++
          "RTL content but is missing a dir attribute. Language changes within right-to-left " ++
          "content should define dir=\"ltr\" or dir=\"rtl\" as appropriate. See: " ++
          "https://www.w3.org/International/articles/inline-bidi-markup/#dirattribute")
      else none
  | none => .ok none

def judgeDirection (s : Settings) (p : Place) : Except Fault (Option String) :=
  if runsRightToLeft p.element then
    let lang := inheritedLanguage? p
    (Language.isRightToLeft s lang).map fun isRightToLeft =>
      if isRightToLeft then none
      else
        let shown := match lang with
          | some value => if value = "" then "not set" else value
          | none => "not set"
        some (s!"The <{p.element.tag}{p.element.identifier}> element has dir=\"rtl\" but " ++
          s!"lang=\"{shown}\". The dir=\"rtl\" attribute should be used with right-to-left " ++
          s!"languages like Arabic (ar) or Hebrew (he). See: {directionAdvice}")
  else .ok none

def directionFindings (s : Settings) (d : Document) : Except Fault (List Finding) := do
  let own ← Finding.judgeOrFail (judgeOwnDirection s) d.places
  let changed ← Finding.judgeOrFail (judgeChangedLanguage s) d.places
  let running ← Finding.judgeOrFail (judgeDirection s) d.places
  return own ++ changed ++ running

def dirMatchesLang : Rule where
  name := "dir_matches_lang"
  category := .warnings
  summary := none
  style := .firstMatch
  check := directionFindings

end MarkupAudit.Rules
