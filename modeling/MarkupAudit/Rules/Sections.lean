import MarkupAudit.Rule.Basic

/-!
# Rules about landmarks, figures and nesting
-/

namespace MarkupAudit.Rules

open Rule

/-! ## Landmarks -/

def onlyOneVisibleMain : Rule :=
  listing "only_one_visible_main" .advice
    ("Found multiple visible <main> elements " ++
      "(only one should be visible at a time):") fun d =>
      Finding.judge
        (fun p => some s!"<main{p.element.identifier}> is a second visible main element")
        (((d.placesOf ["main"]).filter fun p => !p.element.hasAttr "hidden").drop 1)

/-- Roles that one visible element may have. -/
def uniqueRoles : List String := ["main", "search", "banner", "contentinfo"]

def visibleWithRole (d : Document) (role : String) : List Place :=
  d.places.filter fun p => p.element.normalizedAttr "role" == role && !p.element.hasAttr "hidden"

/-- Some roles are given only once. -/
def uniqueLandmarkRoles : Rule :=
  listing "unique_landmark_roles" .advice "Found duplicate unique ARIA roles:" fun d =>
    uniqueRoles.flatMap fun role =>
      Finding.judge
        (fun p => some (s!"<{p.element.tag}{p.element.identifier} role=\"{role}\"> is a " ++
          s!"duplicate - role=\"{role}\" should be unique"))
        ((visibleWithRole d role).drop 1)

/-! ## Figures -/

def isFigcaption (p : Place) : Bool :=
  p.element.tag == "figcaption"

def judgeFurtherFigcaption (p : Place) : Except Fault (Option String) := do
  let other ← p.searchBack isFigcaption
  if other.isSome then
    let parent ← p.parentFor "tag"
    return some (s!"<figcaption{p.element.identifier}> is a second figcaption within " ++
      s!"<{parent.element.tag}>")
  else return none

def onlyOneFigcaption : Rule :=
  listingOrFail "only_one_figcaption" .advice
    "Found multiple <figcaption> elements within the same parent:" fun d =>
      Finding.judgeOrFail judgeFurtherFigcaption (d.placesOf ["figcaption"])

/-- The place is the first or the last element child of the parent. -/
def isOutermostChildOf (p parent : Place) : Bool :=
  parent.firstChild?.any p.same || parent.lastChild?.any p.same

def judgeFigcaptionPlace (p : Place) : Except Fault (Option String) := do
  let parent ← p.parentFor "children"
  return if isOutermostChildOf p parent then none
    else
      some (s!"<figcaption{p.element.identifier}> is neither first nor last child within " ++
        s!"<{parent.element.tag}>")

/-- The caption of a figure comes first or last. -/
def figcaptionIsFirstOrLastChild : Rule :=
  listingOrFail "figcaption_is_first_or_last_child" .advice
    "Found <figcaption> elements that are not first or last child:" fun d =>
      Finding.judgeOrFail judgeFigcaptionPlace (d.placesOf ["figcaption"])

def figcaptionInsideFigure : Rule :=
  listing "figcaption_inside_figure" .warnings "Found <figcaption> elements outside <figure>:" <|
    onTags ["figcaption"] fun p =>
      if p.parentName = "figure" then none
      else
        some (s!"<figcaption{p.element.identifier}> must be inside a <figure> element, " ++
          s!"found within <{p.parentName}>")

/-! ## Nesting -/

def mainForbidden : List String := ["nav", "aside", "footer", "header", "article"]

def judgeMain (p : Place) : Option String :=
  (p.ancestorOf? mainForbidden).map fun container =>
    s!"<main{p.element.identifier}> must not be contained within <{container.element.tag}>"

def judgeOptgroup (p : Place) : Option String :=
  if p.parentName = "select" then none
  else
    some (s!"<optgroup{p.element.identifier}> must be inside a <select> element, " ++
      s!"found within <{p.parentName}>")

def judgeLegend (p : Place) : Option String :=
  if p.parentName = "fieldset" then none
  else
    some (s!"<legend{p.element.identifier}> must be inside a <fieldset> element, " ++
      s!"found within <{p.parentName}>")

def judgeOption (p : Place) : Option String :=
  if ["select", "optgroup", "datalist"].contains p.parentName then none
  else
    some (s!"<option{p.element.identifier}> must be inside a <select> or <optgroup> element, " ++
      s!"found within <{p.parentName}>")

def addressForbidden : List String :=
  ["h1", "h2", "h3", "h4", "h5", "h6", "nav", "aside", "header", "footer", "address", "article",
    "section"]

def judgeInAddress (p : Place) : Option String :=
  if addressForbidden.contains p.element.tag && p.isInside ["address"] then
    some (s!"<{p.element.tag}{p.element.identifier}> is not allowed inside <address> element")
  else none

/-- Elements stand where they may. -/
def noInvalidNesting : Rule :=
  listing "no_invalid_nesting" .warnings "Found invalid HTML element nesting:" fun d =>
    onTags ["main"] judgeMain d ++ onTags ["optgroup"] judgeOptgroup d ++
      onTags ["legend"] judgeLegend d ++ onTags ["option"] judgeOption d ++
      onEvery judgeInAddress d

def inlineContainers : List String :=
  ["b", "i", "q", "em", "abbr", "cite", "code", "span", "small", "label", "strong"]

def noDivInsideInline : Rule :=
  listing "no_div_inside_inline" .warnings "Found <div> elements inside inline elements:" <|
    onTags ["div"] fun p =>
      (p.ancestorOf? inlineContainers).map fun container =>
        (s!"<div{p.element.identifier}> should not be inside <{container.element.tag}> - " ++
          "use <span> instead for inline containers")

def wrapperPairs : List (String × String) :=
  [("aside", "aside"), ("article", "aside"), ("aside", "article"), ("aside", "section"),
    ("section", "section"), ("article", "section"), ("article", "article")]

def noSectioningWrappers : Rule :=
  listing "no_sectioning_wrappers" .warnings "Found sectioning tags misused as wrappers:" <|
    onEvery fun p =>
      match p.parentTag? with
      | some parent =>
        if wrapperPairs.contains (parent, p.element.tag) && p.siblings.head?.any p.same then
          some (s!"<{p.element.tag}{p.element.identifier}> should not be used as a wrapper - " ++
            s!"<{p.element.tag}> as first child of <{parent}> indicates misuse")
        else none
      | none => none

/-! ## Empty elements -/

/-- Elements that may be empty. -/
def emptyTags : List String :=
  ["button", "a", "iframe", "textarea", "title", "option", "script", "style", "template", "command"]

/-- The element may be empty: it is void, hidden, fetched, or part of a drawing or a formula, or
other rules look at it. -/
def mayBeEmpty (p : Place) : Bool :=
  p.element.isVoid || emptyTags.contains p.element.tag ||
    ["hidden", "aria-hidden", "src"].any p.element.hasAttr ||
    ["svg", "math"].contains p.element.tag || p.isInside ["svg", "math"]

/-- Where empty elements are looked for: in the body, or everywhere if there is none. -/
def inspectedScope (d : Document) : Place :=
  (d.firstOf? "body").getD d.rootPlace

def noEmptyElements : Rule :=
  telling "no_empty_elements" .warnings fun d =>
    Finding.judge (fun p =>
      if p.element.isEmpty && !mayBeEmpty p then
        some (s!"The <{p.element.tag}{p.element.identifier}> element is empty and serves no " ++
          "purpose. Remove this element or add content to it. See: " ++
          "https://github.com/Heydon/REVENGE.CSS/blob/master/revenge.css#L243")
      else none) (inspectedScope d).descendants

/-! ## Interactive elements -/

def sameTagNesting : List String := ["form", "label", "meter", "progress"]

/-- Links and buttons, which hold nothing interactive. -/
def activators : List String := ["a", "button"]

def isInteractive (e : Element) : Bool :=
  if ["button", "details", "embed", "iframe", "label", "select", "textarea"].contains e.tag then
    true
  else if e.tag = "a" then e.hasAttr "href"
  else if ["audio", "video"].contains e.tag then e.hasAttr "controls"
  else if e.tag = "img" then e.hasAttr "usemap"
  else if e.tag = "input" then e.inputType != "hidden"
  else false

/-- The element stands inside one that may not hold it. -/
def isMisnested (p : Place) : Bool :=
  p.ancestors.any fun q =>
    (isInteractive p.element && activators.contains q.element.tag) ||
      (sameTagNesting.contains p.element.tag && q.element.tag == p.element.tag)

/-- The nearest element around a misnested one that may not hold something. A misnested element is
taken to have one. -/
def interactiveContainer (p : Place) : Except Fault (Option Located) :=
  if isMisnested p then
    match p.ancestorOf? (activators ++ sameTagNesting) with
    | some container => .ok (some container)
    | none => .error .nothingFound
  else .ok none

def judgeNestedInteractive (p : Place) : Except Fault (Option String) :=
  (interactiveContainer p).map fun container? =>
    container?.map fun container =>
      (s!"<{p.element.upperTag}{p.element.filledId}> nested inside " ++
        s!"<{container.element.upperTag}{container.element.filledId}>")

def noNestedInteractiveElements : Rule :=
  listingOrFail "no_nested_interactive_elements" .errors
    "Found \x7bcount\x7d interactive elements nested inside other interactive elements:" fun d =>
      Finding.judgeOrFail judgeNestedInteractive d.places

end MarkupAudit.Rules
