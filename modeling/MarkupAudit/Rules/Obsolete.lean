import MarkupAudit.Rule.Basic

/-!
# Rules about obsolete markup
-/

namespace MarkupAudit.Rules

open Rule

def obsoleteTags : List String :=
  ["applet", "acronym", "bgsound", "dir", "frame", "frameset", "noframes", "isindex", "keygen",
    "menuitem", "listing", "nextid", "noembed", "param", "plaintext", "rb", "rtc", "strike", "xmp",
    "basefont", "big", "blink", "center", "font", "marquee", "multicol", "nobr", "spacer", "tt"]

def obsoleteEverywhere : List String := ["dropzone", "contextmenu", "onshow"]

def obsoleteAttributes : List (String × List String) :=
  [
    ("a", ["charset", "coords", "shape", "methods", "name", "rev", "urn", "datasrc", "datafld"]),
    ("link", ["charset", "methods", "rev", "urn", "target"]),
    ("option", ["name", "datasrc", "dataformatas"]),
    ("embed", ["name", "hspace", "vspace", "align"]),
    ("img",
      ["name", "lowsrc", "longdesc", "datasrc", "datafld", "hspace", "vspace", "align", "border"]),
    ("form", ["accept"]),
    ("head", ["profile"]),
    ("html", ["version"]),
    ("menu", ["type", "label"]),
    ("param", ["type", "valuetype", "datafld"]),
    ("script", ["language", "event", "for"]),
    ("table",
      ["datapagesize", "summary", "bgcolor", "datasrc", "dataformatas", "width", "align",
        "cellpadding", "cellspacing", "frame", "rules", "background"]),
    ("td",
      ["axis", "scope", "abbr", "bgcolor", "char", "charoff", "valign", "width", "align", "height",
        "nowrap", "background"]),
    ("th",
      ["axis", "bgcolor", "char", "charoff", "valign", "width", "align", "height", "nowrap",
        "background"]),
    ("applet", ["datasrc", "datafld"]),
    ("button", ["datasrc", "datafld", "dataformatas"]),
    ("div", ["datasrc", "datafld", "dataformatas", "align"]),
    ("frame", ["datasrc", "datafld"]),
    ("label", ["datasrc", "datafld", "dataformatas"]),
    ("legend", ["datasrc", "datafld", "dataformatas", "align"]),
    ("marquee", ["datasrc", "datafld", "dataformatas"]),
    ("span", ["datasrc", "datafld", "dataformatas"]),
    ("fieldset", ["datafld"]),
    ("body",
      ["alink", "bgcolor", "link", "bottommargin", "leftmargin", "rightmargin", "topmargin",
        "marginheight", "marginwidth", "text", "vlink", "background"]),
    ("col", ["char", "charoff", "valign", "width", "align"]),
    ("tbody", ["char", "charoff", "valign", "align", "background"]),
    ("thead", ["char", "charoff", "valign", "align", "background"]),
    ("tfoot", ["char", "charoff", "valign", "align", "background"]),
    ("tr", ["char", "charoff", "valign", "bgcolor", "align", "background"]),
    ("pre", ["width"]),
    ("dl", ["compact"]),
    ("ol", ["compact"]),
    ("ul", ["compact", "type"]),
    ("h1", ["align"]),
    ("h2", ["align"]),
    ("h3", ["align"]),
    ("h4", ["align"]),
    ("h5", ["align"]),
    ("h6", ["align"]),
    ("caption", ["align"]),
    ("p", ["align"]),
    ("li", ["type"]),
    ("area", ["nohref", "type", "hreflang"]),
    ("input",
      ["ismap", "usemap", "datasrc", "datafld", "dataformatas", "hspace", "vspace", "align"]),
    ("iframe",
      ["longdesc", "datasrc", "datafld", "marginheight", "marginwidth", "hspace", "vspace",
        "align", "allowtransparency", "frameborder", "framespacing", "scrolling"]),
    ("object",
      ["archive", "classid", "code", "codebase", "codetype", "declare", "standby", "typemustmatch",
        "datasrc", "datafld", "dataformatas", "hspace", "vspace", "align", "border"]),
    ("select", ["datasrc", "datafld", "dataformatas"]),
    ("textarea", ["datasrc", "datafld"]),
    ("br", ["clear"]),
    ("hr", ["width", "color", "noshade", "size", "align"]),
    ("meta", ["scheme"])
  ]

def isObsoleteAttribute (tag name : String) : Bool :=
  obsoleteEverywhere.contains name || ((obsoleteAttributes.lookup tag).getD []).contains name

def noObsoleteTags : Rule :=
  listing "no_obsolete_tags" .obsoletes "Found obsolete HTML tags:" <|
    onEvery fun p =>
      if obsoleteTags.contains p.element.tag then
        some s!"<{p.element.tag}> is an obsolete HTML tag and should not be used"
      else none

/-- The obsolete attributes of an element in order. -/
def obsoleteEntries (e : Element) : List (String × String) :=
  e.attributes.entries.filter fun entry => isObsoleteAttribute e.tag entry.1

def noObsoleteAttributes : Rule :=
  listing "no_obsolete_attributes" .obsoletes "Found obsolete HTML attributes:" <|
    onEvery fun p =>
      match obsoleteEntries p.element with
      | [] => none
      | found =>
        let pairs := Text.join " " (found.map fun (name, value) => s!"{name}=\"{value}\"")
        let shown := Text.join ", " (found.map Prod.fst)
        some s!"<{p.element.tag} {pairs}> contains obsolete attribute(s): {shown}"

end MarkupAudit.Rules
