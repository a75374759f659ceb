import MarkupAudit.Document.Node
import MarkupAudit.Markup.RawNode
import MarkupAudit.Text.Case

/-!
# Building a document tree

The forest nested as written is replayed against a trail of open elements. A start tag first closes
what it implies the end of: an open list item, paragraph, cell, row and so on. A row that stands
directly in a table is given a table body, and the content of a void element follows the element.

The document itself is not on the trail, so it cannot be closed.
-/

namespace MarkupAudit

namespace Build

/-! ## Which elements a start tag closes -/

def headings : List String := ["h1", "h2", "h3", "h4", "h5", "h6"]

def special : List String :=
  ["address", "applet", "area", "article", "aside", "base", "basefont", "bgsound", "blockquote",
    "body", "br", "button", "caption", "center", "col", "colgroup", "dd", "details", "dir", "div",
    "dl", "dt", "embed", "fieldset", "figcaption", "figure", "footer", "form", "frame", "frameset",
    "head", "header", "hgroup", "hr", "html", "iframe", "img", "input", "keygen", "li", "link",
    "listing", "main", "marquee", "menu", "meta", "nav", "noembed", "noframes", "noscript",
    "object", "ol", "p", "param", "plaintext", "pre", "script", "search", "section", "select",
    "source", "style", "summary", "table", "tbody", "td", "template", "textarea", "tfoot", "th",
    "thead", "title", "tr", "track", "ul", "wbr", "xmp"] ++ headings

/-- Elements that hide an outer list item from a new one. -/
def listItemBoundary : List String :=
  special.filter fun tag => !(["address", "div", "p"].contains tag)

/-- Elements that hide an outer paragraph from a new block. -/
def buttonScope : List String :=
  ["applet", "caption", "html", "table", "td", "th", "marquee", "object", "template", "button"]

def paragraphClosers : List String :=
  ["address", "article", "aside", "blockquote", "center", "details", "dialog", "dir", "div", "dl",
    "fieldset", "figcaption", "figure", "footer", "form", "header", "hgroup", "hr", "li", "dd",
    "dt", "main", "menu", "nav", "ol", "p", "pre", "search", "section", "summary", "table", "ul",
    "listing", "xmp", "plaintext"] ++ headings

def tableSections : List String := ["caption", "colgroup", "thead", "tbody", "tfoot"]

/-- Elements that hide an outer cell from a new one. -/
def cellBoundary : List String := ["tr", "table", "tbody", "thead", "tfoot", "html", "template"]

/-- Elements that hide an outer row from a new one. -/
def rowBoundary : List String := ["table", "tbody", "thead", "tfoot", "html", "template"]

/-- A way in which a start tag closes open elements. -/
inductive Closing where
  /-- Closes through the nearest of the targets, unless a boundary comes first. -/
  | through (targets boundary : List String)
  /-- Closes the innermost element if it has one of the tags. -/
  | current (tags : List String)
  /-- Closes what is open inside the nearest element of the tag. -/
  | inside (tag : String)
  deriving DecidableEq, Repr

def itemClosings (tag : String) : List Closing :=
  if tag = "li" then [.through ["li"] listItemBoundary]
  else if tag = "dt" ∨ tag = "dd" then [.through ["dt", "dd"] listItemBoundary]
  else []

def paragraphClosings (tag : String) : List Closing :=
  if paragraphClosers.contains tag then [.through ["p"] buttonScope] else []

def groupClosings (tag : String) : List Closing :=
  if headings.contains tag then [.current headings]
  else if tag = "option" then [.current ["option"]]
  -- An open option ends before the group that it is in.
  else if tag = "optgroup" then [.current ["option"], .current ["optgroup"]]
  else if tag = "td" ∨ tag = "th" then [.through ["td", "th"] cellBoundary]
  -- A row ends a caption or a group of columns too, but no section of its table.
  else if tag = "tr" then [.through ["tr", "caption", "colgroup"] rowBoundary]
  -- There is no boundary here: whatever is open in the nearest table ends.
  else if tableSections.contains tag then [.inside "table"]
  else []

/-- All that a start tag closes, in order. -/
def closings (tag : String) : List Closing :=
  itemClosings tag ++ paragraphClosings tag ++ groupClosings tag

end Build

/-! ## The trail of open elements -/

/-- An element whose end has not come yet. -/
structure OpenElement where
  /-- Tells the element from all others that were ever opened. -/
  serial : Nat
  tag : String
  attributes : Attributes
  /-- Its finished children in order. -/
  children : List Node

def OpenElement.node (e : OpenElement) : Node :=
  .element e.tag e.attributes e.children

/-- A document that is being built. -/
structure Trail where
  /-- The open elements, the innermost first. -/
  opened : List OpenElement
  /-- The finished children of the document in order. -/
  top : List Node
  next : Nat
  /-- What was put right so far, in order. -/
  notices : List Notice

namespace Trail

open Build

def start : Trail := ⟨[], [], 0, []⟩

/-- Adds a finished node to the innermost open element, or to the document. -/
def append (t : Trail) (node : Node) : Trail :=
  match t.opened with
  | [] => { t with top := t.top ++ [node] }
  | e :: outer => { t with opened := { e with children := e.children ++ [node] } :: outer }

/-- Opens an element inside the innermost one. -/
def push (t : Trail) (tag : String) (attributes : Attributes) : Trail :=
  { t with opened := ⟨t.next, tag, attributes, []⟩ :: t.opened, next := t.next + 1 }

def note (t : Trail) (notice : Notice) : Trail :=
  { t with notices := t.notices ++ [notice] }

/-- Closes the innermost open element. -/
def pop (t : Trail) : Trail :=
  match t.opened with
  | [] => t
  | e :: outer => ({ t with opened := outer } : Trail).append e.node

/-- Closes so many of the innermost open elements. -/
def close : Nat → Trail → Trail
  | 0, t => t
  | count + 1, t => close count t.pop

/-- How many open elements lie inside the nearest one with a target tag, if no boundary comes
before it. -/
def depth? (targets boundary : List String) : List OpenElement → Option Nat
  | [] => none
  | e :: outer =>
    -- Some targets are boundaries as well; as targets they come first.
    if targets.contains e.tag then some 0
    else if boundary.contains e.tag then none
    else (depth? targets boundary outer).map (· + 1)

/-- How many open elements lie inside the one with the serial, if it is open. -/
def depthOf? (serial : Nat) : List OpenElement → Option Nat
  | [] => none
  | e :: outer => if e.serial = serial then some 0 else (depthOf? serial outer).map (· + 1)

/-- The tag of the innermost open element. -/
def currentTag? (t : Trail) : Option String :=
  t.opened.head?.map (·.tag)

def apply (t : Trail) : Closing → Trail
  | .through targets boundary =>
    match depth? targets boundary t.opened with
    | some depth => t.close (depth + 1)
    | none => t
  | .current tags =>
    match t.currentTag? with
    | some tag => if tags.contains tag then t.pop else t
    | none => t
  | .inside tag =>
    match depth? [tag] [] t.opened with
    | some depth => t.close depth
    | none => t

/-- Closes what the start of an element implies the end of. -/
def closeImplied (t : Trail) (tag : String) : Trail :=
  (closings tag).foldl apply t

def impliedBody (t : Trail) (tag : String) : Trail :=
  if tag = "tr" ∧ t.currentTag? = some "table" then
    (t.push "tbody" .empty).note .impliedTableBody
  else t

/-- Closes the element with the serial and all inside it, if it is still open. -/
def finish (t : Trail) (serial : Nat) : Trail :=
  match depthOf? serial t.opened with
  | some depth => t.close (depth + 1)
  | none => t

/-- The children of the document when everything is closed. -/
def nodes (t : Trail) : List Node :=
  (t.close t.opened.length).top

end Trail

/-! ## Replaying a forest -/

/-- The text of an attribute value that was not necessarily a text: nothing for a missing one, the
parts with a space between them. -/
def attributeText : Markup.AttributeValue → String
  | .missing => ""
  | .text s => s
  | .texts parts => Text.join " " parts
  | .bool b => Value.boolText b
  | .int n _ => toString n
  | .float f => Number.floatingText f

/-- The attributes of an element that is built: names in lower case. -/
def builtAttributes (attributes : List (String × Markup.AttributeValue)) : Attributes :=
  .ofList (attributes.map fun (name, v) => (Text.lower name, attributeText v))

mutual

def Trail.replay (t : Trail) : Markup.RawNode → Trail
  | .text content => t.append (.text content)
  | .aside _ _ => t
  | .element name attributes children =>
    let tag := Text.lower name
    let kept := builtAttributes attributes
    let ready := (t.closeImplied tag).impliedBody tag
    -- A void element is never opened, so what was written inside it comes behind it.
    if Element.isVoidTag tag then
      let placed := ready.append (.element tag kept [])
      let noted := if children.isEmpty then placed else placed.note (.hoistedContent tag)
      noted.replayAll children
    else
      -- The content may have closed the element already; the serial tells whether it is still open.
      ((ready.push tag kept).replayAll children).finish ready.next

def Trail.replayAll (t : Trail) : List Markup.RawNode → Trail
  | [] => t
  | node :: rest => (t.replay node).replayAll rest

end

def Build.replay (forest : List Markup.RawNode) : List Node × List Notice :=
  let t := Trail.start.replayAll forest
  (t.nodes, t.notices)

end MarkupAudit
