import MarkupAudit.Data.Value
import MarkupAudit.Document.Notice
import MarkupAudit.Markup.Event

/-!
# Markup nested as written

Start and end tags give a forest in which an element that is never closed holds everything behind
its start tag. Which end tags HTML implies is not decided here.
-/

namespace MarkupAudit.Markup

/-- What may stand for the value of an attribute in a ready-made tree. Each has a text. -/
inductive AttributeValue where
  | missing
  | text (s : String)
  | texts (parts : List String)
  | bool (b : Bool)
  | int (n : Int) (hwritable : Number.IsWritable n)
  | float (f : Float)

/-- A node of a forest nested as written. Attributes are pairs as they stand: names may differ in
case only, and a value need not be a text. -/
inductive RawNode where
  | text (content : String)
  | aside (kind : Aside) (content : String)
  | element (name : String) (attributes : List (String × AttributeValue))
    (children : List RawNode)
  deriving Inhabited

/-- An element whose end has not come yet, with its children so far, the last one first. -/
structure RawOpening where
  name : String
  attributes : List (String × String)
  children : List RawNode

/-- A forest that is being nested. -/
structure RawNesting where
  /-- Elements whose end has not come yet, the innermost first. -/
  opened : List RawOpening
  /-- The finished nodes that lie in no open element, the last one first. -/
  finished : List RawNode
  /-- Pieces of text that belong to the next text node, the last one first. -/
  pending : List String
  /-- Names of void elements whose end tags are still to be passed over. -/
  closedAtOnce : List String
  /-- Notices, the last one first. -/
  notices : List Notice

namespace RawNesting

def voidNames : List String :=
  ["area", "base", "br", "col", "embed", "hr", "img", "input", "keygen", "link", "menuitem",
    "meta", "param", "source", "track", "wbr", "basefont", "bgsound", "command", "frame", "image",
    "isindex", "nextid", "spacer"]

def preformattedNames : List String := ["pre", "textarea"]

/-- Blank text: spaces, tabs, and the ends of lines and pages. -/
def isSpacing (s : String) : Bool :=
  s.toList.all fun c => c = ' ' || c = '\n' || c = '\t' || c = '\x0c' || c = '\r'

def start : RawNesting where
  opened := []
  finished := []
  pending := []
  closedAtOnce := []
  notices := []

/-- Adds a node to the innermost open element. -/
def append (node : RawNode) (n : RawNesting) : RawNesting :=
  match n.opened with
  | [] => { n with finished := node :: n.finished }
  | e :: outer => { n with opened := { e with children := node :: e.children } :: outer }

/-- The text as it is kept: blank text is one line end or one space, except where it is
preformatted. -/
def keptText (n : RawNesting) (s : String) : String :=
  if isSpacing s && !n.opened.any (fun e => preformattedNames.contains e.name) then
    if s.toList.contains '\n' then "\n" else " "
  else s

def flush (n : RawNesting) : RawNesting :=
  if n.pending.isEmpty then n
  else
    let s := n.keptText (String.join n.pending.reverse)
    ({ n with pending := [] } : RawNesting).append (.text s)

def nodeOf (e : RawOpening) : RawNode :=
  .element e.name (e.attributes.map fun (name, value) => (name, .text value)) e.children.reverse

/-- Closes so many of the innermost open elements. -/
def close : Nat → RawNesting → RawNesting
  | 0, n => n
  | count + 1, n =>
    match n.opened with
    | [] => n
    | e :: outer => close count (({ n with opened := outer } : RawNesting).append (nodeOf e))

/-- Closes the innermost open element of the name and all inside it, if there is one. -/
def closeNamed (name : String) (n : RawNesting) : RawNesting :=
  if n.opened.any (·.name == name) then
    n.close ((n.opened.takeWhile (·.name != name)).length + 1)
  else n

/-- Attributes with each name once, at its first place, and the names that were repeated. A
repeated attribute keeps its first value or takes its last one. -/
def distinctAttributes (keepFirst : Bool) :
    List (String × String) → List (String × String) → List (String × String) × List String
  | kept, [] => (kept, [])
  | kept, (name, value) :: rest =>
    if kept.any (·.1 == name) then
      let kept :=
        if keepFirst then kept
        else kept.map fun entry => if entry.1 == name then (name, value) else entry
      let (all, repeated) := distinctAttributes keepFirst kept rest
      (all, name :: repeated)
    else distinctAttributes keepFirst (kept ++ [(name, value)]) rest

/-- An end tag. It is passed over when a void element of the name was closed at its start tag. -/
def onFinish (name : String) (n : RawNesting) : RawNesting :=
  if n.closedAtOnce.contains name then
    { n with closedAtOnce := n.closedAtOnce.erase name }
  else n.flush.closeNamed name

/-- A start tag. A tag that closes itself is closed at once, whatever its name and whatever end tags
are still to be passed over. So is a void element, and an end tag of its name will be passed
over. -/
def onStart (keepFirst : Bool) (name : String) (attributes : List (String × String))
    (empty : Bool) (n : RawNesting) : RawNesting :=
  let n := n.flush
  let (kept, repeated) := distinctAttributes keepFirst [] attributes
  let noted :=
    if keepFirst then (repeated.map Notice.duplicateAttribute).reverse ++ n.notices else n.notices
  let n := { n with opened := ⟨name, kept, []⟩ :: n.opened, notices := noted }
  -- A slash is an end of its own, so no end tag is left to be passed over.
  if empty then n.close 1
  else if voidNames.contains name then
    let n := n.close 1
    { n with closedAtOnce := name :: n.closedAtOnce }
  else n

def onEvent (keepFirst : Bool) (n : RawNesting) : Event → RawNesting
  | .text content => { n with pending := content :: n.pending }
  | .start name attributes empty => n.onStart keepFirst name attributes empty
  | .finish name => n.onFinish name
  | .aside kind content => n.flush.append (.aside kind content)

/-- The forest when no event is left. -/
def forest (n : RawNesting) : List RawNode :=
  let n := n.flush
  (n.close n.opened.length).finished.reverse

end RawNesting

/-- The forest that the events nest, and the notices of repeated attributes. -/
def RawNode.ofEvents (keepFirst : Bool) (events : List Event) : List RawNode × List Notice :=
  let n := events.foldl (·.onEvent keepFirst) RawNesting.start
  (n.forest, n.notices.reverse)

mutual

/-- Some element of the node has exactly this name. -/
def RawNode.mentions (name : String) : RawNode → Bool
  | .text _ => false
  | .aside _ _ => false
  | .element other _ children => other == name || mentionsAny name children

/-- Some element of the forest has exactly this name. -/
def RawNode.mentionsAny (name : String) : List RawNode → Bool
  | [] => false
  | node :: rest => node.mentions name || mentionsAny name rest

end

def RawNode.isDoctype : RawNode → Bool
  | .aside .doctype _ => true
  | _ => false

end MarkupAudit.Markup
