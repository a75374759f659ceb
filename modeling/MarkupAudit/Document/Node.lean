import MarkupAudit.Data.Keyed

/-!
# Nodes

A document is a tree of elements and texts. An element has a tag, attributes and children.
-/

namespace MarkupAudit

/-- The attributes of an element: a value for each name, in order. -/
abbrev Attributes := Keyed String String

/-- A node of a document. -/
inductive Node where
  | text (content : String)
  | element (tag : String) (attributes : Attributes) (children : List Node)
  deriving Inhabited

/-- An element on its own. -/
structure Element where
  tag : String
  attributes : Attributes
  children : List Node
  deriving Inhabited

namespace Node

def element? : Node → Option Element
  | .text _ => none
  | .element tag attributes children => some ⟨tag, attributes, children⟩

def text? : Node → Option String
  | .text content => some content
  | .element _ _ _ => none

def isElement : Node → Bool
  | .text _ => false
  | .element _ _ _ => true

mutual

def elementCount : Node → Nat
  | .text _ => 0
  | .element _ _ children => elementCountAll children + 1

def elementCountAll : List Node → Nat
  | [] => 0
  | node :: rest => node.elementCount + elementCountAll rest

end

mutual

def textContent : Node → String
  | .text content => content
  | .element _ _ children => textContentAll children

def textContentAll : List Node → String
  | [] => ""
  | node :: rest => node.textContent ++ textContentAll rest

end

end Node

namespace Element

def node (e : Element) : Node :=
  .element e.tag e.attributes e.children

/-- Elements that never have children. Some are obsolete, but browsers still treat them so. -/
def voidTags : List String :=
  ["area", "base", "br", "col", "embed", "hr", "img", "input", "link", "meta", "param", "source",
    "track", "wbr", "basefont", "bgsound", "frame", "isindex", "keygen"]

def isVoidTag (tag : String) : Bool :=
  voidTags.contains tag

def isVoid (e : Element) : Bool :=
  isVoidTag e.tag

end Element

end MarkupAudit
