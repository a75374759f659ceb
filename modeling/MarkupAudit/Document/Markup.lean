import MarkupAudit.Document.Node
import MarkupAudit.Text.Split

/-!
# Writing markup

A node written as markup, in the way in which documents are written out from their trees: texts and
attribute values are escaped, and a void element has neither content nor end tag.
-/

namespace MarkupAudit

def escapedInText (c : Char) : List Char :=
  if c = '&' then "&amp;".toList
  else if c = '<' then "&lt;".toList
  else if c = '>' then "&gt;".toList
  else [c]

def escapedInValue (c : Char) : List Char :=
  if c = '&' then "&amp;".toList
  else if c = '"' then "&quot;".toList
  else [c]

def writtenAttributes (attributes : Attributes) : String :=
  String.join (attributes.entries.map fun entry =>
    " " ++ entry.1 ++ "=\"" ++ Text.expand escapedInValue entry.2 ++ "\"")

namespace Node

mutual

def markup : Node → String
  | .text content => Text.expand escapedInText content
  | .element tag attributes children =>
    if Element.isVoidTag tag then "<" ++ tag ++ writtenAttributes attributes ++ ">"
    else
      "<" ++ tag ++ writtenAttributes attributes ++ ">" ++ markupAll children ++ "</" ++ tag ++ ">"

/-- The nodes as markup, one after another. -/
def markupAll : List Node → String
  | [] => ""
  | node :: rest => node.markup ++ markupAll rest

end

end Node

def Element.markup (e : Element) : String :=
  e.node.markup

end MarkupAudit
