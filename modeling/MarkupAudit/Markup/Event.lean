import MarkupAudit.Number.Fault
import MarkupAudit.Text.Quoted

/-!
# Events

Scanning a markup text gives a list of events: text, the start and the end of elements, and asides
such as comments that are no content.
-/

namespace MarkupAudit.Markup

/-- What kind of aside a piece of markup is. None of them is content. -/
inductive Aside where
  | comment
  | cdata
  | doctype
  | instruction
  | declaration
  deriving DecidableEq, Repr

/-- What the scanner finds in a markup text. -/
inductive Event where
  /-- A piece of text; neighbouring pieces belong together. -/
  | text (content : String)
  /-- A start tag with its attributes as written; `empty` when it closes itself. -/
  | start (name : String) (attributes : List (String × String)) (empty : Bool)
  | finish (name : String)
  | aside (kind : Aside) (content : String)
  deriving DecidableEq, Repr

/-- Why a markup text cannot be scanned at all. -/
inductive Fault where
  /-- A marked section does not begin with a name; what stands there instead. -/
  | sectionWithoutName (found : String)
  | unknownSection (name : String)
  | numeral (cause : Number.Fault)
  deriving DecidableEq, Repr

def Fault.message : Fault → String
  | .sectionWithoutName found => "expected name token at " ++ Text.quoted found
  | .unknownSection name => "unknown status keyword " ++ Text.quoted name ++ " in marked section"
  | .numeral cause => cause.message

end MarkupAudit.Markup
