import MarkupAudit.Data.Keyed
import MarkupAudit.Number.Integer
import MarkupAudit.Number.Shortest
import MarkupAudit.Text.Split

/-!
# Values

Settings and table cells hold values of several kinds. An object keeps its fields in the order in
which they were first set. A value can be written as a text unless it is an integer of too many
digits or holds one.
-/

namespace MarkupAudit

/-- A value of one of the kinds that settings and cells may hold. -/
inductive Value where
  | null
  | bool (b : Bool)
  | int (n : Int)
  | float (f : Float)
  | str (s : String)
  | list (items : List Value)
  | object (fields : List (String × Value))
  deriving Inhabited

namespace Value

/-- The kind of a value. -/
inductive Kind where
  | null
  | bool
  | int
  | float
  | str
  | list
  | object
  deriving DecidableEq, Repr

def kind : Value → Kind
  | .null => .null
  | .bool _ => .bool
  | .int _ => .int
  | .float _ => .float
  | .str _ => .str
  | .list _ => .list
  | .object _ => .object

def Kind.name : Kind → String
  | .null => "NoneType"
  | .bool => "bool"
  | .int => "int"
  | .float => "float"
  | .str => "str"
  | .list => "list"
  | .object => "dict"

def boolText (b : Bool) : String :=
  if b then "True" else "False"

mutual

/-- The value as it stands inside a list or an object: texts are quoted. -/
def shown : Value → Except Number.Fault String
  | .null => .ok "None"
  | .bool b => .ok (boolText b)
  | .int n => Number.writeInteger n
  | .float f => .ok (Number.floatingText f)
  | .str s => .ok (Text.quoted s)
  | .list items => do return "[" ++ Text.join ", " (← shownItems items) ++ "]"
  | .object fields => do return "\x7b" ++ Text.join ", " (← shownFields fields) ++ "\x7d"

def shownItems : List Value → Except Number.Fault (List String)
  | [] => .ok []
  | v :: rest => do return (← v.shown) :: (← shownItems rest)

def shownFields : List (String × Value) → Except Number.Fault (List String)
  | [] => .ok []
  | (name, v) :: rest => do
    return (Text.quoted name ++ ": " ++ (← v.shown)) :: (← shownFields rest)

end

/-- The value as a text: a text is itself. -/
def text : Value → Except Number.Fault String
  | .str s => .ok s
  | v => v.shown

/-- Everything counts as true but null, false, zero and what is empty. -/
def truthy : Value → Bool
  | .null => false
  | .bool b => b
  | .int n => n != 0
  | .float f => !(f == 0)
  | .str s => s != ""
  | .list items => !items.isEmpty
  | .object fields => !fields.isEmpty

def field? (name : String) (fields : List (String × Value)) : Option Value :=
  fields.lookup name

end Value

end MarkupAudit
