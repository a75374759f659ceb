import MarkupAudit.Settings.Basic
import MarkupAudit.Settings.Convert

/-!
# Updating a setting

Setting a key path makes the objects that lead to it where they are missing. A path that leads
through something other than an object is refused. The new value takes the kind of the old one where
it can.

An update gives new settings or none. An attempt at one is the same update taken step by step, with
the settings that it leaves behind however it ends.
-/

namespace MarkupAudit

namespace Value

/-- The fields with the value at a list of keys replaced; nothing if the keys lead through something
other than an object. -/
def setAt (v : Value) : List String → List (String × Value) →
    Except Fault (Option (List (String × Value)))
  | [], fields => .ok (some fields)
  | [key], fields =>
    match v.convertLike (field? key fields) with
    | .ok stored => .ok (some (Entries.set key stored fields))
    | .error fault => .error fault
  | key :: next :: rest, fields =>
    match field? key fields with
    -- A missing object is made only together with all that is set inside it.
    | none =>
      match setAt v (next :: rest) [] with
      | .ok (some inner) => .ok (some (Entries.set key (.object inner) fields))
      | .ok none => .ok none
      | .error fault => .error fault
    | some (.object inner) =>
      match setAt v (next :: rest) inner with
      | .ok (some inner) => .ok (some (Entries.set key (.object inner) fields))
      | .ok none => .ok none
      | .error fault => .error fault
    -- A null is in the way here as well.
    | some _ => .ok none

/-- What an attempt to store a value at a list of keys leaves of the fields, and how it ends: the
value is stored, or it is refused, or it cannot be converted. An object that is missing is made as
soon as the keys lead to it, before it is known how the attempt ends. -/
def storeAt (v : Value) : List String → List (String × Value) →
    List (String × Value) × Except Fault Bool
  | [], fields => (fields, .ok true)
  | [key], fields =>
    match v.convertLike (field? key fields) with
    | .ok stored => (Entries.set key stored fields, .ok true)
    | .error fault => (fields, .error fault)
  | key :: next :: rest, fields =>
    let there := Entries.setDefault key (.object []) fields
    match field? key there with
    | some (.object inner) =>
      let (left, outcome) := storeAt v (next :: rest) inner
      (Entries.set key (.object left) there, outcome)
    | _ => (there, .ok false)

end Value

namespace Settings

/-- How an attempt to change a setting ends. -/
inductive Update where
  | changed (settings : Settings)
  /-- The path leads through something other than an object; nothing changes. -/
  | refused

def set (s : Settings) (path : String) (v : Value) : Except Fault Update :=
  match v.setAt (keys path) s.fields with
  | .ok (some fields) => .ok (.changed ⟨fields⟩)
  | .ok none => .ok .refused
  | .error fault => .error fault

/-- Attempts to change a setting: the settings that the attempt leaves, and whether the value is
stored. -/
def store (s : Settings) (path : String) (v : Value) : Settings × Except Fault Bool :=
  let (fields, outcome) := v.storeAt (keys path) s.fields
  (⟨fields⟩, outcome)

end Settings

end MarkupAudit
