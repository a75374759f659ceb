import MarkupAudit.Settings.Basic

/-!
# Overlaying settings

A user's file of settings is laid over the packaged ones: where both have an object, the objects are
merged field by field, and everywhere else the user's value holds.
-/

namespace MarkupAudit

namespace Value

mutual

def mergeFields (base : List (String × Value)) : List (String × Value) → List (String × Value)
  | [] => base
  | (key, v) :: rest => mergeFields (Entries.set key (v.mergeOver (field? key base)) base) rest

/-- A value laid over another one: an object is merged into an object. -/
def mergeOver (old : Option Value) : Value → Value
  | .object fields =>
    match old with
    | some (.object base) => .object (mergeFields base fields)
    | _ => .object fields
  | v => v

end

end Value

namespace Settings

/-- Where a user's settings come from. -/
inductive UserFile where
  /-- There is none, or it cannot be read. -/
  | absent
  | holding (bytes : ByteArray)

/-- The value that a file holds. One that breaks the rules of the notation counts as absent. -/
def UserFile.read : UserFile → Except Fault (Option Value)
  | .absent => .ok none
  | .holding bytes =>
    match String.fromUTF8? bytes with
    | none => .error .notUnicode
    | some text =>
      match Json.read text with
      | .ok v => .ok (some v)
      | .error .malformed => .ok none
      | .error (.numeral cause) => .error (.number cause)

/-- The settings with a value laid over them. What counts as false changes nothing, and anything
else has to be an object. -/
def overlay (s : Settings) (v : Value) : Except Fault Settings :=
  if !v.truthy then .ok s
  else match v with
    | .object fields => .ok ⟨Value.mergeFields s.fields fields⟩
    | v => .error (.lacksOperation v.kind "items")

/-- The settings that hold after the start: the packaged ones with the user's laid over them. When
the user's settings are at fault, the packaged ones hold. -/
def load (file : UserFile) : Settings × Option Fault :=
  match file.read with
  | .error fault => (packaged, some fault)
  | .ok none => (packaged, none)
  | .ok (some v) =>
    match packaged.overlay v with
    | .ok s => (s, none)
    | .error fault => (packaged, some fault)

end Settings

end MarkupAudit
