import MarkupAudit.Settings.Readers
import MarkupAudit.Text.Fold
import MarkupAudit.Text.Table.WordCharacter

/-!
# Viewport declarations

A viewport declaration keeps users from zooming when it forbids scaling outright, when the greatest
scale that it allows is small, or when the least scale is large.
-/

namespace MarkupAudit.Viewport

def afterProperty (name : List Char) (cs : List Char) : Option (List Char) :=
  match Chars.dropWord name cs with
  | some rest =>
    match Chars.trimLeft rest with
    | '=' :: rest => some (Chars.trimLeft rest)
    | _ => none
  | none => none

def firstValue? (name : List Char) (readValue : List Char → Option (List Char)) :
    List Char → Option (List Char)
  | [] => none
  | c :: rest =>
    match (afterProperty name (c :: rest)).bind readValue with
    | some value => some value
    -- A property whose value is not accepted is passed over, and the next one may count.
    | none => firstValue? name readValue rest

def atWordEnd (cs : List Char) : Bool :=
  match cs with
  | [] => true
  | c :: _ => !Text.isWordCharacter c

def refusal? (cs : List Char) : Option (List Char) :=
  match Chars.dropWord ['n', 'o'] cs with
  | some rest => if atWordEnd rest then some (cs.take 2) else none
  | none =>
    match cs with
    | '0' :: rest => if atWordEnd rest then some ['0'] else none
    | _ => none

def scale? (cs : List Char) : Option (List Char) :=
  match cs.takeWhile fun c => c.isDigit || c = '.' with
  | [] => none
  | value => some value

def restriction (name : String) (value : List Char) : String :=
  name ++ "=" ++ String.ofList value

/-- How a scale stands to a bound. Nothing is said of the not-a-number value. -/
def compareScale (scale : Float) : Value → Except Fault (Option Ordering)
  | .int n => .ok (Number.compareFloatInt scale n)
  | .bool b => .ok (Number.compareFloatInt scale (if b then 1 else 0))
  | .float f =>
    .ok (if scale < f then some .lt else if scale == f then some .eq
      else if f < scale then some .gt else none)
  | v => .error (.notComparable .float v.kind)

/-- The restriction that a scale property makes, if its value stands to the bound in one of the
given ways. A value that is no number makes none. -/
def scaleRestriction (content : List Char) (name : String) (bound : Value)
    (restricting : List Ordering) : Except Fault (List String) :=
  match firstValue? name.toList scale? content with
  | none => .ok []
  | some value =>
    match Number.readFloating (String.ofList value) with
    | .error _ => .ok []
    | .ok scale =>
      (compareScale scale bound).map fun found =>
        match found with
        | some ordering => if restricting.contains ordering then [restriction name value] else []
        | none => []

/-- The restrictions that a declaration makes, given the scales from which on they count. -/
def restrictionsWithin (content : String) (leastMaximum greatestMinimum : Value) :
    Except Fault (List String) := do
  let cs := content.toList
  let forbidden := match firstValue? "user-scalable".toList refusal? cs with
    | some value => [restriction "user-scalable" value]
    | none => []
  let maximum ← scaleRestriction cs "maximum-scale" leastMaximum [.lt, .eq]
  let minimum ← scaleRestriction cs "minimum-scale" greatestMinimum [.gt, .eq]
  return forbidden ++ maximum ++ minimum

def restrictions (s : Settings) (content : String) : Except Fault (List String) := do
  let leastMaximum ← s.leastMaximumScale
  let greatestMinimum ← s.greatestMinimumScale
  restrictionsWithin content (.float leastMaximum) (.float greatestMinimum)

end MarkupAudit.Viewport
