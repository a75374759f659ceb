import MarkupAudit.Text.Template.Layout

/-!
# Templates

A template is a text with fields in braces; a doubled brace stands for itself. A field names a value
and may step into it, convert it and lay it out. The layout of a field may hold fields of its own.

A template is read piece by piece while it is filled in, so a fault in a field is noticed before a
fault behind it.
-/

namespace MarkupAudit.Text

namespace Template

/-- The value of a field. -/
inductive FieldValue where
  | number (n : Int)
  | text (cs : List Char)
  deriving DecidableEq, Repr

/-- A field as it is written. -/
structure Field where
  name : List Char
  conversion : Option Char
  layout : List Char
  deriving DecidableEq, Repr

/-- A piece of a template. -/
inductive Piece where
  | literal (cs : List Char)
  | field (f : Field)
  deriving DecidableEq, Repr

/-! ## Reading -/

/-- The name of a field, what ends it, and what follows. Square brackets hide what is in them. -/
def readName (bracketed : Bool) : List Char → Except Fault (List Char × Char × List Char)
  | [] => .error .unclosedField
  | c :: rest =>
    if bracketed then
      (readName (c != ']') rest).map fun (name, ending, after) => (c :: name, ending, after)
    else if c = '\x7b' then .error .braceInName
    else if c = '\x7d' || c = ':' || c = '!' then .ok ([], c, rest)
    else (readName (c = '[') rest).map fun (name, ending, after) => (c :: name, ending, after)

def readFieldLayout (opened : Nat) : List Char → Except Fault (List Char × List Char)
  | [] => .error .unclosedLayout
  | c :: rest =>
    if c = '\x7d' then
      match opened with
      | 0 => .ok ([], rest)
      | opened + 1 => (readFieldLayout opened rest).map fun (cs, after) => (c :: cs, after)
    else
      (readFieldLayout (if c = '\x7b' then opened + 1 else opened) rest).map
        fun (cs, after) => (c :: cs, after)

def readField (cs : List Char) : Except Fault (Field × List Char) := do
  let (name, ending, rest) ← readName false cs
  if ending = '\x7d' then return (⟨name, none, []⟩, rest)
  else if ending = ':' then
    let (layout, rest) ← readFieldLayout 0 rest
    return (⟨name, none, layout⟩, rest)
  else
    match rest with
    | [] => .error .missingConversion
    | [_] => .error .unclosedLayout
    | mark :: c :: rest =>
      if c = '\x7d' then return (⟨name, some mark, []⟩, rest)
      else if c = ':' then
        let (layout, rest) ← readFieldLayout 0 rest
        return (⟨name, some mark, layout⟩, rest)
      else .error .strayAfterConversion

/-- The pieces of a template up to its end or to a fault. The greatest number of steps is given;
the length of the template is always enough. -/
def pieces : Nat → List Char → List Piece × Option Fault
  | 0, _ => ([], none)
  | _ + 1, [] => ([], none)
  | steps + 1, c :: rest =>
    let add := fun (piece : Piece) (rest : List Char) =>
      let (others, fault) := pieces steps rest
      (piece :: others, fault)
    if c = '\x7b' then
      match rest with
      | [] => ([], some (.loneBrace c))
      | d :: more =>
        if d = c then add (.literal [c]) more
        else match readField rest with
          | .ok (f, rest) => add (.field f) rest
          | .error fault => ([], some fault)
    else if c = '\x7d' then
      match rest with
      | [] => ([], some (.loneBrace c))
      | d :: more => if d = c then add (.literal [c]) more else ([], some (.loneBrace c))
    else add (.literal [c]) rest

/-! ## Filling in -/

/-- The values of the fields by name. -/
abbrev Values := List (String × FieldValue)

/-- The number that the whole text writes, if it is one. -/
def wholeNumber (cs : List Char) : Except Fault (Option Nat) :=
  if cs.isEmpty then .ok none
  else (readNumber 0 cs).map fun (n, _, rest) => if rest.isEmpty then some n else none

def part (name : List Char) : FieldValue → Except Fault FieldValue
  | .number n =>
    match String.ofList name with
    | "real" => .ok (.number n)
    | "numerator" => .ok (.number n)
    | "imag" => .ok (.number 0)
    | "denominator" => .ok (.number 1)
    | name => .error (.unknownPart .number name)
  | .text _ => .error (.unknownPart .text (String.ofList name))

def character (index : Option Nat) : FieldValue → Except Fault FieldValue
  | .number _ => .error .notIndexed
  | .text cs =>
    match index with
    | none => .error .indexNotNumber
    | some n =>
      match cs[n]? with
      | some c => .ok (.text [c])
      | none => .error .indexTooLarge

def beginsStep (c : Char) : Bool :=
  c = '.' || c = '['

/-- The value after the steps into it. The greatest number of steps is given. -/
def follow : Nat → List Char → FieldValue → Except Fault FieldValue
  | 0, _, v => .ok v
  | _ + 1, [], v => .ok v
  | steps + 1, c :: rest, v =>
    if c = '.' then
      let name := rest.takeWhile fun d => !beginsStep d
      if name.isEmpty then .error .emptyStep
      else (part name v).bind (follow steps (rest.drop name.length))
    else if c = '[' then
      let name := rest.takeWhile (· != ']')
      if name.length = rest.length then .error .unclosedStep
      else do
        let index ← wholeNumber name
        if name.isEmpty then .error .emptyStep
        else (character index v).bind (follow steps (rest.drop (name.length + 1)))
    else .error .strayAfterStep

def lookUp (values : Values) (name : List Char) : Except Fault FieldValue := do
  let first := name.takeWhile fun c => !beginsStep c
  let number ← wholeNumber first
  if first.isEmpty || number.isSome then .error .numberedField
  else
    match values.lookup (String.ofList first) with
    | none => .error (.unknownField (String.ofList first))
    | some v => follow name.length (name.drop first.length) v

def plainQuoted (s : String) : List Char :=
  (quoted s).toList.flatMap fun c =>
    if c.toNat < 0x80 then [c]
    else if c.toNat < 0x100 then '\\' :: 'x' :: hexDigits 2 c.toNat
    else if c.toNat < 0x10000 then '\\' :: 'u' :: hexDigits 4 c.toNat
    else '\\' :: 'U' :: hexDigits 8 c.toNat

def convert (mark : Char) (v : FieldValue) : Except Fault FieldValue :=
  let wrap := fun (quote : String → List Char) => match v with
    | .number n => FieldValue.text (toString n).toList
    | .text cs => .text (quote (String.ofList cs))
  if mark = 's' then .ok (wrap String.toList)
  else if mark = 'r' then .ok (wrap fun s => (quoted s).toList)
  else if mark = 'a' then .ok (wrap plainQuoted)
  else .error (.unknownConversion mark)

def lay (layout : List Char) : FieldValue → Except Fault (List Char)
  | .number n =>
    if layout.isEmpty then .ok (toString n).toList
    else do layInteger (← readLayout .number '>' 'd' layout) n
  | .text cs =>
    if layout.isEmpty then .ok cs
    else do layText (← readLayout .text '<' 's' layout) cs

/-- A field filled in; `expand` fills in the layout. -/
def fillField (values : Values) (expand : List Char → Except Fault (List Char)) (f : Field) :
    Except Fault (List Char) := do
  let v ← lookUp values f.name
  let v ← match f.conversion with
    | some mark => convert mark v
    | none => pure v
  -- Only a layout that has fields of its own is filled in.
  let layout ← if f.layout.contains '\x7b' then expand f.layout else pure f.layout
  lay layout v

/-- Pieces filled in one after another. -/
def fillPieces (values : Values) (expand : List Char → Except Fault (List Char)) :
    List Piece → Except Fault (List Char)
  | [] => .ok []
  | .literal cs :: rest => (fillPieces values expand rest).map (cs ++ ·)
  | .field f :: rest => do
    let cs ← fillField values expand f
    let others ← fillPieces values expand rest
    return cs ++ others

/-- A template filled in, with layouts that hold fields nested so deep at most. -/
def fill (values : Values) : Nat → List Char → Except Fault (List Char)
  | 0, _ => .error .nestedTooDeep
  | depth + 1, cs => do
    let (found, fault) := pieces cs.length cs
    let filled ← fillPieces values (fill values depth) found
    -- A fault further on counts only when everything before it could be filled in.
    match fault with
    | some fault => .error fault
    | none => return filled

/-- How deep fields may be nested in layouts. -/
def nesting : Nat := 2

end Template

def fillTemplate (values : Template.Values) (template : String) : Except Template.Fault String :=
  (Template.fill values Template.nesting template.toList).map String.ofList

end MarkupAudit.Text
