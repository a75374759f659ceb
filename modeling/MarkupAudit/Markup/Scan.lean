import MarkupAudit.Markup.Event
import MarkupAudit.Markup.Tag
import MarkupAudit.Text.Fold

/-!
# Scanning a markup text

The scanner walks over a text once and stops where something is unfinished; a second, final walk
over what is left makes the best of it. Each step looks at the text that is left and says which
events it gives and how many characters it takes, at least one.
-/

namespace MarkupAudit.Markup.Scan

open Text (isBlank)

/-- What the scanner does at a place. -/
inductive Step where
  /-- Gives events and goes on behind the first character and `more` others; `raw` names the
  element whose content is taken as it is from there on. -/
  | advance (events : List Event) (raw : Option String) (more : Nat)
  /-- Gives events and stops behind `taken` characters. -/
  | stop (events : List Event) (taken : Nat)
  | reject (fault : Fault)
  deriving DecidableEq, Repr

def textEvent (cs : List Char) : Event :=
  .text (String.ofList cs)

/-- How many characters stand before the first one of a kind, if there is one. -/
def distance? (c : Char) (cs : List Char) : Option Nat :=
  if cs.contains c then some (cs.takeWhile (· != c)).length else none

def rawNames : List String := ["script", "style"]

def beginsRawEnd (name : String) : List Char → Bool
  | '<' :: '/' :: rest =>
    match Chars.dropWord name.toList (rest.dropWhile isBlank) with
    | some after => (after.dropWhile isBlank).head? == some '>'
    | none => false
  | _ => false

/-- How many characters stand before the end tag of the named element, if there is one. -/
def rawDistance? (name : String) : List Char → Option Nat
  | [] => none
  | c :: rest =>
    if beginsRawEnd name (c :: rest) then some 0 else (rawDistance? name rest).map (· + 1)

/-- What to do with something unfinished behind the character `c`: wait for more text, or, in the
final walk, take it as text up to the next closing bracket, else up to the next opening one, else
just `c`. -/
def unfinished (final : Bool) (raw : Option String) (c : Char) (rest : List Char) : Step :=
  if final then
    match distance? '>' rest with
    | some n => .advance [textEvent (c :: rest.take (n + 1))] raw (n + 1)
    | none =>
      match distance? '<' rest with
      | some n => .advance [textEvent (c :: rest.take n)] raw n
      | none => .advance [textEvent [c]] raw 0
  else .stop [] 0

/-- An aside that ends at the first closing bracket of the text behind `opening` characters. -/
def bracketedAside (final : Bool) (kind : Aside) (opening : Nat) (rest : List Char) : Step :=
  match distance? '>' (rest.drop opening) with
  | some n =>
    .advance [.aside kind (String.ofList ((rest.drop opening).take n))] none (opening + n + 1)
  | none => unfinished final none '<' rest

def startTag (final : Bool) (rest : List Char) : Step :=
  match Tag.recognise rest with
  | .tag name attributes empty length =>
    let raw := if !empty && rawNames.contains name then some name else none
    .advance [.start name attributes empty] raw length
  | .broken length => .advance [textEvent ('<' :: rest.take length)] none length
  | .unfinished => unfinished final none '<' rest
  | .undecodable cause => .reject (.numeral cause)

/-- A character that the name of a plain end tag may have behind its first letter. -/
def isEndNameChar (c : Char) : Bool :=
  c.isAlphanum || c = '-' || c = '.' || c = ':' || c = '_'

/-- The name of a plain end tag: nothing but the name and blanks up to the closing bracket. -/
def plainEndName? (body : List Char) : Option String :=
  let start := body.dropWhile isBlank
  match start with
  | [] => none
  | c :: more =>
    if c.isAlpha then
      let name := c :: more.takeWhile isEndNameChar
      if ((start.drop name.length).dropWhile isBlank).head? == some '>' then
        some (Text.lower (String.ofList name))
      else none
    else none

/-- An end tag; `body` is the text behind the slash. -/
def endTag (final : Bool) (raw : Option String) (body : List Char) : Step :=
  match distance? '>' body with
  | none => unfinished final raw '<' ('/' :: body)
  | some n =>
    -- What an end tag counts as inside content that it does not end.
    let written := textEvent ('<' :: '/' :: body.take (n + 1))
    match plainEndName? body, raw with
    | some name, some expected =>
      if name = expected then .advance [.finish name] none (n + 2)
      else .advance [written] raw (n + 2)
    | some name, none => .advance [.finish name] none (n + 2)
    | none, some _ => .advance [written] raw (n + 2)
    | none, none =>
      -- More than blanks stands behind the name, and all of it is passed over.
      if (body.head?.map Char.isAlpha).getD false then
        let name := Tag.name body
        let opening := name.length + Tag.gap (body.drop name.length)
        let ending := (distance? '>' (body.drop opening)).getD 0
        .advance [.finish (Text.lower (String.ofList name))] none (opening + ending + 2)
      -- A closing bracket right behind the slash: nothing is left of the tag.
      else if n = 0 then .advance [] none 2
      else .advance [.aside .comment (String.ofList (body.take n))] none (n + 2)

/-- The content of a comment and how many characters it takes with its end: two dashes, blanks and
the closing bracket. -/
def comment? : List Char → Option (List Char × Nat)
  | [] => none
  | c :: rest =>
    if c = '-' && rest.head? == some '-' &&
        ((rest.drop 1).dropWhile isBlank).head? == some '>' then
      some ([], 3 + ((rest.drop 1).takeWhile isBlank).length)
    else (comment? rest).map fun (content, length) => (c :: content, length + 1)

def spacedEnd? : List Char → List Char → Option Nat
  | [], _ => some 0
  | sign :: signs, cs =>
    let blanks := (cs.takeWhile isBlank).length
    match cs.drop blanks with
    | [] => none
    | c :: rest => if c = sign then (spacedEnd? signs rest).map (· + blanks + 1) else none

/-- The content of a marked section and how many characters it takes with its end: a closing square
bracket and then the given signs. -/
def section? (signs : List Char) : List Char → Option (List Char × Nat)
  | [] => none
  | c :: rest =>
    match if c = ']' then spacedEnd? signs rest else none with
    | some length => some ([], length + 1)
    | none => (section? signs rest).map fun (content, length) => (c :: content, length + 1)

def standardSections : List String := ["temp", "cdata", "ignore", "include", "rcdata"]

def conditionalSections : List String := ["if", "else", "endif"]

def shownSection : Nat := 20

def sectionAside (content : List Char) : Event :=
  match Chars.dropWord "cdata[".toList content with
  | some inner => .aside .cdata (String.ofList inner)
  | none => .aside .declaration (String.ofList content)

/-- A marked section; `body` is the text behind its square bracket. -/
def markedSection (final : Bool) (body : List Char) : Step :=
  let waiting := unfinished final none '<' ('!' :: '[' :: body)
  match body with
  | [] => waiting
  | c :: more =>
    if c.isAlpha then
      let name := c :: more.takeWhile fun d => d.isAlphanum || d = '-' || d = '_' || d = '.'
      let blanks := ((body.drop name.length).takeWhile isBlank).length
      -- The keyword may go on where the text ends.
      if name.length + blanks = body.length then waiting
      else
        let keyword := Text.lower (String.ofList name)
        let signs? :=
          if standardSections.contains keyword then some [']', '>']
          else if conditionalSections.contains keyword then some ['>']
          else none
        match signs? with
        | none => .reject (.unknownSection (String.ofList (body.take (name.length + blanks))))
        | some signs =>
          match section? signs body with
          | some (content, length) => .advance [sectionAside content] none (length + 2)
          | none => waiting
    else
      .reject (.sectionWithoutName (String.ofList (('<' :: '!' :: '[' :: body).take shownSection)))

/-- A declaration or a comment; `body` is the text behind the exclamation mark. -/
def declaration (final : Bool) (body : List Char) : Step :=
  match body with
  | '-' :: '-' :: rest =>
    match comment? rest with
    | some (content, length) =>
      .advance [.aside .comment (String.ofList content)] none (length + 3)
    | none => unfinished final none '<' ('!' :: body)
  | '[' :: rest => markedSection final rest
  | _ =>
    if "doctype".toList.isPrefixOf (body.map Char.toLower) then
      bracketedAside final .doctype 8 ('!' :: body)
    else bracketedAside final .comment 1 ('!' :: body)

def bracketStep (final : Bool) (raw : Option String) (rest : List Char) : Step :=
  match rest with
  | [] => .stop [] 0
  | '/' :: body => endTag final raw body
  | '!' :: body => declaration final body
  | '?' :: _ => bracketedAside final .instruction 1 rest
  | c :: _ => if c.isAlpha then startTag final rest else .advance [.text "<"] raw 0

/-- A numbered reference behind an ampersand and a number sign: its character, if its number can be
read, and how many characters it takes with a closing semicolon. It counts only when something
follows that is no hexadecimal digit. -/
def numberedReference? (body : List Char) : Option (Except Number.Fault Char × Nat) :=
  let isHex := fun c => (Json.hexValue? c).isSome
  let decimal := body.takeWhile Char.isDigit
  let (number, digits) : Except Number.Fault Nat × Nat :=
    if decimal.isEmpty then
      match body with
      | mark :: more =>
        let hex := more.takeWhile isHex
        if (mark = 'x' || mark = 'X') && !hex.isEmpty then
          (.ok (Reference.hexNumber hex), hex.length + 1)
        else (.ok 0, 0)
      | [] => (.ok 0, 0)
    else (Reference.decimalNumber decimal, decimal.length)
  if digits = 0 then none
  else match body.drop digits with
    | [] => none
    | c :: _ =>
      if isHex c then none
      else some (number.map Reference.charInText, digits + (if c = ';' then 1 else 0))

/-- The part of a name in front of its last character that is neither letter nor digit. -/
def nameBeforeSign (name : List Char) : Option (List Char) :=
  match name.reverse.dropWhile Char.isAlphanum with
  | [] => none
  | _ :: before => some before.reverse

/-- A named reference behind an ampersand: its name and how many characters it takes with a closing
semicolon. It counts only when something follows that is neither letter nor digit, so at the end of
the text a name ends at its last sign. -/
def namedReference? (body : List Char) : Option (String × Nat) :=
  match body with
  | [] => none
  | c :: more =>
    if c.isAlpha then
      let tail := more.takeWhile fun d => d.isAlphanum || d = '-' || d = '.'
      match more.drop tail.length with
      | d :: _ =>
        some (String.ofList (c :: tail), tail.length + 1 + (if d = ';' then 1 else 0))
      | [] =>
        (nameBeforeSign tail).map fun short => (String.ofList (c :: short), short.length + 1)
    else none

def ampersandStep (final : Bool) (raw : Option String) (rest : List Char) : Step :=
  match rest with
  | '#' :: body =>
    match numberedReference? body with
    | some (.ok c, length) => .advance [textEvent [c]] raw (length + 1)
    | some (.error cause, _) => .reject (.numeral cause)
    -- No number: this walk is over, and only a semicolon further on saves the two characters.
    | none => if rest.contains ';' then .stop [.text "&#"] 2 else .stop [] 0
  | _ =>
    match namedReference? rest with
    | some (name, length) => .advance [.text (Reference.inText name)] raw length
    | none =>
      match rest with
      | [] => .stop [] 0
      | [c] =>
        -- In front of a single letter at the very end, the final walk loses the ampersand.
        if c.isAlpha then .stop [] (if final then 1 else 0) else .advance [.text "&"] raw 0
      | c :: _ => if c.isAlpha then .stop [] 0 else .advance [.text "&"] raw 0

/-- What to do at the character `c`, the text behind it given. -/
def step (final : Bool) (raw : Option String) (c : Char) (rest : List Char) : Step :=
  match raw with
  | some name =>
    match rawDistance? name (c :: rest) with
    | none => .stop [] 0
    | some 0 => bracketStep final raw rest
    | some (n + 1) => .advance [textEvent (c :: rest.take n)] raw n
  | none =>
    if c = '<' then bracketStep final raw rest
    else if c = '&' then ampersandStep final raw rest
    else
      let plain := rest.takeWhile fun d => !(d = '<' || d = '&')
      .advance [textEvent (c :: plain)] raw plain.length

/-- What a walk has found when it stops. -/
structure Outcome where
  events : List Event
  raw : Option String
  rest : List Char

def walk (final : Bool) (raw : Option String) (cs : List Char) : Except Fault Outcome :=
  match cs with
  | [] => .ok ⟨[], raw, []⟩
  | c :: rest =>
    match step final raw c rest with
    | .reject fault => .error fault
    | .stop events taken => .ok ⟨events, raw, (c :: rest).drop taken⟩
    | .advance events raw more =>
      (walk final raw (rest.drop more)).map fun outcome =>
        { outcome with events := events ++ outcome.events }
termination_by cs.length
decreasing_by simp only [List.length_cons, List.length_drop]; omega

/-- The text that the final walk leaves is text, unless it is the unfinished content of an element
that is taken as it is. -/
def leftover (outcome : Outcome) : List Event :=
  if outcome.rest.isEmpty || outcome.raw.isSome then [] else [textEvent outcome.rest]

def events (markup : List Char) : Except Fault (List Event) := do
  let first ← walk false none markup
  let last ← walk true first.raw first.rest
  return first.events ++ last.events ++ leftover last

end MarkupAudit.Markup.Scan
