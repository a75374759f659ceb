import MarkupAudit.Markup.Reference
import MarkupAudit.Text.Case

/-!
# Tags

Recognising a start tag at the start of a text. Every recogniser says how many characters it takes,
and takes as many as it can.

An attribute may begin only behind a blank, a slash or a quote, so the recognisers are told which
character stands before the text they look at.
-/

namespace MarkupAudit.Markup.Tag

open Text (isBlank)

def endsName (c : Char) : Bool :=
  c = '\t' || c = '\n' || c = '\r' || c = '\x0c' || c = ' ' || c = '/' || c = '>' || c = '\x00'

def name (cs : List Char) : List Char :=
  cs.takeWhile fun c => !endsName c

/-- How many blanks and slashes the text begins with, except a slash that stands before the closing
bracket. -/
def gap : List Char → Nat
  | [] => 0
  | c :: rest =>
    if isBlank c || (c = '/' && rest.head? != some '>') then gap rest + 1 else 0

/-- The characters of an attribute value without quotes. -/
def bareValue (cs : List Char) : List Char :=
  cs.takeWhile fun c => !(c = '>' || isBlank c)

/-- The value that follows the name of an attribute, if one does, and how many characters it takes
with the equals signs and the blanks around them. Without a closing quote the value is empty when a
blank stands before the opening quote, and else begins with the last of several equals signs. -/
def value? (cs : List Char) : Option (List Char × Nat) :=
  let blanks := (cs.takeWhile isBlank).length
  let afterBlanks := cs.drop blanks
  let signs := (afterBlanks.takeWhile (· == '=')).length
  let afterSigns := afterBlanks.drop signs
  let spaces := (afterSigns.takeWhile isBlank).length
  let body := afterSigns.drop spaces
  let before := blanks + signs + spaces
  if signs = 0 then none
  else match body with
    | [] => some ([], before)
    | c :: rest =>
      if c = '\'' || c = '"' then
        if rest.contains c then
          let quotedValue := rest.takeWhile (· != c)
          some (quotedValue, before + quotedValue.length + 2)
        -- No closing quote. Giving up a blank or a sign leaves a shorter reading that still fits.
        else if spaces ≠ 0 then some ([], before - 1)
        else if signs ≠ 1 then
          let bare := '=' :: bareValue body
          some (bare, before - 1 + bare.length)
        else none
      else
        let bare := bareValue body
        some (bare, before + bare.length)

/-- An attribute may begin behind this character. -/
def allowsAttribute (c : Char) : Bool :=
  c = '\'' || c = '"' || c = '/' || isBlank c

/-- An attribute as it is written: its name in lower case, and its value with references in it. -/
abbrev Written := String × List Char

/-- An attribute that begins with the character `c`, and how many characters it takes behind `c`
with the gap that follows it. -/
def attribute? (before c : Char) (rest : List Char) : Option (Written × Nat) :=
  if allowsAttribute before && !(isBlank c || c = '/' || c = '>') then
    let more := rest.takeWhile fun d => !(isBlank d || d = '/' || d = '=' || d = '>')
    let afterName := rest.drop more.length
    let (value, length) := (value? afterName).getD ([], 0)
    let ending := gap (afterName.drop length)
    some ((Text.lower (String.ofList (c :: more)), value), more.length + length + ending)
  else none

def attributes (before : Char) (cs : List Char) : List Written × Nat :=
  match cs with
  | [] => ([], 0)
  | c :: rest =>
    match attribute? before c rest with
    | none => ([], 0)
    | some (found, length) =>
      -- The character before the next attribute decides whether one may begin there.
      let last := (rest.take length).getLast?.getD c
      let (others, total) := attributes last (rest.drop length)
      (found :: others, total + length + 1)
termination_by cs.length
decreasing_by simp only [List.length_cons, List.length_drop]; omega

def decoded (written : List Written) : Except Number.Fault (List (String × String)) :=
  written.mapM fun (name, value) => (Reference.decodeValue value).map fun text => (name, text)

/-- What stands at the start of a text that looks like a start tag. -/
inductive Recognised where
  /-- A tag that takes so many characters; `empty` when it closes itself. -/
  | tag (name : String) (attributes : List (String × String)) (empty : Bool) (length : Nat)
  /-- So many characters that break off at a character no tag may have there. -/
  | broken (length : Nat)
  | unfinished
  | undecodable (cause : Number.Fault)
  deriving DecidableEq, Repr

/-- What stands behind the attributes does not end the tag, but could still belong to it. -/
def mayGoOn : List Char → Bool
  | [] => true
  | '/' :: '>' :: _ => false
  | c :: _ => c.isAlpha || c = '=' || c = '/'

def recognise (cs : List Char) : Recognised :=
  let tagName := name cs
  let opening := tagName.length + gap (cs.drop tagName.length)
  let last := (cs.take opening).getLast?.getD '<'
  let (found, total) := attributes last (cs.drop opening)
  let length := opening + total
  let ending := cs.drop length
  if mayGoOn ending then .unfinished
  else
    -- The attributes of what turns out to be no tag are decoded too.
    match decoded found, ending with
    | .error cause, _ => .undecodable cause
    | .ok kept, '>' :: _ => .tag (Text.lower (String.ofList tagName)) kept false (length + 1)
    | .ok kept, '/' :: '>' :: _ => .tag (Text.lower (String.ofList tagName)) kept true (length + 2)
    | .ok _, _ => .broken length

end MarkupAudit.Markup.Tag
