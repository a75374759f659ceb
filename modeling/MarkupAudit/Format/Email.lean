import MarkupAudit.Fault
import MarkupAudit.Text.Blank
import MarkupAudit.Text.Split

/-!
# E-mail addresses

An address has a local part, an `@` and a domain. The local part is made of atoms with dots between
them, the domain of labels with dots between them, the last of which is a top level name. One line
end is passed over behind the local part and behind every label.
-/

namespace MarkupAudit.Email

/-- Signs that an atom of the local part may have besides letters and digits. -/
def atomSigns : List Char := "!#$%&'*+/=?^_\x60\x7b|\x7d~-".toList

def isAtomChar (c : Char) : Bool :=
  c.isAlphanum || atomSigns.contains c

def isLabelChar (c : Char) : Bool :=
  c.isAlphanum || c = '-'

/-- The text without one line end behind it. -/
def withoutLineEnd (cs : List Char) : List Char :=
  if cs.getLast? = some '\n' then cs.dropLast else cs

def isAtom (cs : List Char) : Bool :=
  !cs.isEmpty && cs.all isAtomChar

def isLocalPart (cs : List Char) : Bool :=
  (Chars.splitOn '.' (withoutLineEnd cs)).all isAtom

/-- Letters, digits and hyphens, neither first nor last a hyphen, at most 63 characters. -/
def isLabel (cs : List Char) : Bool :=
  let body := withoutLineEnd cs
  (body.head?.map Char.isAlphanum).getD false && (body.getLast?.map Char.isAlphanum).getD false &&
    body.all isLabelChar && decide (body.length ≤ 63)

def encodedMark : List Char := "xn--".toList

def isTopLevelName (cs : List Char) : Bool :=
  let body := withoutLineEnd cs
  let rest := body.drop encodedMark.length
  (body.all Char.isAlpha && decide (2 ≤ body.length) && decide (body.length ≤ 63)) ||
    (encodedMark.isPrefixOf body && rest.all isLabelChar && !rest.isEmpty &&
      decide (rest.length ≤ 59))

/-- Two or more labels, the last of them a top level name. -/
def isDomain (cs : List Char) : Bool :=
  let labels := Chars.splitOn '.' cs
  decide (2 ≤ labels.length) && labels.all isLabel &&
    (labels.getLast?.map isTopLevelName).getD false

/-- What stands before and behind the one `@` of a text. -/
def halves (cs : List Char) : Except Fault (List Char × List Char) :=
  match Chars.splitOn '@' cs with
  | [localPart, domain] => .ok (localPart, domain)
  | _ :: _ :: _ => .error .tooManyParts
  | parts => .error (.tooFewParts parts.length)

def isAddress (cs : List Char) : Except Fault Bool :=
  if cs.isEmpty || decide (254 < cs.length) || cs.count '@' != 1 then .ok false
  else
    (halves cs).map fun (localPart, domain) =>
      !localPart.isEmpty && decide (localPart.length ≤ 64) && isLocalPart localPart &&
        isDomain domain

def isValid (s : String) : Except Fault Bool :=
  isAddress s.toList

end MarkupAudit.Email
