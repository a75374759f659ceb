import MarkupAudit.Text.Blank

/-!
# Identifiers in style sheets

A style sheet cannot name an identifier that begins with a digit, with two hyphens, or with a hyphen
and a digit, unless it is escaped.
-/

namespace MarkupAudit.Identifier

/-- The characters begin as no identifier does. Nothing at all is not looked at. -/
def beginsBadly : List Char → Bool
  | '-' :: c :: _ => c = '-' || c.isDigit
  | c :: _ => c.isDigit
  | [] => false

def isInvalid (token : String) : Bool :=
  beginsBadly token.toList

def invalidTokens (classes : String) : List String :=
  (Text.words classes).filter isInvalid

end MarkupAudit.Identifier
