import MarkupAudit.Text.Blank
import MarkupAudit.Text.Case
import MarkupAudit.Text.Split

/-!
# Mail links

A mail link names one or more addresses with commas between them, up to a question mark behind which
the fields of the message follow.
-/

namespace MarkupAudit.Mailto

def scheme : String := "mailto:"

def hasScheme (href : String) : Bool :=
  Text.beginsWith scheme (Text.lower href)

/-- The characters between the scheme, if there is one, and the first question mark. -/
def addressChars (href : String) : List Char :=
  Chars.before '?' (if hasScheme href then href.toList.drop scheme.length else href.toList)

def addressPart (href : String) : String :=
  String.ofList (addressChars href)

/-- The addresses, without the blanks around them. -/
def addresses (href : String) : List String :=
  (Chars.splitOn ',' (addressChars href)).map fun cs => String.ofList (Chars.trim cs)

end MarkupAudit.Mailto
