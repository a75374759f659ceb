import MarkupAudit.Text.Blank

/-!
# Matching regardless of case

A word of lower case letters matches a text character by character. Besides its upper case, a few
letters are matched by a character that Unicode folds to them: the long s, the Kelvin sign, and the
dotted and dotless i.
-/

namespace MarkupAudit

namespace Text

def foldsTo (letter c : Char) : Bool :=
  c.toLower = letter || (letter = 's' && c = 'ſ') || (letter = 'k' && c = '\u212a') ||
    (letter = 'i' && (c = 'İ' || c = 'ı'))

end Text

namespace Chars

/-- What follows the word at the start of a text, if the text begins with it. -/
def dropWord : List Char → List Char → Option (List Char)
  | [], cs => some cs
  | _ :: _, [] => none
  | letter :: word, c :: cs => if Text.foldsTo letter c then dropWord word cs else none

end Chars

end MarkupAudit
