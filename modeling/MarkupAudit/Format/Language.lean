import MarkupAudit.Settings.Readers

/-!
# Language tags

The first part of a language tag says whether the language is written from right to left.
-/

namespace MarkupAudit.Language

def primary (tag : String) : String :=
  let cs := (Text.lower (Text.trim tag)).toList
  String.ofList (cs.takeWhile fun c => !(c = '-' || c = '_'))

def isAmong (codes : List String) (tag : String) : Bool :=
  codes.contains (primary tag)

/-- The language is written from right to left, as the settings say. Without a language the answer
is no. -/
def isRightToLeft (s : Settings) : Option String → Except Fault Bool
  | none => .ok false
  | some tag =>
    if Text.isBlankText tag then .ok false
    else (s.rightToLeft).map fun codes => isAmong codes tag

end MarkupAudit.Language
