import MarkupAudit.Settings.Basic
import MarkupAudit.Settings.Convert

/-!
# Settings that the checks consult

Each reader gives a setting in the form in which it is used. A setting may hold anything, so most
readers can fail.
-/

namespace MarkupAudit.Settings

def phoneMinimum (s : Settings) : Except Fault Int :=
  (s.get "validators.phone_min_digits" (.int 7)).toInteger

def leastMaximumScale (s : Settings) : Except Fault Float :=
  (s.get "viewport.min_maximum_scale" (.int 2)).toFloating

def greatestMinimumScale (s : Settings) : Except Fault Float :=
  (s.get "viewport.max_minimum_scale" (.int 1)).toFloating

/-- A text in lower case; other values have none. -/
def loweredText : Value → Except Fault String
  | .str s => .ok (Text.lower s)
  | v => .error (.lacksOperation v.kind "lower")

def rightToLeft (s : Settings) : Except Fault (List String) := do
  let items ← Value.items (s.get "languages.rtl" (.list (rightToLeftCodes.map .str)))
  items.mapM loweredText

def parser (s : Settings) : Value :=
  s.get "parser.features" (.str "html.parser")

def parserOr (s : Settings) (asked : Value) : Value :=
  if asked.truthy then asked else s.parser

def workers (s : Settings) : Value :=
  s.get "audit.workers" (.int 4)

end MarkupAudit.Settings
