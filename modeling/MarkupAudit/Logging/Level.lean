import MarkupAudit.Fault
import MarkupAudit.Text.Case

/-!
# Levels

How grave a record is, as a number. Some levels have names, and two of these have two. The level 0
stands for a level that is not set.
-/

namespace MarkupAudit.Logging

/-- How grave a record is. -/
abbrev Level := Int

namespace Level

/-- The names of levels; the first name of a level is the one it is called by. -/
def names : List (String × Level) :=
  [("CRITICAL", 50), ("FATAL", 50), ("ERROR", 40), ("WARNING", 30), ("WARN", 30), ("INFO", 20),
    ("DEBUG", 10), ("NOTSET", 0)]

def unset : Level := 0

/-- The level of loggers whose level is unknown. -/
def info : Level := 20

def critical : Level := 50

/-- The level with a name, in whatever case this is given. -/
def ofName? (name : String) : Option Level :=
  names.lookup (Text.upper name)

def name (level : Level) : String :=
  match names.find? fun entry => entry.2 == level with
  | some entry => entry.1
  | none => "Level " ++ toString level

/-- A name that is taken by the layout of lines, so that it is the name of no level. -/
def layoutName : String := "BASIC_FORMAT"

def layout : String := "%(levelname)s:%(name)s:%(message)s"

/-- A name that is taken by the table of layouts, so that it is the name of no level. -/
def layoutsName : String := "_STYLES"

/-- The level that a value states; the given one if it is an unknown name. A name that is taken by
something else is a fault. -/
def ofValue (unknown : Level) : Value → Except Fault Level
  | .str name =>
    if Text.upper name = layoutName then .error (.unknownLevel layout)
    else if Text.upper name = layoutsName then .error (.notLevel .object)
    else .ok ((ofName? name).getD unknown)
  | .int level => .ok level
  | .bool b => .ok (if b then 1 else 0)
  | v => .error (.notLevel v.kind)

end Level

end MarkupAudit.Logging
