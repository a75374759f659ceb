import MarkupAudit.Data.Keyed
import MarkupAudit.Logging.Level
import MarkupAudit.Settings.Basic
import MarkupAudit.Text.Split

/-!
# Logging

Loggers have dotted names. A logger without a level of its own takes that of the nearest one above
it that has one, and the root stands above them all. A record is written if it is at least as grave
as the level of its logger.
-/

namespace MarkupAudit

/-- The levels of loggers, and what writes their records. -/
structure Logging where
  root : Logging.Level
  levels : Keyed String Logging.Level
  handlers : List String

namespace Logging

def initial : Logging := ⟨30, .empty, []⟩

def handler : String := "LogWithTqdm"

def rootName : String := "root"

def isRoot (name : String) : Bool :=
  name == "" || name == rootName

/-! ## Names -/

/-- The beginnings of a list from the longest to the shortest, without the list itself and without
the empty one. -/
def properBeginnings {α : Type} : List α → List (List α)
  | [] => []
  | a :: rest => ((properBeginnings rest).map (a :: ·)) ++ (if rest.isEmpty then [] else [[a]])

/-- The names above a name, the nearest first. -/
def above (name : String) : List String :=
  (properBeginnings (Text.splitOn '.' name)).map (Text.join ".")

/-! ## Levels of loggers -/

/-- The level of a logger itself, 0 if it has none. -/
def own (log : Logging) (name : String) : Level :=
  if isRoot name then log.root else (log.levels.get? name).getD Level.unset

def setLevel? (log : Logging) (name : String) : Option Level :=
  match log.levels.get? name with
  | some level => if level = Level.unset then none else some level
  | none => none

/-- The level that counts for a logger. -/
def effective (log : Logging) (name : String) : Level :=
  if isRoot name then log.root
  else ((name :: above name).findSome? log.setLevel?).getD log.root

def setLevel (log : Logging) (name : String) (level : Level) : Logging :=
  if isRoot name then { log with root := level }
  else { log with levels := log.levels.set name level }

/-! ## Configuration -/

def setLevels (unknown : Level) (log : Logging) : Value → Except Fault Logging
  | .object fields =>
    fields.foldlM (fun log (name, v) => do
      return log.setLevel name (← Level.ofValue unknown v)) log
  | v => .error (.lacksOperation v.kind "items")

/-- What is asked for, or what the settings say if nothing is. -/
def orSetting (s : Settings) (asked : Value) (path : String) (default : Value) : Value :=
  match asked with
  | .null => s.get path default
  | asked => asked

/-- Configures logging: the level of the root, then the levels of single loggers, then those of the
loggers that are to be silenced. Earlier levels of other loggers stay. -/
def configure (s : Settings) (general modules silenced : Value) (log : Logging) :
    Except Fault Logging := do
  let root ← Level.ofValue Level.info (orSetting s general "logging.level" (.str "WARNING"))
  let log := { log with root, handlers := [handler] }
  let log ← log.setLevels Level.info (orSetting s modules "logging.module_levels" (.object []))
  log.setLevels Level.critical (orSetting s silenced "logging.silenced" (.object []))

/-! ## Records -/

/-- Something that a logger is told. -/
structure Record where
  logger : String
  level : Level
  line : Int
  message : String
  deriving DecidableEq, Repr

def Record.loggerName (record : Record) : String :=
  if isRoot record.logger then rootName else record.logger

def Record.text (record : Record) : String :=
  " - " ++ record.level.name ++ " - [" ++ record.loggerName ++ ":" ++ toString record.line ++
    "] - " ++ record.message ++ "\n"

/-- What is written for a record, if it is grave enough. -/
def write (log : Logging) (record : Record) : Option String :=
  if log.effective record.logger ≤ record.level ∧ log.handlers ≠ [] then some record.text else none

end Logging

end MarkupAudit
