import HourlyUsage.Json.Printer
/-!
# Log entries

What the program tells its operator: a level, a message, and fields for machines to read. A field
named `extra` holds what one event adds of its own.

Sources: the calls of the logger, in whatever function they stand. The time and the place of an
entry are left out.
-/
namespace HourlyUsage.Log

inductive Level where
  | trace
  | debug
  | info
  | success
  | warning
  | error
  | critical
  deriving DecidableEq

namespace Level

def all : List Level := [trace, debug, info, success, warning, error, critical]

/-- The rank that levels are compared by. -/
def severity : Level → Nat
  | trace => 5
  | debug => 10
  | info => 20
  | success => 25
  | warning => 30
  | error => 40
  | critical => 50

def name (level : Level) : Text :=
  text <| match level with
    | trace => "TRACE"
    | debug => "DEBUG"
    | info => "INFO"
    | success => "SUCCESS"
    | warning => "WARNING"
    | error => "ERROR"
    | critical => "CRITICAL"

/-- The level with exactly this name. -/
def ofName? (t : Text) : Option Level := all.find? fun level => level.name = t

end Level

structure Entry where
  level : Level
  message : Text
  fields : List (Text × Json) := []

namespace Entry

/-- The name of the field that holds what an event adds. -/
def extraName : Text := text "extra"

/-- An entry for an event that adds some values of its own. -/
def event (level : Level) (message : Text) (extra : List (Text × Json)) : Entry :=
  ⟨level, message, [(extraName, .obj extra)]⟩

def info (message : Text) : Entry := ⟨.info, message, []⟩

def warning (message : Text) : Entry := ⟨.warning, message, []⟩

def error (message : Text) : Entry := ⟨.error, message, []⟩

def debug (message : Text) : Entry := ⟨.debug, message, []⟩

/-- What the event added of its own. -/
def extra? (e : Entry) : Option Json := Assoc.get? extraName e.fields

end Entry

end HourlyUsage.Log
