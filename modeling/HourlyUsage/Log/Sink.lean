import HourlyUsage.Json.Printer
import HourlyUsage.Log.Basic
import HourlyUsage.Text.Lowercase
import HourlyUsage.Text.Uppercase
/-!
# Where log entries go

A sink lets entries of its level and above through and writes them either as JSON values or as
lines of text. Setting one up is itself logged, at level `debug`.

Sources: `setup_logging`, `_text_formatter`.
-/
namespace HourlyUsage.Log

/-- How entries are written. -/
inductive Format where
  | text
  | json
  deriving DecidableEq

structure Sink where
  level : Level
  format : Format
  deriving DecidableEq

/-- The level and the format that hold where none are asked for. -/
structure Defaults where
  level : Text
  format : Text
  deriving DecidableEq

structure UnknownLevel where
  name : Text
  deriving DecidableEq

def UnknownLevel.message (e : UnknownLevel) : Text :=
  Text.concat [text "Level '", e.name, text "' does not exist"]

def orDefault (asked? : Option Text) (default : Text) : Text :=
  match asked? with
  | none | some [] => default
  | some t => t

namespace Sink

/-- Sets a sink up, and says so. Level names are looked up in upper case; every format but `text` is
taken for JSON (`setup_logging`). -/
def configure (defaults : Defaults) (level? format? : Option Text) :
    Except UnknownLevel (Sink × Entry) :=
  let level := (orDefault level? defaults.level).toUpper
  let format := (orDefault format? defaults.format).toLower
  match Level.ofName? level with
  | none => .error ⟨level⟩
  | some found =>
    .ok (⟨found, if format = text "text" then .text else .json⟩,
      .debug (Text.concat [text "Logging configured (level=", level, text ", format=", format,
        text ")"]))

/-- Whether an entry passes the sink's level. -/
def accepts (sink : Sink) (e : Entry) : Bool := sink.level.severity ≤ e.level.severity

end Sink

/-! ## Lines of text -/

/-- The layout of a line of text, in which the fields have a place only if there are some
(`_text_formatter`). -/
def layout (fields : List (Text × Json)) : Text :=
  let place (name : String) : Text := Text.concat [text "\x7b", text name, text "\x7d"]
  let marked (mark : String) (t : Text) : Text :=
    Text.concat [text "<", text mark, text ">", t, text "</", text mark, text ">"]
  let bar := text " | "
  Text.concat [marked "green" (place "time:YYYY-MM-DD HH:mm:ss"), bar,
    marked "level" (place "level: <8"), bar,
    Text.join (text ":") [marked "cyan" (place "name"), marked "cyan" (place "function"),
      marked "cyan" (place "line")], bar,
    marked "level" (place "message"),
    if fields.isEmpty then [] else bar ++ place "extra",
    text "\n", place "exception"]

namespace Entry

/-- What a line of text shows of an entry, time, level and place apart. -/
def shown (e : Entry) : Text :=
  if e.fields.isEmpty then e.message
  else Text.concat [e.message, text " | ", Json.literal (.obj e.fields)]

/-- The lines of text of an entry, each with the name of the level that it starts with. -/
def lines (e : Entry) : List (Text × Text) :=
  match Text.splitAll 0x0A e.shown with
  | [] => []
  | line :: more => (e.level.name, line) :: more.map fun t => ([], t)

end Entry

end HourlyUsage.Log
