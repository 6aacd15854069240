import HourlyUsage.Binary64
import HourlyUsage.Json.Printer
import HourlyUsage.Numeral
import HourlyUsage.Text.Utf8
/-!
# Checking values from outside

Settings and query parameters come as texts or as JSON values. What is wrong with one is a `Problem`
with a kind for machines and a message for people; a `Finding` says where it is.

Sources: the checks of `AppSettings` and `StoreSettings` and of the parameters of `list_hdfs_stats`.
-/
namespace HourlyUsage.Validation

/-- What is wrong with a value. -/
inductive Problem where
  | notANumeral
  | numeralTooLong
  | notAnInteger
  | hasFraction
  | notFinite
  | tooSmall (least : Int)
  | tooGreat (greatest : Int)
  | notAText
  | surrogateInText
  | notAList
  /-- It is neither an object nor already a value of this type. -/
  | notAnObject (type : Text)
  /-- It breaks a rule of its own. -/
  | rule (message : Text)
  deriving DecidableEq

namespace Problem

def kind (p : Problem) : Text :=
  text <| match p with
    | notANumeral => "int_parsing"
    | numeralTooLong => "int_parsing_size"
    | notAnInteger => "int_type"
    | hasFraction => "int_from_float"
    | notFinite => "finite_number"
    | tooSmall _ => "greater_than_equal"
    | tooGreat _ => "less_than_equal"
    | notAText => "string_type"
    | surrogateInText => "string_unicode"
    | notAList => "list_type"
    | notAnObject _ => "model_type"
    | rule _ => "value_error"

def message : Problem → Text
  | notANumeral => text "Input should be a valid integer, unable to parse string as an integer"
  | numeralTooLong => text "Unable to parse input string as an integer, exceeded maximum size"
  | notAnInteger => text "Input should be a valid integer"
  | hasFraction => text "Input should be a valid integer, got a number with a fractional part"
  | notFinite => text "Input should be a finite number"
  | tooSmall least => text "Input should be greater than or equal to " ++ Numeral.ofInt least
  | tooGreat greatest => text "Input should be less than or equal to " ++ Numeral.ofInt greatest
  | notAText => text "Input should be a valid string"
  | surrogateInText =>
    text "Input should be a valid string, unable to parse raw data as a unicode string"
  | notAList => text "Input should be a valid list"
  | notAnObject type => text "Input should be a valid dictionary or instance of " ++ type
  | rule message => text "Value error, " ++ message

end Problem

inductive Step where
  | name (name : Text)
  | index (i : Nat)
  deriving DecidableEq

/-- A problem and the way to the value that has it. -/
structure Finding where
  way : List Step
  problem : Problem
  deriving DecidableEq

def Step.toText : Step → Text
  | name t => t
  | index i => Numeral.ofNat i

/-- A finding on one line: the way, then the problem. -/
def Finding.line (f : Finding) : Text :=
  Text.concat [Text.join [0x2E] (f.way.map Step.toText), text ": ", f.problem.message]

/-- The finding as it stands inside a named value. -/
def Finding.within (name : Text) (f : Finding) : Finding := { f with way := .name name :: f.way }

/-- The least integer allowed, and the greatest if there is one. -/
structure Bounds where
  least : Int
  greatest? : Option Int
  deriving DecidableEq

/-- The integer that a text spells. -/
def intOfText (t : Text) : Except Problem Int :=
  match Numeral.readStrict t with
  | .ok n => .ok n
  | .error .malformed => .error .notANumeral
  | .error (.tooLong _) => .error .numeralTooLong

def maxDouble : Nat := 0x8000000000000000

/-- The integer that a JSON value stands for: numbers without a fraction, truth values as zero and
one, and texts that spell an integer. -/
def intOfJson : Json → Except Problem Int
  | .number (.whole n) => .ok n
  | .number (.decimal negative digits exponent) =>
    match Binary64.ofDecimal digits exponent with
    | .infinite => .error .notFinite
    | .finite n exact =>
      if !exact then .error .hasFraction
      else if maxDouble ≤ n then .error .numeralTooLong
      else .ok (Numeral.signed negative n)
  | .number _ => .error .notFinite
  | .bool b => .ok (if b then 1 else 0)
  | .str t => intOfText t
  | _ => .error .notAnInteger

/-- An integer that must lie within bounds. -/
def Bounds.check (bounds : Bounds) (n : Int) : Except Problem Int :=
  if n < bounds.least then .error (.tooSmall bounds.least)
  else
    match bounds.greatest? with
    | some greatest => if greatest < n then .error (.tooGreat greatest) else .ok n
    | none => .ok n

def checkText (t : Text) : Except Problem Text :=
  if t.any CodePoint.isSurrogate then .error .surrogateInText else .ok t

/-- The text that a JSON value is. -/
def textOfJson : Json → Except Problem Text
  | .str t => checkText t
  | _ => .error .notAText

end HourlyUsage.Validation
