import HourlyUsage.Numeral
import HourlyUsage.SortedMap
import HourlyUsage.Text.Basic
/-!
# JSON values and how they are written

Objects keep their fields in order; a name occurs once. Numbers are exact: whole numbers are
integers, all others stay decimal literals.

`compact` writes a value on one line without blanks. A string shows every code point as itself
except quotation mark, backslash, the controls below U+0020 and surrogates. `literal` writes a
value the way log lines show it: apostrophes, capitalised words and blanks after punctuation.

Sources: the JSON text of a `HdfsStatsResponse` and of the other responses; the fields of an entry
in a line of text.
-/
namespace HourlyUsage

/-- A JSON number, and the three that stand outside the standard but are read all the same. -/
inductive Json.Number where
  | whole (n : Int)
  /-- A literal with a fraction or an exponent: `digits · 10 ^ exponent`. -/
  | decimal (negative : Bool) (digits : Nat) (exponent : Int)
  | notANumber
  | infinite (negative : Bool)
  deriving DecidableEq

inductive Json where
  | null
  | bool (b : Bool)
  | number (n : Json.Number)
  | str (t : Text)
  | arr (items : List Json)
  | obj (fields : List (Text × Json))

namespace Json

def int (n : Int) : Json := .number (.whole n)

def nat (n : Nat) : Json := int n

/-- The value of a field. -/
def field? (name : Text) : Json → Option Json
  | .obj fields => Assoc.get? name fields
  | _ => none

/-! ## Writing -/

/-- A code point inside a string. -/
def escapePoint (c : CodePoint) : Text :=
  match c.val with
  | 0x22 => [0x5C, 0x22]
  | 0x5C => [0x5C, 0x5C]
  | 0x08 => [0x5C, 0x62]
  | 0x0C => [0x5C, 0x66]
  | 0x0A => [0x5C, 0x6E]
  | 0x0D => [0x5C, 0x72]
  | 0x09 => [0x5C, 0x74]
  | n => if n < 0x20 || c.isSurrogate then 0x5C :: 0x75 :: Quoted.hex 4 n else [c]

/-- A string between quotation marks. -/
def string (t : Text) : Text := 0x22 :: t.flatMap escapePoint ++ [0x22]

/-- A decimal literal with its point in place, or with an exponent where the point would be far
from the digits. -/
def decimal (negative : Bool) (digits : Nat) (exponent : Int) : Text :=
  let shown := Numeral.ofNat digits
  let unsigned : Text :=
    if 0 ≤ exponent then
      if exponent ≤ 16 then shown ++ Text.fill exponent.toNat 0x30 ++ [0x2E, 0x30]
      else shown ++ 0x65 :: Numeral.ofInt exponent
    else
      let places := (-exponent).toNat
      if places ≤ 20 then
        let padded := Text.fill (places + 1 - shown.length) 0x30 ++ shown
        padded.take (padded.length - places) ++ 0x2E :: padded.drop (padded.length - places)
      else shown ++ 0x65 :: Numeral.ofInt exponent
  if negative then 0x2D :: unsigned else unsigned

/-- A number; `nan` and `inf` are the words for the values without digits. -/
def Number.toText (nan inf : Text) : Number → Text
  | .whole n => Numeral.ofInt n
  | .decimal negative digits exponent => Json.decimal negative digits exponent
  | .notANumber => nan
  | .infinite negative => if negative then 0x2D :: inf else inf

mutual

/-- The value on one line, without blanks. -/
def compact : Json → Text
  | .null => text "null"
  | .bool b => if b then text "true" else text "false"
  | .number n => n.toText (text "NaN") (text "Infinity")
  | .str t => string t
  | .arr items => 0x5B :: Text.join [0x2C] (compactAll items) ++ [0x5D]
  | .obj fields => 0x7B :: Text.join [0x2C] (compactFields fields) ++ [0x7D]

def compactAll : List Json → List Text
  | [] => []
  | v :: rest => compact v :: compactAll rest

def compactFields : List (Text × Json) → List Text
  | [] => []
  | (name, v) :: rest => (string name ++ 0x3A :: compact v) :: compactFields rest

end

mutual

/-- The value as log lines show it. -/
def literal : Json → Text
  | .null => text "None"
  | .bool b => if b then text "True" else text "False"
  | .number n => n.toText (text "nan") (text "inf")
  | .str t => Quoted.ofText t
  | .arr items => 0x5B :: Text.join [0x2C, 0x20] (literalAll items) ++ [0x5D]
  | .obj fields => 0x7B :: Text.join [0x2C, 0x20] (literalFields fields) ++ [0x7D]

def literalAll : List Json → List Text
  | [] => []
  | v :: rest => literal v :: literalAll rest

def literalFields : List (Text × Json) → List Text
  | [] => []
  | (name, v) :: rest => (Quoted.ofText name ++ 0x3A :: 0x20 :: literal v) :: literalFields rest

end

end Json

end HourlyUsage
