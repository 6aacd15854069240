import HourlyUsage.SortedMap
import HourlyUsage.Text.Utf8
/-!
# Cell values

Whole numbers are kept as eight octets, big-endian, in two's complement; texts as UTF-8. A number
cell of any width can be read. A column that a row lacks reads as the zero of its type.

Sources: `encode_int`, `encode_str`, `decode_int`, `decode_str`, `column_value`, `value_as_int`,
`value_as_str`.
-/
namespace HourlyUsage

abbrev Cells := List (Text × Bytes)

namespace Cell

/-- The width of a written number in octets. -/
def intWidth : Nat := 8

/-- The least number that is too great for eight octets. Its negation is the least one that fits. -/
def intBound : Int := 0x8000000000000000

/-- The last `width` octets of a natural number, most significant first. -/
def bigEndian : Nat → Nat → Bytes
  | 0, _ => []
  | width + 1, n => bigEndian width (n / 256) ++ [UInt8.ofNat (n % 256)]

/-- The natural number that octets spell, most significant first. -/
def unsigned (bytes : Bytes) : Nat := bytes.foldl (fun n b => 256 * n + b.toNat) 0

/-- A number in eight octets; `none` if it does not fit (`encode_int`). -/
def encodeInt (v : Int) : Option Bytes :=
  if -intBound ≤ v ∧ v < intBound then some (bigEndian intWidth (v % (2 * intBound)).toNat)
  else none

/-- The number that octets spell in two's complement; no octets spell zero (`decode_int`). -/
def decodeInt (bytes : Bytes) : Int :=
  match bytes with
  | [] => 0
  | top :: _ =>
    if top < 0x80 then unsigned bytes else unsigned bytes - (Nat.pow 256 bytes.length : Nat)

def encodeText (t : Text) : Except Utf8.EncodeError Bytes := Utf8.encode t

def decodeText (bytes : Bytes) : Except Utf8.DecodeError Text := Utf8.decode bytes

/-! ## Columns by type -/

def intColumn (cells : Cells) (qualifier : Text) : Int :=
  match Assoc.get? qualifier cells with
  | none => 0
  | some bytes => decodeInt bytes

def textColumn (cells : Cells) (qualifier : Text) : Except Utf8.DecodeError Text :=
  match Assoc.get? qualifier cells with
  | none => .ok []
  | some bytes => decodeText bytes

inductive ColumnType where
  | int
  | text
  | float
  | bytes
  | bool
  deriving DecidableEq

/-- The value of a column: a number, a text, or the zero of a type that no cell holds. -/
inductive ColumnValue where
  | int (n : Int)
  | text (t : Text)
  | zero (type : ColumnType)
  deriving DecidableEq

/-- Why a column that is present cannot be read. -/
inductive ColumnError where
  | notText (e : Utf8.DecodeError)
  | unsupported (type : ColumnType)
  deriving DecidableEq

/-- A column as a value of the given type (`column_value`). -/
def column (cells : Cells) (qualifier : Text) (type : ColumnType) :
    Except ColumnError ColumnValue :=
  match type with
  | .int => .ok (.int (intColumn cells qualifier))
  | .text =>
    match textColumn cells qualifier with
    | .ok t => .ok (.text t)
    | .error e => .error (.notText e)
  | _ =>
    match Assoc.get? qualifier cells with
    | none => .ok (.zero type)
    | some _ => .error (.unsupported type)

end Cell

end HourlyUsage
