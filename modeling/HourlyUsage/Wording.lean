import HourlyUsage.Cell
import HourlyUsage.Snapshot.Key
/-!
# What is said about failures

The words for texts that UTF-8 cannot carry, octets that are not text, arguments that give no row
key, stored row keys that cannot be read, and cells. A failure itself only says what went wrong
and where; everything that a message shows besides is worked out here.

Sources: the messages of `encode_key`, `decode_key`, `encode_int`, `encode_str` and `column_value`.
-/
namespace HourlyUsage

namespace Utf8

/-- Positions as a message names them: both ends of the run are meant. -/
def span (start stop : Nat) : Text :=
  Text.concat [Numeral.ofNat start, text "-", Numeral.ofNat (stop - 1)]

def EncodeError.message (e : EncodeError) : Text :=
  let place :=
    if e.stop = e.start + 1 then
      Text.concat [text "character '", Quoted.escape e.point.val, text "' in position ",
        Numeral.ofNat e.start]
    else text "characters in position " ++ span e.start e.stop
  Text.concat [text "'utf-8' codec can't encode ", place, text ": surrogates not allowed"]

def Fault.message : Fault → Text
  | .invalidStart => text "invalid start byte"
  | .invalidContinuation => text "invalid continuation byte"
  | .unexpectedEnd => text "unexpected end of data"

def DecodeError.message (e : DecodeError) : Text :=
  let place :=
    if e.stop = e.start + 1 then
      Text.concat [text "byte 0x", Quoted.hex 2 e.octet.toNat, text " in position ",
        Numeral.ofNat e.start]
    else text "bytes in position " ++ span e.start e.stop
  Text.concat [text "'utf-8' codec can't decode ", place, text ": ", e.fault.message]

end Utf8

namespace SnapshotKey

def Invalid.message : Invalid → Text
  | .emptyCluster => text "cluster must be non-empty"
  | .separatorInCluster cluster =>
    Text.concat [text "cluster must not contain ", Quoted.ofText [separator], text ": ",
      Quoted.ofText cluster]
  | .bucketOutOfRange bucketStart =>
    text "bucket start out of range: " ++ Numeral.ofInt bucketStart
  | .notEncodable e => text "cluster and path must be encodable as UTF-8: " ++ e.message

def Flaw.message : Flaw → Text
  | .notText _ => text "Row key is not valid UTF-8"
  | .missingParts count =>
    Text.concat [text "Row key has ", Numeral.ofNat count, text " segment(s), expected 3"]
  | .bucketNotNumeral => text "Row key timestamp is not an integer"
  | .bucketOutOfRange => text "Row key timestamp out of range"

def DecodeError.message : DecodeError → Text
  | .malformed data flaw => Text.concat [flaw.message, text ": ", Quoted.ofBytes data]
  | .numeralTooLong digits => Numeral.tooLongMessage digits

end SnapshotKey

namespace Cell

/-- The words for a number that does not fit into a cell. -/
def tooBigMessage : Text := text "int too big to convert"

def ColumnType.name (type : ColumnType) : Text :=
  HourlyUsage.text <| match type with
    | .int => "int"
    | .text => "str"
    | .float => "float"
    | .bytes => "bytes"
    | .bool => "bool"

/-- The zero of a column type as a message shows it. -/
def ColumnType.zero (type : ColumnType) : Text :=
  HourlyUsage.text <| match type with
    | .int => "0"
    | .text => "''"
    | .float => "0.0"
    | .bytes => "b''"
    | .bool => "False"

def ColumnError.message : ColumnError → Text
  | .notText e => e.message
  | .unsupported type =>
    Text.concat [text "Unsupported column type: <class '", type.name, text "'>"]

end Cell

end HourlyUsage
