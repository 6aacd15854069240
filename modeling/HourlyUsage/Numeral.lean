import HourlyUsage.Text.Basic
import HourlyUsage.Text.Quoted
/-!
# Whole numbers as text

`ofNat`, `ofInt` and `fixed` write numbers. Three grammars read them:

* `digits?`: a run of ASCII digits and nothing else, as in a row key.
* `read`: blanks around an optional sign and digits of any script, with single underscores between
  digits, as in a command line.
* `readStrict`: blanks around an optional sign and ASCII digits, with single underscores between
  digits and an all-zero fraction, as in settings and query strings.

A numeral of more than 4300 digits is never read, whatever its value.

Sources: the integers that are read from texts in `decode_key` (`digits?`), `bucket_of` and
`parse_args` (`read`), and in settings and parameters (`readStrict`).
-/
namespace HourlyUsage.Numeral

/-- Numerals with more digits than this are refused. -/
def maxDigits : Nat := 4300

/-! ## Writing -/

/-- The digits of `n` before those of `acc`; `fuel` is at least the number of digits. -/
def digitsBefore : Nat → Nat → Text → Text
  | 0, _, acc => acc
  | fuel + 1, n, acc =>
    let acc := CodePoint.ofDigit n :: acc
    if n < 10 then acc else digitsBefore fuel (n / 10) acc

def ofNat (n : Nat) : Text := digitsBefore (n + 1) n []

def ofInt : Int → Text
  | .ofNat n => ofNat n
  | .negSucc n => 0x2D :: ofNat (n + 1)

/-- The last `width` decimal digits of `n`, zeros included. -/
def fixed : Nat → Nat → Text
  | 0, _ => []
  | width + 1, n => fixed width (n / 10) ++ [CodePoint.ofDigit n]

/-! ## Reading -/

/-- The number that decimal digits spell, most significant first. -/
def value (digits : List Nat) : Nat := digits.foldl (fun n d => 10 * n + d) 0

/-- The digits of a text that holds ASCII digits only. -/
def digits? (t : Text) : Option (List Nat) := t.mapM CodePoint.asciiDigit?

/-- Why a text is no numeral. -/
inductive Fault where
  /-- It is not of the right form. -/
  | malformed
  /-- It has this many digits, which is too many. -/
  | tooLong (digits : Nat)
  deriving DecidableEq

/-- Splits off an optional sign; `true` for a hyphen. -/
def sign (t : Text) : Bool × Text :=
  match t with
  | 0x2B :: rest => (false, rest)
  | 0x2D :: rest => (true, rest)
  | _ => (false, t)

def underscore : CodePoint := 0x5F

/-- Digits with single underscores between them, and what follows them. `none` if an underscore
has no digit on both sides. -/
def groupedDigits (acc : List Nat) : Text → Option (List Nat × Text)
  | [] => some (acc.reverse, [])
  | c :: rest =>
    match c.decimalValue? with
    | some d => groupedDigits (d :: acc) rest
    | none =>
      if c = underscore then
        match acc, rest with
        | _ :: _, next :: more =>
          match next.decimalValue? with
          | some d => groupedDigits (d :: acc) more
          | none => none
        | _, _ => none
      else some (acc.reverse, c :: rest)

/-- The number with this sign and these digits. -/
def signed (negative : Bool) (n : Nat) : Int := if negative then -(n : Int) else n

/-- Reads an integer with digits of any script. The count of digits is checked before what follows
them. -/
def read (t : Text) : Except Fault Int :=
  let (negative, body) := sign (t.dropWhile CodePoint.isWhiteSpace)
  match groupedDigits [] body with
  | none => .error .malformed
  | some (digits, rest) =>
    if maxDigits < digits.length then .error (.tooLong digits.length)
    else if digits.isEmpty || rest.any (fun c => !c.isWhiteSpace) then .error .malformed
    else .ok (signed negative (value digits))

/-- The text up to an all-zero fraction; the whole text if it has no such fraction. -/
def withoutZeroFraction (t : Text) : Text :=
  match Text.cut? 0x2E t with
  | some (whole, fraction) => if fraction.all (· = 0x30) then whole else t
  | none => t

/-- Whether a code point counts as one of the zeros in front of a number. -/
def isLeadingZero (c : CodePoint) : Bool := c = 0x30 || c = underscore

/-- Drops the zeros, and the underscores among them, in front of a number that starts with a zero;
the last code point always stays, and so does the one before a point. -/
def withoutLeadingZeros (t : Text) : Option Text :=
  match t with
  | [] => none
  | c :: _ =>
    if c = 0x30 then
      let last := (t.takeWhile isLeadingZero).getLast?.toList
      match t.dropWhile isLeadingZero with
      | [] => some last
      | d :: more =>
        if 0x31 ≤ d.val && d.val ≤ 0x39 then some (d :: more)
        else if d = 0x2E then some (last ++ d :: more)
        else none
    else if (0x31 ≤ c.val && c.val ≤ 0x39) || c = 0x2D then some t
    else none

/-- The text without its underscores, if it has some and each stands between two other code
points. -/
def withoutUnderscores (t : Text) : Option Text :=
  let pieces := Text.splitAll underscore t
  if pieces.any List.isEmpty then none else some pieces.flatten

/-- Reads an integer with ASCII digits. -/
def readStrict (t : Text) : Except Fault Int := do
  let some body := (match t.trim CodePoint.isWhiteSpace with
    | 0x2B :: 0x2D :: _ => none
    | 0x2B :: rest => some rest
    | body => some body) | .error .malformed
  let some body := withoutLeadingZeros body | .error .malformed
  let some body := withoutUnderscores (withoutZeroFraction body) | .error .malformed
  let (negative, unsigned) := match body with
    | 0x2D :: rest => (true, rest)
    | _ => (false, body)
  let some digits := digits? unsigned | .error .malformed
  if digits.isEmpty || (1 < digits.length && digits.head? = some 0) then .error .malformed
  else if maxDigits < digits.length then .error (.tooLong digits.length)
  else .ok (signed negative (value digits))

def tooLongMessage (digits : Nat) : Text :=
  Text.concat [text "Exceeds the limit (", ofNat maxDigits,
    text " digits) for integer string conversion: value has ", ofNat digits,
    text " digits; use sys.set_int_max_str_digits() to increase the limit"]

/-- What a reader of `t` says about it; at most 200 code points of it are shown. -/
def Fault.message (t : Text) : Fault → Text
  | .malformed =>
    Text.concat [text "invalid literal for int() with base 10: ", (Quoted.ofText t).take 200]
  | .tooLong digits => tooLongMessage digits

end HourlyUsage.Numeral
