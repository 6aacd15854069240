import HourlyUsage.Json.Printer
import HourlyUsage.Numeral
/-!
# Reading JSON

`Json.parse` reads one value with blanks around it. It takes the grammar of the JSON standard and,
besides, the words `NaN`, `Infinity` and `-Infinity`. Escapes may spell lone surrogates, and two
escapes that form a pair are one code point. Where a name is repeated in an object, the last value
wins.

The standard sets no limit to the digits of a whole number, but `parse` does. `parseWithin` takes
the limit, if there is to be one.

Sources: the reader of JSON that the settings and `parse_cors_origins` use.
-/
namespace HourlyUsage.Json

/-- Why a text is no JSON value. -/
inductive Fault where
  /-- It breaks the grammar. -/
  | malformed
  /-- It holds a whole number of this many digits, which is too many to be read. -/
  | numeralTooLong (digits : Nat)
  deriving DecidableEq

/-- The four blanks that may stand between tokens. -/
def isBlank (c : CodePoint) : Bool := c = 0x20 || c = 0x09 || c = 0x0A || c = 0x0D

def skipBlanks (t : Text) : Text := t.dropWhile isBlank

/-! ## Strings -/

def hexDigit? (c : CodePoint) : Option Nat :=
  let n := c.val
  if 0x30 ≤ n && n ≤ 0x39 then some (n - 0x30)
  else if 0x41 ≤ n && n ≤ 0x46 then some (n - 0x37)
  else if 0x61 ≤ n && n ≤ 0x66 then some (n - 0x57)
  else none

def hex4? (a b c d : CodePoint) : Option Nat := do
  return (((← hexDigit? a) * 16 + (← hexDigit? b)) * 16 + (← hexDigit? c)) * 16 + (← hexDigit? d)

/-- What a one-letter escape stands for. -/
def shortEscape? (c : CodePoint) : Option CodePoint :=
  match c.val with
  | 0x22 => some 0x22
  | 0x5C => some 0x5C
  | 0x2F => some 0x2F
  | 0x62 => some 0x08
  | 0x66 => some 0x0C
  | 0x6E => some 0x0A
  | 0x72 => some 0x0D
  | 0x74 => some 0x09
  | _ => none

/-- The code point of a surrogate pair. -/
def pair? (high low : Nat) : Option CodePoint :=
  if 0xD800 ≤ high && high ≤ 0xDBFF && 0xDC00 ≤ low && low ≤ 0xDFFF then
    some (CodePoint.ofNat (0x10000 + (high - 0xD800) * 0x400 + (low - 0xDC00)))
  else none

/-- Adds the escaped code point `n`. It completes a pair if an escape right before it, whose number
is in `open?`, spelt the first half. -/
def addEscaped (acc : Text) (open? : Option Nat) (n : Nat) : Text × Option Nat :=
  match open?.bind (pair? · n), acc with
  | some c, _ :: acc => (c :: acc, none)
  | _, _ => (CodePoint.ofNat n :: acc, some n)

/-- The rest of a string after its opening quote. `acc` holds what was read, last code point first;
`open?` is the number of the escape just read, if the last code point came from one. -/
def stringBody (acc : Text) (open? : Option Nat) : Text → Option (Text × Text)
  | [] => none
  | 0x22 :: rest => some (acc.reverse, rest)
  | 0x5C :: 0x75 :: a :: b :: c :: d :: rest =>
    match hex4? a b c d with
    | some n =>
      let (acc, open?) := addEscaped acc open? n
      stringBody acc open? rest
    | none => none
  | 0x5C :: c :: rest =>
    match shortEscape? c with
    | some c => stringBody (c :: acc) none rest
    | none => none
  | c :: rest => if c.val < 0x20 || c = 0x5C then none else stringBody (c :: acc) none rest

/-! ## Numbers -/

/-- A run of ASCII digits and what follows it. -/
def digitRun (t : Text) : List Nat × Text :=
  ((t.takeWhile (·.asciiDigit?.isSome)).filterMap CodePoint.asciiDigit?,
    t.dropWhile (·.asciiDigit?.isSome))

/-- A fraction, if one stands at the front: its digits and what follows. -/
def fraction (t : Text) : List Nat × Text :=
  match t with
  | 0x2E :: rest =>
    let (digits, rest') := digitRun rest
    if digits.isEmpty then ([], t) else (digits, rest')
  | _ => ([], t)

/-- An exponent, if one stands at the front, and what follows. -/
def exponent? (t : Text) : Option Int × Text :=
  match t with
  | e :: rest =>
    if e = 0x65 || e = 0x45 then
      let (negative, unsigned) := Numeral.sign rest
      let (digits, rest') := digitRun unsigned
      if digits.isEmpty then (none, t)
      else (some (Numeral.signed negative (Numeral.value digits)), rest')
    else (none, t)
  | [] => (none, t)

/-- Splits off a hyphen, if one stands at the front; `true` if so. -/
def hyphen (t : Text) : Bool × Text :=
  match t with
  | 0x2D :: rest => (true, rest)
  | _ => (false, t)

/-- The digits of a number before its fraction, and what follows them. A zero in front stands
alone. -/
def wholeDigits (t : Text) : List Nat × Text :=
  match t with
  | 0x30 :: rest => ([0], rest)
  | _ => digitRun t

/-- A number at the front of a text that starts with a digit or a hyphen. A whole number may have as
many digits as the limit says. -/
def readNumber (limit? : Option Nat) (t : Text) : Except Fault (Number × Text) :=
  let (negative, unsigned) := hyphen t
  let (whole, rest) := wholeDigits unsigned
  if whole.isEmpty then .error .malformed
  else
    let (decimals, rest) := fraction rest
    let (power, rest) := exponent? rest
    if decimals.isEmpty && power.isNone then
      if limit?.any (· < whole.length) then .error (.numeralTooLong whole.length)
      else .ok (.whole (Numeral.signed negative (Numeral.value whole)), rest)
    else
      .ok (.decimal negative (Numeral.value (whole ++ decimals))
        (power.getD 0 - decimals.length), rest)

/-! ## Values -/

/-- The words and what they stand for. -/
def words : List (Text × Json) :=
  [(text "null", .null), (text "true", .bool true), (text "false", .bool false),
    (text "NaN", .number .notANumber), (text "Infinity", .number (.infinite false)),
    (text "-Infinity", .number (.infinite true))]

def word? (t : Text) : Option (Json × Text) :=
  words.findSome? fun (word, v) => (Text.after? word t).map fun rest => (v, rest)

mutual

/-- A value at the front of a text, and what follows it. Every call reads at least one code point,
so `fuel` need only exceed the text's length. -/
def readValue (limit? : Option Nat) (fuel : Nat) (t : Text) : Except Fault (Json × Text) :=
  match fuel with
  | 0 => .error .malformed
  | fuel + 1 =>
    match t with
    | 0x22 :: rest =>
      match stringBody [] none rest with
      | some (s, rest) => .ok (.str s, rest)
      | none => .error .malformed
    | 0x5B :: rest =>
      match skipBlanks rest with
      | 0x5D :: rest => .ok (.arr [], rest)
      | rest => readItems limit? fuel [] rest
    | 0x7B :: rest =>
      match skipBlanks rest with
      | 0x7D :: rest => .ok (.obj [], rest)
      | rest => readFields limit? fuel [] rest
    | _ =>
      match word? t with
      | some (v, rest) => .ok (v, rest)
      | none => (readNumber limit? t).map fun (n, rest) => (.number n, rest)

/-- The items of an array from the next one on; `acc` holds those read, last one first. -/
def readItems (limit? : Option Nat) (fuel : Nat) (acc : List Json) (t : Text) :
    Except Fault (Json × Text) :=
  match fuel with
  | 0 => .error .malformed
  | fuel + 1 =>
    match readValue limit? fuel t with
    | .error e => .error e
    | .ok (v, rest) =>
      match skipBlanks rest with
      | 0x5D :: rest => .ok (.arr (v :: acc).reverse, rest)
      | 0x2C :: rest => readItems limit? fuel (v :: acc) (skipBlanks rest)
      | _ => .error .malformed

/-- The fields of an object from the next one on; `acc` holds those read. -/
def readFields (limit? : Option Nat) (fuel : Nat) (acc : List (Text × Json)) (t : Text) :
    Except Fault (Json × Text) :=
  match fuel with
  | 0 => .error .malformed
  | fuel + 1 =>
    match t with
    | 0x22 :: rest =>
      match stringBody [] none rest with
      | none => .error .malformed
      | some (name, rest) =>
        match skipBlanks rest with
        | 0x3A :: rest =>
          match readValue limit? fuel (skipBlanks rest) with
          | .error e => .error e
          | .ok (v, rest) =>
            let acc := Assoc.set name v acc
            match skipBlanks rest with
            | 0x7D :: rest => .ok (.obj acc, rest)
            | 0x2C :: rest => readFields limit? fuel acc (skipBlanks rest)
            | _ => .error .malformed
        | _ => .error .malformed
    | _ => .error .malformed

end

/-- Reads a text that holds one value and blanks around it. -/
def parseWithin (limit? : Option Nat) (t : Text) : Except Fault Json :=
  match readValue limit? (t.length + 1) (skipBlanks t) with
  | .error e => .error e
  | .ok (v, rest) => if (skipBlanks rest).isEmpty then .ok v else .error .malformed

/-- Reads a text that holds one value, with whole numbers that are not too long. -/
def parse (t : Text) : Except Fault Json := parseWithin (some Numeral.maxDigits) t

end HourlyUsage.Json
