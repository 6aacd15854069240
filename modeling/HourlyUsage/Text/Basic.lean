/-!
# Text and bytes

A text is a list of Unicode code points in which lone surrogates may occur, since command lines,
JSON escapes and callers can hold them. Bytes are a list of octets. Both are compared
lexicographically, the order that row keys and column names are kept in.

The decimal digits of the Unicode 14 character database come in runs of ten, from a zero to a nine; a
code point is worth its distance from the zero of its run. `isWhiteSpace` is the Unicode property of
that name; these blanks may surround a number. `isSpace` also has the four ASCII separator controls;
these blanks are cut off the pieces of a list and the values of an environment file.

Sources: texts, byte strings and the operations on them that the settings, the row keys and the
command line use.
-/
namespace HourlyUsage

/-- There are code points, so numerals can stand for them. -/
instance pointsNeZero : @NeZero Nat Zero.ofOfNat0 0x110000 := ⟨Nat.succ_ne_zero _⟩

abbrev CodePoint := Fin 0x110000

abbrev Text := List CodePoint

/-- Texts are ordered by the first code point in which they differ. -/
instance textLE : LE Text := List.instLE

abbrev Bytes := List UInt8

namespace CodePoint

/-- The code point with number `n`, and U+FFFD where there is none. -/
def ofNat (n : Nat) : CodePoint :=
  if h : n < 0x110000 then ⟨n, h⟩ else 0xFFFD

def ofChar (c : Char) : CodePoint := ofNat c.toNat

/-- Surrogates are the code points that UTF-8 cannot carry. -/
def isSurrogate (c : CodePoint) : Bool := 0xD800 ≤ c.val && c.val ≤ 0xDFFF

/-- ASCII letters folded to lower case; every other code point stays. -/
def toAsciiLower (c : CodePoint) : CodePoint :=
  if 0x41 ≤ c.val && c.val ≤ 0x5A then ofNat (c.val + 32) else c

/-! ### Decimal digits -/

private def zeros : List Nat := [
    0x30, 0x660, 0x6F0, 0x7C0, 0x966, 0x9E6, 0xA66, 0xAE6, 0xB66, 0xBE6, 0xC66, 0xCE6, 0xD66,
    0xDE6, 0xE50, 0xED0, 0xF20, 0x1040, 0x1090, 0x17E0, 0x1810, 0x1946, 0x19D0, 0x1A80, 0x1A90,
    0x1B50, 0x1BB0, 0x1C40, 0x1C50, 0xA620, 0xA8D0, 0xA900, 0xA9D0, 0xA9F0, 0xAA50, 0xABF0,
    0xFF10, 0x104A0, 0x10D30, 0x11066, 0x110F0, 0x11136, 0x111D0, 0x112F0, 0x11450, 0x114D0,
    0x11650, 0x116C0, 0x11730, 0x118E0, 0x11950, 0x11C50, 0x11D50, 0x11DA0, 0x16A60, 0x16AC0,
    0x16B50, 0x1D7CE, 0x1D7D8, 0x1D7E2, 0x1D7EC, 0x1D7F6, 0x1E140, 0x1E2F0, 0x1E950, 0x1FBF0]

/-- The value of a decimal digit of any script. -/
def decimalValue? (c : CodePoint) : Option Nat :=
  (zeros.find? fun z => z ≤ c.val && c.val < z + 10).map fun z => c.val - z

def asciiDigit? (c : CodePoint) : Option Nat :=
  if 0x30 ≤ c.val && c.val ≤ 0x39 then some (c.val - 0x30) else none

/-- The ASCII digit worth `n` modulo ten. -/
def ofDigit (n : Nat) : CodePoint := ofNat (0x30 + n % 10)

/-! ### Blanks -/

def isWhiteSpace (c : CodePoint) : Bool :=
  let n := c.val
  (0x09 ≤ n && n ≤ 0x0D) || n = 0x20 || n = 0x85 || n = 0xA0 || n = 0x1680 ||
    (0x2000 ≤ n && n ≤ 0x200A) || n = 0x2028 || n = 0x2029 || n = 0x202F || n = 0x205F || n = 0x3000

/-- White space, and the ASCII file, group, record and unit separators. -/
def isSpace (c : CodePoint) : Bool := c.isWhiteSpace || (0x1C ≤ c.val && c.val ≤ 0x1F)

end CodePoint

def text (s : String) : Text := s.toList.map CodePoint.ofChar

namespace Text

def concat (pieces : List Text) : Text := pieces.flatten

/-- The pieces joined with `separator` between neighbours. -/
def join (separator : Text) (pieces : List Text) : Text := separator.intercalate pieces

/-- The piece before the first occurrence of `c` and the piece after it, if `c` occurs. -/
def cut? (c : CodePoint) : Text → Option (Text × Text)
  | [] => none
  | x :: rest => if x = c then some ([], rest) else (cut? c rest).map fun (a, b) => (x :: a, b)

/-- The pieces between the occurrences of `c`; there is always at least one. -/
def splitAll (c : CodePoint) : Text → List Text
  | [] => [[]]
  | x :: rest =>
    if x = c then [] :: splitAll c rest
    else match splitAll c rest with
      | [] => [[x]]
      | piece :: pieces => (x :: piece) :: pieces

/-- What is left of a text when `stem` is taken off its front, if it starts with `stem`. -/
def after? : Text → Text → Option Text
  | [], t => some t
  | _ :: _, [] => none
  | x :: stem, y :: t => if x = y then after? stem t else none

def toAsciiLower (t : Text) : Text := t.map CodePoint.toAsciiLower

def fill (n : Nat) (c : CodePoint) : Text := List.replicate n c

def trimLeft (p : CodePoint → Bool) (t : Text) : Text := t.dropWhile p

def trimRight (p : CodePoint → Bool) (t : Text) : Text := (t.reverse.dropWhile p).reverse

/-- The text without the code points at either end that satisfy `p`. -/
def trim (p : CodePoint → Bool) (t : Text) : Text := trimRight p (trimLeft p t)

end Text

end HourlyUsage
