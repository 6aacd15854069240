import HourlyUsage.Text.Printable
import HourlyUsage.Text.Basic
/-!
# Quoted texts and bytes

Messages show a text or a byte string between quotes, on one line and unambiguously: quotes,
backslashes and whatever is not printable are escaped. The quote is the apostrophe, unless the
value holds an apostrophe and no quotation mark.

Sources: texts and byte strings in the messages of `encode_key`, `decode_key` and `list_by_prefix`.
-/
namespace HourlyUsage.Quoted

def apostrophe : CodePoint := 0x27

def quotationMark : CodePoint := 0x22

def backslash : CodePoint := 0x5C

/-- The quote for a value of which is known whether it holds either quote. -/
def quoteFor (hasApostrophe hasQuotationMark : Bool) : CodePoint :=
  if hasApostrophe && !hasQuotationMark then quotationMark else apostrophe

def hexDigit (n : Nat) : CodePoint :=
  CodePoint.ofNat (if n % 16 < 10 then 0x30 + n % 16 else 0x57 + n % 16)

/-- The last `width` hexadecimal digits of a number. -/
def hex : Nat → Nat → Text
  | 0, _ => []
  | width + 1, n => hex width (n / 16) ++ [hexDigit n]

/-- The short escapes: tab, line feed and carriage return. -/
def shortEscape? (n : Nat) : Option CodePoint :=
  match n with
  | 0x09 => some 0x74
  | 0x0A => some 0x6E
  | 0x0D => some 0x72
  | _ => none

/-- The escape of a code point that is not shown as itself: two, four or eight digits. -/
def escape (n : Nat) : Text :=
  match shortEscape? n with
  | some c => [backslash, c]
  | none =>
    if n < 0x100 then backslash :: 0x78 :: hex 2 n
    else if n < 0x10000 then backslash :: 0x75 :: hex 4 n
    else backslash :: 0x55 :: hex 8 n

/-- A code point inside a text quoted with `quote`. -/
def point (quote c : CodePoint) : Text :=
  if c = quote || c = backslash then [backslash, c]
  else if c.isPrintable then [c]
  else escape c.val

def ofText (t : Text) : Text :=
  let quote := quoteFor (t.contains apostrophe) (t.contains quotationMark)
  quote :: t.flatMap (point quote) ++ [quote]

/-- An octet inside a byte string quoted with `quote`: printable ASCII stands for itself. -/
def octet (quote : CodePoint) (b : UInt8) : Text :=
  let c := CodePoint.ofNat b.toNat
  if c = quote || c = backslash then [backslash, c]
  else if 0x20 ≤ b.toNat && b.toNat < 0x7F then [c]
  else escape b.toNat

/-- A byte string between quotes, marked by a leading `b`. -/
def ofBytes (bs : Bytes) : Text :=
  let quote := quoteFor (bs.contains 0x27) (bs.contains 0x22)
  0x62 :: quote :: bs.flatMap (octet quote) ++ [quote]

end HourlyUsage.Quoted
