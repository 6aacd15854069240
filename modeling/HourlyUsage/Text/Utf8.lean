import HourlyUsage.Text.Basic
/-!
# UTF-8

`encode` writes a text without surrogates; `decode` is an automaton that reads one octet at a time
and reports, for the first octets that cannot be text, where they stand and what is wrong with
them. `decodeLossy` puts U+FFFD in place of every such group and reads on.

The well-formed sequences are those of the Unicode standard: no overlong forms, no encoded
surrogates, nothing above U+10FFFF.

Sources: `encode_str`, `decode_str`, and the texts of row keys, columns, targets and parameters.
-/
namespace HourlyUsage.Utf8

/-- A maximal run of surrogates: positions `start` to `stop`, the latter excluded. -/
structure EncodeError where
  start : Nat
  stop : Nat
  /-- The first surrogate of the run. -/
  point : CodePoint
  deriving DecidableEq

/-- What is wrong with a group of octets. -/
inductive Fault where
  | invalidStart
  | invalidContinuation
  | unexpectedEnd
  deriving DecidableEq

/-- Octets `start` to `stop`, the latter excluded, are not text. -/
structure DecodeError where
  start : Nat
  stop : Nat
  /-- The first octet of the group. -/
  octet : UInt8
  fault : Fault
  deriving DecidableEq

/-! ## Writing -/

/-- The octet that carries the low six bits of `n` behind a first octet. -/
def tail (n : Nat) : UInt8 := UInt8.ofNat (0x80 + n % 64)

/-- One to four octets for a code point. -/
def encodePoint (c : CodePoint) : Bytes :=
  let n := c.val
  if n < 0x80 then [UInt8.ofNat n]
  else if n < 0x800 then [UInt8.ofNat (0xC0 + n / 64), tail n]
  else if n < 0x10000 then [UInt8.ofNat (0xE0 + n / 4096), tail (n / 64), tail n]
  else [UInt8.ofNat (0xF0 + n / 262144), tail (n / 4096), tail (n / 64), tail n]

/-- The first run of surrogates of a text whose first code point has position `start`. -/
def surrogatesFrom? (start : Nat) : Text → Option EncodeError
  | [] => none
  | c :: rest =>
    if c.isSurrogate then
      some ⟨start, start + 1 + (rest.takeWhile CodePoint.isSurrogate).length, c⟩
    else surrogatesFrom? (start + 1) rest

/-- The octets of a text, or its first run of surrogates. -/
def encode (t : Text) : Except EncodeError Bytes :=
  match surrogatesFrom? 0 t with
  | some e => .error e
  | none => .ok (t.flatMap encodePoint)

/-! ## Reading -/

/-- Where the automaton stands between octets. -/
inductive State where
  /-- Between two code points. -/
  | between
  /-- Inside a code point: `owed` octets are still to come, the next one from `low` to `high`;
  `value` is what was read of it, from `seen` octets of which `first` was the first. -/
  | inside (owed : Nat) (low high : UInt8) (value seen : Nat) (first : UInt8)
  deriving DecidableEq

/-- What an octet does to the automaton. -/
inductive Step where
  | emit (c : CodePoint)
  | move (s : State)
  | refuse (f : Fault)

/-- The first octet of a code point says how many follow and which ones may come second. -/
def first (b : UInt8) : Step :=
  let n := b.toNat
  if n < 0x80 then .emit (CodePoint.ofNat n)
  else if n < 0xC2 then .refuse .invalidStart
  else if n < 0xE0 then .move (.inside 1 0x80 0xBF (n - 0xC0) 1 b)
  else if n < 0xF0 then
    .move (.inside 2 (if n = 0xE0 then 0xA0 else 0x80) (if n = 0xED then 0x9F else 0xBF)
      (n - 0xE0) 1 b)
  else if n < 0xF5 then
    .move (.inside 3 (if n = 0xF0 then 0x90 else 0x80) (if n = 0xF4 then 0x8F else 0xBF)
      (n - 0xF0) 1 b)
  else .refuse .invalidStart

def step : State → UInt8 → Step
  | .between, b => first b
  | .inside owed low high value seen lead, b =>
    if low ≤ b ∧ b ≤ high then
      let value := value * 64 + b.toNat % 64
      match owed with
      | 0 | 1 => .emit (CodePoint.ofNat value)
      | more + 2 => .move (.inside (more + 1) 0x80 0xBF value (seen + 1) lead)
    else .refuse .invalidContinuation

/-- The group of octets that was refused at position `pos`, where octet `b` stands. -/
def refusal (s : State) (pos : Nat) (b : UInt8) (f : Fault) : DecodeError :=
  match s with
  | .between => ⟨pos, pos + 1, b, f⟩
  | .inside _ _ _ _ seen lead => ⟨pos - seen, pos, lead, f⟩

/-- Reads on from state `s` at position `pos`; `acc` holds the code points read, last one first. -/
def decodeFrom (s : State) (pos : Nat) (acc : Text) : Bytes → Except DecodeError Text
  | [] =>
    match s with
    | .between => .ok acc.reverse
    | .inside _ _ _ _ seen lead => .error ⟨pos - seen, pos, lead, .unexpectedEnd⟩
  | b :: rest =>
    match step s b with
    | .emit c => decodeFrom .between (pos + 1) (c :: acc) rest
    | .move s => decodeFrom s (pos + 1) acc rest
    | .refuse f => .error (refusal s pos b f)

/-- The text of some octets, or the first group of octets that is not text. -/
def decode (bytes : Bytes) : Except DecodeError Text := decodeFrom .between 0 [] bytes

def replacement : CodePoint := 0xFFFD

/-- Reads on from state `s`, with U+FFFD for each group of octets that is not text. -/
def decodeLossyFrom (s : State) (acc : Text) : Bytes → Text
  | [] =>
    match s with
    | .between => acc.reverse
    | .inside .. => (replacement :: acc).reverse
  | b :: rest =>
    match step s b with
    | .emit c => decodeLossyFrom .between (c :: acc) rest
    | .move s => decodeLossyFrom s acc rest
    | .refuse _ =>
      match s with
      | .between => decodeLossyFrom .between (replacement :: acc) rest
      | .inside .. =>
        -- The refused octet may start a code point of its own.
        match first b with
        | .emit c => decodeLossyFrom .between (c :: replacement :: acc) rest
        | .move s => decodeLossyFrom s (replacement :: acc) rest
        | .refuse _ => decodeLossyFrom .between (replacement :: replacement :: acc) rest

/-- The text of some octets, with U+FFFD for each group of octets that is not text. -/
def decodeLossy (bytes : Bytes) : Text := decodeLossyFrom .between [] bytes

end HourlyUsage.Utf8
