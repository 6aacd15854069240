import HourlyUsage.Json.Parser
import HourlyUsage.Json.Printer
import HourlyUsage.Text.Utf8
/-!
# Requests and responses

What the application is sent and what it answers. The case of header names does not count; of
several headers of one name the first one does.

The target of a request is a path and, behind the first question mark, a query of parameters. Three
octets of a percent sign and two hexadecimal digits stand for one octet; a percent sign without them
stands for itself. The octets of a path or of a parameter are read as UTF-8, with U+FFFD for those
that are not text.

Sources: the requests that reach `list_hdfs_stats`, `health` and `root`, and their responses, as the
web framework makes them. The length of a response is left to what sends it.
-/
namespace HourlyUsage.Http

abbrev Headers := List (Text × Text)

structure Request where
  method : Text
  /-- The path and the query as they were sent. -/
  target : Text
  headers : Headers
  deriving DecidableEq

def Request.header? (r : Request) (name : String) : Option Text :=
  (r.headers.find? fun (n, _) => n.toAsciiLower = text name).map (·.2)

/-- A response. Its length is left to what sends it. -/
structure Response where
  status : Nat
  headers : Headers := []
  body : Text := []
  deriving DecidableEq

namespace Response

def withHeader (r : Response) (name : String) (value : Text) : Response :=
  { r with headers := r.headers ++ [(text name, value)] }

def json (status : Nat) (v : Json) : Response :=
  { status, headers := [(text "content-type", text "application/json")], body := v.compact }

def detail (status : Nat) (v : Json) : Response := json status (.obj [(text "detail", v)])

/-- A response that says one thing in words. -/
def words (status : Nat) (t : Text) : Response := detail status (.str t)

def plain (status : Nat) (t : Text) : Response :=
  { status, headers := [(text "content-type", text "text/plain; charset=utf-8")], body := t }

/-- A response that sends the client to another location. -/
def redirect (location : Text) : Response :=
  { status := 307, headers := [(text "location", location)] }

end Response

/-! ## Percent-encoding -/

def percentSign : UInt8 := 0x25

/-- The octet that two hexadecimal digits spell. -/
def octetOfDigits? (high low : UInt8) : Option UInt8 :=
  match Json.hexDigit? (CodePoint.ofNat high.toNat), Json.hexDigit? (CodePoint.ofNat low.toNat) with
  | some x, some y => some (UInt8.ofNat (16 * x + y))
  | _, _ => none

/-- The octets that percent-encoded octets stand for. -/
def percentDecode : Bytes → Bytes
  | b :: high :: low :: rest =>
    match if b = percentSign then octetOfDigits? high low else none with
    | some octet => octet :: percentDecode rest
    | none => b :: percentDecode (high :: low :: rest)
  | short => short

/-- The text that a percent-encoded text stands for. -/
def decodeText (t : Text) : Text := Utf8.decodeLossy (percentDecode (t.flatMap Utf8.encodePoint))

def upperDigit (n : Nat) : CodePoint := CodePoint.ofNat (if n < 10 then 0x30 + n else 0x37 + n)

/-- The octets of a text, those that need not be encoded as themselves. -/
def encodeText (isPlain : UInt8 → Bool) (t : Text) : Text :=
  (t.flatMap Utf8.encodePoint).flatMap fun b =>
    if isPlain b then [CodePoint.ofNat b.toNat]
    else [0x25, upperDigit (b.toNat / 16), upperDigit (b.toNat % 16)]

/-- Marks that stand for themselves in a location, besides letters and digits. -/
def plainMarks : Text := text "_.-~:/%#?=@[]!$&'()*+,;"

/-- The octets that stand for themselves in a location. -/
def isPlainOctet (b : UInt8) : Bool :=
  let c := CodePoint.ofNat b.toNat
  (0x61 ≤ c.toAsciiLower.val && c.toAsciiLower.val ≤ 0x7A) || (0x30 ≤ b && b ≤ 0x39) ||
    plainMarks.contains c

/-! ## Targets -/

structure Target where
  /-- The path, decoded. -/
  path : Text
  /-- The query as it was sent. -/
  query : Text
  deriving DecidableEq

/-- The target that a text spells. -/
def Target.ofText (t : Text) : Target :=
  match Text.cut? 0x3F t with
  | some (path, query) => ⟨decodeText path, query⟩
  | none => ⟨decodeText t, []⟩

/-- A name or a value in a query, where a plus sign stands for a blank. -/
def decodeParameter (t : Text) : Text := decodeText (t.map fun c => if c = 0x2B then 0x20 else c)

/-- A text with the code points that its octets are numbered by. -/
def octetPoints (t : Text) : Text :=
  (t.flatMap Utf8.encodePoint).map fun b => CodePoint.ofNat b.toNat

/-- The parameters of a query in order. The value of one without an equals sign is empty. -/
def parameters (query : Text) : List (Text × Text) :=
  ((Text.splitAll 0x26 (octetPoints query)).filter fun piece => !piece.isEmpty).map fun piece =>
    match Text.cut? 0x3D piece with
    | some (name, value) => (decodeParameter name, decodeParameter value)
    | none => (decodeParameter piece, [])

/-- The value of a parameter; of several, the last one counts. -/
def parameter? (name : Text) (parameters : List (Text × Text)) : Option Text :=
  (parameters.reverse.find? fun (n, _) => n = name).map (·.2)

end HourlyUsage.Http
