import HourlyUsage.Json.Parser
import HourlyUsage.SortedMap
import HourlyUsage.Text.Basic
import HourlyUsage.Text.Lowercase
import HourlyUsage.Text.Quoted
/-!
# Where settings come from

Settings are looked up by name in the process environment and then in an environment file. The
case of names does not count; of names that differ in case only, the last one does.

An environment file has lines `NAME=value`. A name may follow the word `export` and may stand between
apostrophes; without an equals sign it has no value. A value is bare, and then ends before a
comment, or it stands between quotes, where it may run over several lines and hold escapes. A line
that does not fit is skipped. In values, `$` and a name in braces stand for another value.

Sources: the lookup of settings by name that `AppSettings` and `StoreSettings` are built on, and the
grammar of the files that `find_env_file` finds.
-/
namespace HourlyUsage

namespace EnvFile

/-- A name and its value, if it has one. -/
abbrev Binding := Text × Option Text

def lineFeed : CodePoint := 0x0A
def carriageReturn : CodePoint := 0x0D
def hash : CodePoint := 0x23
def equalsSign : CodePoint := 0x3D
def dollar : CodePoint := 0x24
def openingBrace : CodePoint := 0x7B
def closingBrace : CodePoint := 0x7D
def colon : CodePoint := 0x3A
def hyphen : CodePoint := 0x2D

/-- The text with a line feed at the end of every line, however lines ended. -/
def unifyLines : Text → Text
  | [] => []
  | c :: rest =>
    if c = carriageReturn then
      match rest with
      | d :: more => lineFeed :: (if d = lineFeed then unifyLines more else unifyLines (d :: more))
      | [] => [lineFeed]
    else c :: unifyLines rest

/-- Blanks that do not end a line. -/
def isInlineBlank (c : CodePoint) : Bool := c.isSpace && c ≠ lineFeed && c ≠ carriageReturn

/-- The text after the blanks at its front that do not end the line. -/
def skipInline (t : Text) : Text := t.dropWhile isInlineBlank

def nextLine (t : Text) : Text := (t.dropWhile (· ≠ lineFeed)).drop 1

/-! ## Quoted values -/

/-- What stands before the first `quote` that does not follow a backslash, and what stands after
it. -/
def plainEnd? (quote previous : CodePoint) : Text → Option (Text × Text)
  | [] => none
  | c :: rest =>
    if c = quote && previous ≠ Quoted.backslash then some ([], rest)
    else (plainEnd? quote c rest).map fun (a, b) => (c :: a, b)

/-- What stands before the last `quote`, and what stands after it. -/
def lastEnd? (quote : CodePoint) : Text → Option (Text × Text)
  | [] => none
  | c :: rest =>
    match lastEnd? quote rest with
    | some (a, b) => some (c :: a, b)
    | none => if c = quote then some ([], rest) else none

/-- A value after its opening quote. A quote behind a backslash ends it only if no other does. -/
def quotedBody? (quote : CodePoint) (t : Text) : Option (Text × Text) :=
  (plainEnd? quote quote t).or (lastEnd? quote t)

/-- What a backslash and another code point stand for between apostrophes. -/
def apostropheEscape? (c : CodePoint) : Option CodePoint :=
  if c = Quoted.backslash || c = Quoted.apostrophe then some c else none

/-- What a backslash and another code point stand for between quotation marks. -/
def quotationEscape? (c : CodePoint) : Option CodePoint :=
  match c.val with
  | 0x5C => some 0x5C
  | 0x27 => some 0x27
  | 0x22 => some 0x22
  | 0x61 => some 0x07
  | 0x62 => some 0x08
  | 0x66 => some 0x0C
  | 0x6E => some 0x0A
  | 0x72 => some 0x0D
  | 0x74 => some 0x09
  | 0x76 => some 0x0B
  | _ => none

/-- The text with its escapes replaced; a backslash that starts none stays. -/
def unescape (escape? : CodePoint → Option CodePoint) : Text → Text
  | [] => []
  | [c] => [c]
  | c :: d :: rest =>
    if c = Quoted.backslash then
      match escape? d with
      | some e => e :: unescape escape? rest
      | none => c :: unescape escape? (d :: rest)
    else c :: unescape escape? (d :: rest)

/-! ## Bare values -/

/-- What stands before the first hash that follows a blank. -/
def beforeComment (previousIsBlank : Bool) : Text → Text
  | [] => []
  | c :: rest =>
    if previousIsBlank && c = hash then [] else c :: beforeComment c.isSpace rest

/-- A bare value: the line without its comment and without blanks at its end. -/
def bareValue (line : Text) : Text := (beforeComment false line).trimRight CodePoint.isSpace

/-! ## Lines -/

/-- A value and what follows it; on failure, what is left to be skipped. -/
def readValue (t : Text) : Except Text (Text × Text) :=
  match t with
  | [] => .ok ([], [])
  | c :: rest =>
    if c = Quoted.apostrophe then
      match quotedBody? c rest with
      | some (body, rest) => .ok (unescape apostropheEscape? body, rest)
      | none => .error t
    else if c = Quoted.quotationMark then
      match quotedBody? c rest with
      | some (body, rest) => .ok (unescape quotationEscape? body, rest)
      | none => .error t
    else .ok (bareValue (t.takeWhile (· ≠ lineFeed)), t.dropWhile (· ≠ lineFeed))

/-- A name and what follows it; no name where a comment starts. On failure, what is left to be
skipped. -/
def readName (t : Text) : Except Text (Option Text × Text) :=
  match t with
  | [] => .error []
  | c :: rest =>
    if c = hash then .ok (none, t)
    else if c = Quoted.apostrophe then
      match rest.takeWhile (· ≠ c), rest.dropWhile (· ≠ c) with
      | [], _ => .error t
      | _, [] => .error t
      | name, _ :: rest => .ok (some name, rest)
    else
      let isNamePoint (c : CodePoint) := c ≠ equalsSign && c ≠ hash && !c.isSpace
      match t.takeWhile isNamePoint with
      | [] => .error t
      | name => .ok (some name, t.dropWhile isNamePoint)

/-- The text after the word `export`, if it stands at the front with a blank behind it. -/
def skipExport (t : Text) : Text :=
  match Text.after? (text "export") t with
  | some rest => if (rest.head?.map isInlineBlank).getD false then skipInline rest else t
  | none => t

/-- The end of a line, after blanks and a comment. -/
def readLineEnd (t : Text) : Except Text Text :=
  let t := match skipInline t with
    | c :: rest => if c = hash then rest.dropWhile (· ≠ lineFeed) else t
    | [] => t
  match skipInline t with
  | [] => .ok []
  | c :: rest => if c = lineFeed then .ok rest else .error t

/-- One binding from the first code point that is no blank on, and what follows it. -/
def readLine (t : Text) : Except Text (Option Binding × Text) :=
  match readName (skipExport t) with
  | .error t => .error t
  | .ok (name?, t) =>
    let t := skipInline t
    let valued : Except Text (Option Text × Text) :=
      match t with
      | c :: rest =>
        if c = equalsSign then (readValue (skipInline rest)).map fun (v, t) => (some v, t)
        else .ok (none, t)
      | [] => .ok (none, t)
    match valued with
    | .error t => .error t
    | .ok (value?, t) => (readLineEnd t).map fun t => (name?.map fun name => (name, value?), t)

/-- The bindings of a text whose lines end in line feeds. Every line read is at least one code point
long, so `fuel` need only exceed the length. -/
def readLines : Nat → Text → List Binding
  | 0, _ => []
  | fuel + 1, t =>
    match t.dropWhile CodePoint.isSpace with
    | [] => []
    | t =>
      match readLine t with
      | .ok (some binding, rest) => binding :: readLines fuel rest
      | .ok (none, rest) => readLines fuel rest
      | .error rest => readLines fuel (nextLine rest)

/-! ## References -/

/-- A reference after its opening brace: the name, what stands for it if there is none, and what
follows. -/
def reference? (t : Text) : Option (Text × Text × Text) :=
  let name := t.takeWhile fun c => c ≠ closingBrace && c ≠ colon
  match t.dropWhile fun c => c ≠ closingBrace && c ≠ colon with
  | c :: rest =>
    if c = closingBrace then some (name, [], rest)
    else
      match rest with
      | d :: rest =>
        if d = hyphen then
          match rest.dropWhile (· ≠ closingBrace) with
          | _ :: after => some (name, rest.takeWhile (· ≠ closingBrace), after)
          | [] => none
        else none
      | [] => none
  | [] => none

/-- The text with its references replaced; `value` gives what a name stands for, or else its
substitute. `fuel` is at least the length. -/
def expand (value : Text → Text → Text) : Nat → Text → Text
  | 0, t => t
  | _ + 1, [] => []
  | fuel + 1, c :: rest =>
    let reference := match rest with
      | d :: rest => if c = dollar && d = openingBrace then reference? rest else none
      | [] => none
    match reference with
    | some (name, substitute, rest) => value name substitute ++ expand value fuel rest
    | none => c :: expand value fuel rest

/-- The values with their references replaced, first line first. A name stands for its value in the
lines above, or else in the environment. -/
def resolve (environment : List (Text × Text)) (bindings : List Binding) : List Binding :=
  bindings.foldl (fun known (name, value?) =>
    let valueOf (name substitute : Text) : Text :=
      match Assoc.get? name known with
      | some value? => value?.getD []
      | none => (Assoc.get? name environment).getD substitute
    Assoc.set name (value?.map fun v => expand valueOf v.length v) known) []

/-- The bindings that a file makes in an environment; the last one of a name counts. -/
def read (environment : List (Text × Text)) (file : Text) : List Binding :=
  let t := unifyLines file
  resolve environment (readLines (t.length + 1) t)

end EnvFile

/-! ## The environment -/

structure Environment where
  process : List (Text × Text)
  file : List EnvFile.Binding

namespace Environment

def ofFile (process : List (Text × Text)) (file? : Option Text) : Environment :=
  ⟨process, (file?.map (EnvFile.read process)).getD []⟩

/-- The two places where settings are looked up. -/
inductive Source where
  | process
  | file
  deriving DecidableEq

def Source.label : Source → Text
  | process => text "EnvSettingsSource"
  | file => text "DotEnvSettingsSource"

def lookup {α : Type} (name : Text) (settings : List (Text × α)) : Option α :=
  Assoc.get? name.toLower (Assoc.ofList (settings.map fun (n, v) => (n.toLower, v)))

def valueIn (e : Environment) (name : Text) : Source → Option Text
  | .process => lookup name e.process
  | .file => (lookup name e.file).join

def value? (e : Environment) (name : Text) : Option Text :=
  (e.valueIn name .process).or (e.valueIn name .file)

end Environment

end HourlyUsage
