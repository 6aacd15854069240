import HourlyUsage.Numeral
/-!
# Command line arguments

One cluster and some options, in any order. An option can be shortened as long as it stays
unambiguous, and its value follows it or an equals sign. After two hyphens nothing is an option, and
neither is a negative number or a word with a blank in it, unless it spells one.

Reading goes in three steps: every word is classified by itself, then the words are taken from left
to right, then what is missing or left over is looked for. The first thing that is wrong ends it.

Sources: `parse_args`, and the grammar of the parser that it sets up.
-/
namespace HourlyUsage.CommandLine

inductive Flag where
  | help
  | path
  | limit
  | time
  | database
  | logLevel
  deriving DecidableEq

namespace Flag

def spellings : List (Text × Flag) :=
  [(text "-h", help), (text "--help", help), (text "--path", path), (text "--limit", limit),
    (text "--attime", time), (text "--db", database), (text "--log-level", logLevel)]

/-- What a message calls an option. -/
def title (f : Flag) : Text :=
  Text.join (text "/") ((spellings.filter fun (_, g) => g = f).map (·.1))

/-- The option with exactly this spelling. -/
def ofSpelling? (t : Text) : Option Flag :=
  (spellings.find? fun (spelling, _) => spelling = t).map (·.2)

end Flag

structure Arguments where
  cluster : Text
  path : Text
  limit : Int
  time? : Option Int
  database? : Option Text
  logLevel? : Option Text
  deriving DecidableEq

/-- What is wrong with the words of a command line. -/
inductive UsageError where
  | ambiguous (word : Text) (spellings : List Text)
  | valueExpected (flag : Flag)
  | valueIgnored (flag : Flag) (value : Text)
  | notAnInteger (flag : Flag) (value : Text)
  | clusterMissing
  | leftOver (words : List Text)
  deriving DecidableEq

def UsageError.message : UsageError → Text
  | ambiguous word spellings =>
    Text.concat [text "ambiguous option: ", word, text " could match ",
      Text.join (text ", ") spellings]
  | valueExpected flag => Text.concat [text "argument ", flag.title, text ": expected one argument"]
  | valueIgnored flag value =>
    Text.concat [text "argument ", flag.title, text ": ignored explicit argument ",
      Quoted.ofText value]
  | notAnInteger flag value =>
    Text.concat [text "argument ", flag.title, text ": invalid int value: ", Quoted.ofText value]
  | clusterMissing => text "the following arguments are required: cluster"
  | leftOver words => text "unrecognized arguments: " ++ Text.join (text " ") words

/-- Why reading a command line ends early. -/
inductive Stop where
  | helpWanted
  | wrong (e : UsageError)
  deriving DecidableEq

/-! ## Single words -/

/-- A value that an option carries in its own word; `afterEquals` if an equals sign stands before
it. -/
structure Attached where
  value : Text
  afterEquals : Bool
  deriving DecidableEq

/-- What a word is by itself. -/
inductive Word where
  /-- Two hyphens, the first time they come. -/
  | separator
  | plain (t : Text)
  | option (t : Text) (flag : Flag) (attached : Option Attached)
  /-- It looks like an option, and there is none like it. -/
  | unknownOption (t : Text)
  deriving DecidableEq

def Word.written : Word → Text
  | separator => text "--"
  | plain t => t
  | option t _ _ => t
  | unknownOption t => t

def hyphen : CodePoint := 0x2D
def equalsSign : CodePoint := 0x3D
def blank : CodePoint := 0x20

/-- Whether a code point is a decimal digit of any script. -/
def isDigit (c : CodePoint) : Bool := c.decimalValue?.isSome

/-- Whether a word is a negative number: digits, or digits around a point of which those before it
may be missing. A line feed may follow. -/
def isNegativeNumber (t : Text) : Bool :=
  match t with
  | [] => false
  | c :: rest =>
    let digits := rest.takeWhile isDigit
    let behind := rest.dropWhile isDigit
    let isEnd (t : Text) : Bool := t = [] || t = [0x0A]
    c = hyphen &&
      ((!digits.isEmpty && isEnd behind) ||
        match behind with
        | point :: rest =>
          point = 0x2E && !(rest.takeWhile isDigit).isEmpty && isEnd (rest.dropWhile isDigit)
        | [] => false)

/-- The value behind the first equals sign of a word, and what stands before it. -/
def splitEquals (t : Text) : Text × Option Attached :=
  match Text.cut? equalsSign t with
  | some (before, after) => (before, some ⟨after, true⟩)
  | none => (t, none)

/-- The options that a word with one or two hyphens may be short for. -/
def candidates (t : Text) : List (Text × Flag × Option Attached) :=
  match t with
  | _ :: second :: _ =>
    if second = hyphen then
      let (stem, attached) := splitEquals t
      Flag.spellings.filterMap fun (spelling, flag) =>
        (Text.after? stem spelling).map fun _ => (spelling, flag, attached)
    else
      Flag.spellings.filterMap fun (spelling, flag) =>
        if spelling = t.take 2 then some (spelling, flag, some ⟨t.drop 2, false⟩)
        else (Text.after? t spelling).map fun _ => (spelling, flag, none)
  | _ => []

/-- What a word that starts with a hyphen is, if it is no exact spelling. -/
def classifyShort (t : Text) : Except UsageError Word :=
  match candidates t with
  | [(_, flag, attached)] => .ok (.option t flag attached)
  | [] =>
    if isNegativeNumber t || t.contains blank then .ok (.plain t) else .ok (.unknownOption t)
  | several => .error (.ambiguous t (several.map (·.1)))

/-- What a word is by itself. -/
def classify (t : Text) : Except UsageError Word :=
  if t.head? ≠ some hyphen then .ok (.plain t)
  else
    match Flag.ofSpelling? t with
    | some flag => .ok (.option t flag none)
    | none =>
      if t = [hyphen] then .ok (.plain t)
      else
        let (stem, attached) := splitEquals t
        match attached, Flag.ofSpelling? stem with
        | some _, some flag => .ok (.option t flag attached)
        | _, _ => classifyShort t

def classifyAll : List Text → Except UsageError (List Word)
  | [] => .ok []
  | t :: rest =>
    if t = text "--" then .ok (.separator :: rest.map .plain)
    else
      match classify t with
      | .error e => .error e
      | .ok word => (classifyAll rest).map (word :: ·)

/-! ## All words -/

/-- What was read so far. -/
structure Progress where
  cluster? : Option Text := none
  path : Text := []
  limit : Int := 100
  time? : Option Int := none
  database? : Option Text := none
  logLevel? : Option Text := none
  /-- The words that nothing was made of, last one first. -/
  leftOver : List Text := []
  deriving DecidableEq

namespace Progress

def skip (p : Progress) (w : Word) : Progress := { p with leftOver := w.written :: p.leftOver }

def readInt (flag : Flag) (value : Text) : Except Stop Int :=
  match Numeral.read value with
  | .ok n => .ok n
  | .error _ => .error (.wrong (.notAnInteger flag value))

def give (p : Progress) (flag : Flag) (value : Text) : Except Stop Progress :=
  match flag with
  | .help => .error .helpWanted
  | .path => .ok { p with path := value }
  | .limit => (readInt flag value).map fun n => { p with limit := n }
  | .time => (readInt flag value).map fun n => { p with time? := some n }
  | .database => .ok { p with database? := some value }
  | .logLevel => .ok { p with logLevel? := some value }

end Progress

/-- What comes of a value attached to the call for help, which takes none: more calls for help may
follow a single hyphen. -/
def attachedToHelp (afterEquals : Bool) : Text → Stop
  | [] => .wrong (.valueIgnored .help [])
  | c :: rest =>
    if afterEquals || c = hyphen then .wrong (.valueIgnored .help (c :: rest))
    else if c = 0x68 then
      match rest with
      | [] => .helpWanted
      | d :: more =>
        if d = equalsSign then attachedToHelp true more else attachedToHelp false (d :: more)
    else .helpWanted

/-- Takes the cluster from the front of some words, if one is still wanted and stands there. The
separator may stand on either side of it. -/
def takeCluster (p : Progress) : List Word → Option (Progress × List Word)
  | .plain t :: .separator :: rest =>
    if p.cluster?.isNone then some ({ p with cluster? := some t }, rest) else none
  | .plain t :: rest =>
    if p.cluster?.isNone then some ({ p with cluster? := some t }, rest) else none
  | .separator :: .plain t :: rest =>
    if p.cluster?.isNone then some ({ p with cluster? := some t }, rest) else none
  | _ => none

/-- Takes an option from the front of some words, with its value. -/
def takeOption (p : Progress) (t : Text) (flag : Flag) (attached : Option Attached)
    (rest : List Word) : Except Stop (Progress × List Word) :=
  match attached with
  | some a =>
    if flag = .help then
      .error (if t.take 2 = text "--" then .wrong (.valueIgnored .help a.value)
        else attachedToHelp a.afterEquals a.value)
    else (p.give flag a.value).map fun p => (p, rest)
  | none =>
    if flag = .help then .error .helpWanted
    else
      match rest with
      | .plain value :: rest => (p.give flag value).map fun p => (p, rest)
      | _ => .error (.wrong (.valueExpected flag))

/-- Takes words from left to right. Every step takes at least one, so `fuel` need only exceed their
number. -/
def takeWords : Nat → Progress → List Word → Except Stop Progress
  | 0, p, _ => .ok p
  | _ + 1, p, [] => .ok p
  | fuel + 1, p, .option t flag attached :: rest =>
    match takeOption p t flag attached rest with
    | .error stop => .error stop
    | .ok (p, rest) => takeWords fuel p rest
  | fuel + 1, p, .unknownOption t :: rest => takeWords fuel (p.skip (.unknownOption t)) rest
  | fuel + 1, p, w :: rest =>
    match takeCluster p (w :: rest) with
    | some (p, rest) => takeWords fuel p rest
    | none => takeWords fuel (p.skip w) rest

/-- What was read, unless something is missing or left over. -/
def Progress.finish (p : Progress) : Except Stop Arguments :=
  match p.cluster?, p.leftOver with
  | none, _ => .error (.wrong .clusterMissing)
  | some cluster, [] =>
    .ok { p with cluster }
  | some _, words => .error (.wrong (.leftOver words.reverse))

/-- Reads a command line (`parse_args`). -/
def parse (argv : List Text) : Except Stop Arguments :=
  match classifyAll argv with
  | .error e => .error (.wrong e)
  | .ok words =>
    match takeWords (words.length + 1) {} words with
    | .error stop => .error stop
    | .ok p => p.finish

end HourlyUsage.CommandLine
