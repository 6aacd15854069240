import HourlyUsage.Numeral
import HourlyUsage.SortedMap
import HourlyUsage.Text.Basic
/-!
# Disks

A path text is cut at its slashes; empty steps and single dots mean nothing. `Path.resolve` gives
the place that a path text names when every double dot takes back the step before it.

A disk has directories and files, as far as opening a database file depends on them: a file is a
database or something else, and the directories above a new database file are made first.
`makeParents` walks a path step by step, so that a double dot behind a missing directory is an error
there, although `Path.resolve` would accept it.

Sources: `db_path_resolved`, the directories made by `bootstrap`, the files opened by
`_create_connection`.
-/
namespace HourlyUsage

/-- The steps from the root to a place on a disk. -/
abbrev Path := List Text

namespace Path

def slash : CodePoint := 0x2F

def up : Text := text ".."

/-- The steps that a path text spells, double dots included. -/
def steps (t : Text) : List Text :=
  (Text.splitAll slash t).filter fun step => !step.isEmpty && step ≠ text "."

/-- Whether a path text starts at the root. -/
def isAbsolute (t : Text) : Bool := t.head? = some slash

/-- One step further. A step up from the root stays there. -/
def follow (p : Path) (step : Text) : Path := if step = up then p.dropLast else p ++ [step]

/-- The place that a path text names, seen from `workingDirectory`. -/
def resolve (workingDirectory : Path) (t : Text) : Path :=
  (steps t).foldl follow (if isAbsolute t then [] else workingDirectory)

/-- The directory that holds a place. -/
def parent (p : Path) : Path := p.dropLast

/-- A place as an absolute path text. -/
def toText (p : Path) : Text := slash :: Text.join [slash] p

def spell (absolute : Bool) (steps : List Text) : Text :=
  if absolute then slash :: Text.join [slash] steps
  else if steps.isEmpty then text "."
  else Text.join [slash] steps

end Path

/-! ## Directories and files -/

/-- What is at a place. -/
inductive Node where
  | directory
  /-- A file that is no database. -/
  | junk
  /-- The database with this number. -/
  | database (number : Nat)
  deriving DecidableEq

/-- The nodes by place, and the place that relative paths start from. The root is a directory. -/
structure Disk where
  nodes : List (Path × Node)
  workingDirectory : Path

/-- Why a directory cannot be made. -/
inductive FileFault where
  | fileExists (path : Text)
  | notADirectory (path : Text)
  | noSuchFile (path : Text)
  deriving DecidableEq

namespace FileFault

def number : FileFault → Nat
  | fileExists _ => 17
  | notADirectory _ => 20
  | noSuchFile _ => 2

def message (fault : FileFault) : Text :=
  let (words, path) := match fault with
    | fileExists path => ("File exists", path)
    | notADirectory path => ("Not a directory", path)
    | noSuchFile path => ("No such file or directory", path)
  Text.concat [text "[Errno ", Numeral.ofNat fault.number, text "] ", text words, text ": ",
    Quoted.ofText path]

def kind : FileFault → Text
  | fileExists _ => text "FileExistsError"
  | notADirectory _ => text "NotADirectoryError"
  | noSuchFile _ => text "FileNotFoundError"

end FileFault

namespace Disk

def ofDirectories (directories : List Path) (workingDirectory : Path) : Disk :=
  ⟨directories.map fun p => (p, .directory), workingDirectory⟩

def node? (d : Disk) (p : Path) : Option Node :=
  if p = [] then some .directory else Assoc.get? p d.nodes

/-- The disk with a node put at a place. -/
def set (d : Disk) (p : Path) (n : Node) : Disk := { d with nodes := Assoc.set p n d.nodes }

def isDirectory (d : Disk) (p : Path) : Bool := d.node? p = some .directory

/-- Why a walk stops short. -/
inductive Obstacle where
  | missing
  | notADirectory
  | present
  deriving DecidableEq

/-- Walks from the directory `place` through directories. -/
def walk (d : Disk) (place : Path) : List Text → Except Obstacle Path
  | [] => .ok place
  | step :: rest =>
    let next := Path.follow place step
    match d.node? next with
    | some .directory => walk d next rest
    | some _ => .error .notADirectory
    | none => .error .missing

/-- Makes one directory; `back` holds the steps to it, last one first. -/
def makeDirectory (d : Disk) (start : Path) (back : List Text) : Except Obstacle Disk :=
  match back with
  | [] => .error .present
  | last :: above =>
    match d.walk start above.reverse with
    | .error obstacle => .error obstacle
    | .ok place =>
      let next := Path.follow place last
      if last = Path.up || (d.node? next).isSome then .error .present
      else .ok (d.set next .directory)

/-- What an obstacle means for making the directory at `steps`, if it is one already. -/
def settle (d : Disk) (absolute : Bool) (start : Path) (steps : List Text) (obstacle : Obstacle) :
    Except FileFault Disk :=
  let shown := Path.spell absolute steps
  match obstacle with
  | .missing => .error (.noSuchFile shown)
  | .notADirectory => .error (.notADirectory shown)
  | .present =>
    match d.walk start steps with
    | .ok _ => .ok d
    | .error _ => .error (.fileExists shown)

/-- Makes a directory and those above it, unless it is there; `back` holds the steps to it, last one
first. -/
def makeDirectories (d : Disk) (absolute : Bool) (start : Path) (back : List Text) :
    Except FileFault Disk :=
  match d.makeDirectory start back with
  | .ok d => .ok d
  | .error .missing =>
    match back with
    | [] => .error (.noSuchFile (Path.spell absolute []))
    | last :: above =>
      match d.makeDirectories absolute start above with
      | .error fault => .error fault
      | .ok d =>
        match d.makeDirectory start (last :: above) with
        | .ok d => .ok d
        | .error obstacle => d.settle absolute start (last :: above).reverse obstacle
  | .error obstacle => d.settle absolute start back.reverse obstacle

/-- Makes the directories above the file that a path text names. -/
def makeParents (d : Disk) (path : Text) : Except FileFault Disk :=
  let absolute := Path.isAbsolute path
  d.makeDirectories absolute (if absolute then [] else d.workingDirectory)
    (Path.steps path).dropLast.reverse

end Disk

end HourlyUsage
