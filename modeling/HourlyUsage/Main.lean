import HourlyUsage.CommandLine.Run
import HourlyUsage.Database.Engine
import HourlyUsage.Json.Parser
import HourlyUsage.Settings.App
import Std.Time.DateTime.Timestamp
/-!
# The program

Lists the usage of the paths below a path. Settings come from the process environment and from an
environment file; the database is a cell file. Besides that all there is here is reading and
printing.

A cell file is a table as text: a line for each cell with a JSON array of the row key, the family,
the qualifier and the value. Row keys and values are written in hexadecimal digits. Of two lines for
one cell the later one counts.

Sources: `main` of the command line with the settings of its process. A cell file stands in for the
file format of the database, which is left out.
-/
namespace HourlyUsage

namespace CellFile

/-- The octets that hexadecimal digits spell, two for each. -/
def bytesOfHex? : Text → Option Bytes
  | [] => some []
  | [_] => none
  | a :: b :: rest =>
    match Json.hexDigit? a, Json.hexDigit? b with
    | some x, some y => (bytesOfHex? rest).map (UInt8.ofNat (16 * x + y) :: ·)
    | _, _ => none

/-- The table with the cell of a line. -/
def putLine (t : Table) (line : Text) : Option Table :=
  match Json.parse line with
  | .ok (.arr [.str key, .str family, .str qualifier, .str value]) =>
    match bytesOfHex? key, bytesOfHex? value with
    | some key, some value => some (t.put key family qualifier value)
    | _, _ => none
  | _ => none

/-- The table that a file holds, unless one of its lines is no cell. Empty lines mean nothing. -/
def read (file : Text) : Option Table :=
  ((Text.splitAll 0x0A file).filter fun line => !line.isEmpty).foldlM putLine .empty

end CellFile

/-- The engine with a cell file found at a place; a file that holds no table is no database. -/
def Engine.load (e : Engine) (place : Path) (file : Text) : Engine :=
  match CellFile.read file with
  | some t =>
    let (d, e) := e.addDatabase
    { e.setDatabase d { cells := some t } with disk := e.disk.set place (.database d) }
  | none => { e with disk := e.disk.set place .junk }

end HourlyUsage

namespace HourlyUsage.Program

def shown (t : Text) : String := String.ofList (t.map fun c => Char.ofNat c.val)

def settingNames : List String :=
  ["HDFS_USAGE_ENV", "HDFS_USAGE_PORT", "HDFS_USAGE_LOG_LEVEL", "HDFS_USAGE_LOG_FORMAT",
    "HDFS_USAGE_ALLOW_ORIGINS", "CORS_ORIGINS", "STORE", "HDFS_STATS_DB_PATH",
    "HDFS_STATS_SCAN_BATCH_SIZE"]

inductive Found where
  | nothing
  | directory
  | file (content : Text)

def look (p : Path) : IO Found := do
  let place := (← IO.currentDir) / shown p.toText
  if !(← place.pathExists) then return .nothing
  if ← place.isDir then return .directory
  return .file (text (← IO.FS.readFile place))

/-- The settings that the process environment holds. -/
def processSettings : IO (List (Text × Text)) := do
  let found ← settingNames.mapM fun name => do
    return (← IO.getEnv name).map fun value => (text name, text value)
  return found.filterMap id

def environment (workingDirectory : Path) : IO Environment := do
  let process ← processSettings
  let name := Disk.environmentFileName
  match ← look (workingDirectory ++ [name]), ← look (Path.parent workingDirectory ++ [name]) with
  | .file content, _ => return .ofFile process (some content)
  | .nothing, .file content => return .ofFile process (some content)
  | _, _ => return .ofFile process none

/-- A host with the file at a place and the directories above it. -/
def hostAt (workingDirectory place : Path) : IO Host := do
  let mut engine : Engine := { disk := .ofDirectories [] workingDirectory }
  for n in List.range place.length do
    let p := place.take (n + 1)
    match ← look p with
    | .nothing => pure ()
    | .directory => engine := { engine with disk := engine.disk.set p .directory }
    | .file content => engine := engine.load p content
  return { engine }

/-- Makes the file of a database that there was none of. -/
def keep (place : Path) (after : Host) : IO Unit := do
  match ← look place, after.engine.disk.node? place with
  | .nothing, some (.database _) =>
    let root ← IO.currentDir
    IO.FS.createDirAll (root / shown (Path.parent place).toText)
    IO.FS.writeFile (root / shown place.toText) ""
  | _, _ => pure ()

/-- Prints lines beside the output, each behind its log level if it has one. -/
def printBeside (lines : List (Text × Text)) : IO Unit := do
  let err ← IO.getStderr
  for (level, line) in lines do
    err.putStrLn (shown (if level.isEmpty then line else Text.concat [level, text " | ", line]))

/-- Runs a command line with some settings. -/
def run (settings : AppSettings) (workingDirectory : Path) (argv : List Text) : IO UInt32 := do
  let now := Instant.ofSeconds (← Std.Time.Timestamp.now).toSecondsSinceUnixEpoch.val
  let context := CommandLine.Context.ofSettings settings workingDirectory now
  let path := match CommandLine.parse argv with
    | .ok arguments => CommandLine.databasePath context arguments
    | .error _ => context.databasePath
  let place := Path.resolve workingDirectory path
  match CommandLine.run context .main argv (← hostAt workingDirectory place) with
  | (.error crash, _) =>
    printBeside [([], crash.message)]
    return 1
  | (.ok outcome, after) =>
    keep place after
    printBeside outcome.lines
    IO.print (shown outcome.output)
    return UInt32.ofNat outcome.status

end HourlyUsage.Program

open HourlyUsage in
def main (args : List String) : IO UInt32 := do
  let workingDirectory := Path.steps (text (← IO.currentDir).toString)
  match AppSettings.load (← Program.environment workingDirectory) with
  | .error e =>
    Program.printBeside (e.lines.map fun line => ([], line))
    return 1
  | .ok settings => Program.run settings workingDirectory (args.map text)
