import HourlyUsage.CommandLine.Arguments
import HourlyUsage.Settings.App
import HourlyUsage.Store.Failure
/-!
# Running a command line

The arguments are read, logging is set up, the store is opened, and one query is answered: a line of
JSON for each record. What is logged goes beside it. The exit status is 0 for an answer, 1 for a
failure that a caller can expect and 2 for a wrong command line.

The usage lines come before the words for a wrong command line, and at the head of the help.

Sources: `main` of the command line; the usage lines, the help and the errors of the parser of
`parse_args`.
-/
namespace HourlyUsage.CommandLine

/-! ## Usage and help -/

def programName : Text := text "hdfs-stats"

/-- What the usage line shows. The later lines are set in below the program's name. -/
def usageLines : List Text :=
  let lead := text "usage: " ++ programName ++ [blank]
  let indent := Text.fill lead.length blank
  [lead ++ text "[-h] [--path PATH] [--limit LIMIT] [--attime ATTIME]",
    indent ++ text "[--db DB] [--log-level LOG_LEVEL]", indent ++ text "cluster"]

def descriptionColumn : Nat := 24

/-- What is described, and its description; on a line of its own if what is described is too long
for the column. -/
def describe (subject description : String) : List Text :=
  let left := Text.fill 2 blank ++ text subject
  let right := text description
  if left.length + 2 ≤ descriptionColumn then
    [left ++ Text.fill (descriptionColumn - left.length) blank ++ right]
  else [left, Text.fill descriptionColumn blank ++ right]

/-- The help, line by line. -/
def helpLines : List Text :=
  List.flatten [usageLines, [[]],
    [text "List hourly HDFS usage stats for paths under a prefix on a cluster."], [[]],
    [text "positional arguments:"],
    describe "cluster" "Cluster identifier, e.g. cluster1@dc1", [[]],
    [text "options:"],
    describe "-h, --help" "show this help message and exit",
    describe "--path PATH" "Path prefix (default: all paths)",
    describe "--limit LIMIT" "Maximum records (default: 100)",
    describe "--attime ATTIME" "Reference time in epoch seconds (default: now)",
    describe "--db DB" "Path to the usage store (default: HDFS_STATS_DB_PATH)",
    describe "--log-level LOG_LEVEL" "Log level (default: HDFS_USAGE_LOG_LEVEL)"]

/-- What is said about a wrong command line, line by line. -/
def errorLines (e : UsageError) : List Text :=
  usageLines ++
    Text.splitAll 0x0A (Text.concat [programName, text ": error: ", e.message])

/-- Lines, each with a line feed at its end. -/
def unlines (lines : List Text) : Text := lines.flatMap fun line => line ++ [0x0A]

/-! ## Runs -/

/-- What a run leaves behind: the exit status, the output, and the lines beside it with the names of
their log levels. -/
structure Outcome where
  status : Nat
  output : Text := []
  lines : List (Text × Text) := []
  deriving DecidableEq

/-- Why a run breaks off without an exit status. -/
inductive Crash where
  | level (e : Log.UnknownLevel)
  | instant (fault : Instant.Fault)
  | query (f : Query.Failure StoreError)

def Crash.message : Crash → Text
  | level e => e.message
  | instant fault => fault.message
  | query f => f.message

/-- What is configured, and what the clock says. -/
structure Context where
  logDefaults : Log.Defaults
  databasePath : Text
  batchSize : Int
  now : Instant

def Context.ofSettings (s : AppSettings) (workingDirectory : Path) (now : Instant) : Context :=
  ⟨s.logDefaults, s.store.resolvedPath workingDirectory, s.store.batchSize, now⟩

/-- The output for some records: a line for each. -/
def output (records : List Record) : Text := unlines (records.map fun r => r.response.compact)

/-- Answers a query from a store that is open, and closes the store. -/
def answer (w : Worker) (batchSize : Int) (request : Query.Request) (s : StoreId) (h : Host) :
    Except KnownFailure (Except (Query.Failure StoreError) (List Record)) × Host :=
  match Query.Service.ofBatchSize batchSize with
  | .error e => (.error e.known, h.close w s)
  | .ok service =>
    let (result, h) := service.list (Host.source w s) request h
    (.ok result, h.close w s)

/-- Opens the store and answers the query. -/
def query (w : Worker) (path : Text) (batchSize : Int) (request : Query.Request) (h : Host) :
    Except (Query.Failure StoreError) (Except KnownFailure (List Record)) × Host :=
  match h.openStore w path with
  | (.error e, h) =>
    match e.known? with
    | some f => (.ok (.error f), h)
    | none => (.error (.source e), h)
  | (.ok s, h) =>
    match answer w batchSize request s h with
    | (.error f, h) => (.ok (.error f), h)
    | (.ok (.ok records), h) => (.ok (.ok records), h)
    | (.ok (.error e), h) =>
      match e.known? with
      | some f => (.ok (.error f), h)
      | none => (.error e, h)

/-- What is logged, as lines of text in the order in which it was logged. -/
def shownLines (sink : Log.Sink) (log : List Log.Entry) : List (Text × Text) :=
  (log.reverse.filter sink.accepts).flatMap Log.Entry.lines

/-- The path of the database file: the one that was asked for, or else the configured one. -/
def databasePath (context : Context) (arguments : Arguments) : Text :=
  Log.orDefault arguments.database? context.databasePath

/-- Carries arguments out. What is logged in the meantime is shown, and not kept in the host's
log. -/
def execute (context : Context) (w : Worker) (arguments : Arguments) (h : Host) :
    Except Crash Outcome × Host :=
  match Log.Sink.configure context.logDefaults arguments.logLevel? (some (text "text")) with
  | .error e => (.error (.level e), h)
  | .ok (sink, first) =>
    match Instant.orNow arguments.time? context.now with
    | .error fault => (.error (.instant fault), h)
    | .ok time =>
      let request : Query.Request :=
        ⟨arguments.cluster, some arguments.path, arguments.limit, time⟩
      let (result, after) := query w (databasePath context arguments) context.batchSize request
        { h with log := [first] }
      let done := { after with log := h.log }
      match result with
      | .error f => (.error (.query f), done)
      | .ok (.ok records) =>
        (.ok { status := 0, output := output records, lines := shownLines sink after.log }, done)
      | .ok (.error f) =>
        (.ok { status := 1, lines := shownLines sink (.error f.line :: after.log) }, done)

/-- Runs a command line (`main`). -/
def run (context : Context) (w : Worker) (argv : List Text) (h : Host) :
    Except Crash Outcome × Host :=
  match parse argv with
  | .error .helpWanted => (.ok { status := 0, output := unlines helpLines }, h)
  | .error (.wrong e) =>
    (.ok { status := 2, lines := (errorLines e).map fun line => ([], line) }, h)
  | .ok arguments => execute context w arguments h

end HourlyUsage.CommandLine
