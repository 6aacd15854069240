import HourlyUsage.Log.Basic
import HourlyUsage.Query.Request
/-!
# Answering queries

A query opens one scanner, pulls rows until it has as many records as are wanted or the rows end,
and closes the scanner whatever happened. It then logs what the scan has cost. Where the rows come
from is left open: a `Source` says how its state changes.

Sources: `list_by_prefix`, `_create_from_results`, `_close_scanner`, `_log_scan`.

Left out: the field `elapsed_seconds` of the entry that is logged after a scan (`finishedEntry`); it
is read off a clock and nothing hangs on it.
-/
namespace HourlyUsage.Query

/-- What is known of a scanner that could not be closed: the kind of failure and its words. -/
structure CloseFailure where
  kind : Text
  message : Text
  deriving DecidableEq

/-- Somewhere that rows come from. Its state is a `σ`, an open scanner is a `κ`, and what goes
wrong is an `ε`. -/
structure Source (σ κ ε : Type) where
  /-- A number for a new while-match filter. -/
  newFilter : σ → Nat × σ
  openScanner : Scan → σ → Except ε κ × σ
  pull : κ → σ → Pull ε × σ
  /-- An upper bound on the rows still to come. -/
  bound : κ → σ → Nat
  /-- What the scanner has cost so far. -/
  metrics : κ → σ → Metrics
  /-- Closes a scanner; says what went wrong, if something did. -/
  close : κ → σ → Option CloseFailure × σ
  note : Log.Entry → σ → σ

/-- Why a query has no answer. -/
inductive Failure (ε : Type) where
  | refused (refusal : Refusal)
  /-- The source failed. -/
  | source (e : ε)
  /-- A row key could not be read. -/
  | key (e : SnapshotKey.DecodeError)
  /-- An owner could not be read. -/
  | owner (e : Utf8.DecodeError)

/-- The record of a row. -/
def recordOf {ε : Type} (row : Row) : Except (Failure ε) Record :=
  match SnapshotKey.decode row.key with
  | .error e => .error (.key e)
  | .ok key =>
    match Record.ofRow key row with
    | .error e => .error (.owner e)
    | .ok record => .ok record

section

variable {σ κ ε : Type}

/-- Pulls records until there are `limit` of them, rows without cells not counted. `acc` holds those
collected, last one first; `fuel` is at least the number of rows still to come
(`_create_from_results`). -/
def collect (pull : σ → Pull ε × σ) (limit : Nat) :
    Nat → List Record → σ → Except (Failure ε) (List Record) × σ
  | 0, acc, s => (.ok acc.reverse, s)
  | fuel + 1, acc, s =>
    match pull s with
    | (.ended, s) => (.ok acc.reverse, s)
    | (.failed e, s) => (.error (.source e), s)
    | (.row row, s) =>
      if row.isEmpty then collect pull limit fuel acc s
      else
        match recordOf row with
        | .error e => (.error e, s)
        | .ok record =>
          if limit ≤ acc.length + 1 then (.ok (record :: acc).reverse, s)
          else collect pull limit fuel (record :: acc) s

/-- What is logged before a scan is opened. -/
def plannedEntry (plan : Plan) : Log.Entry :=
  .debug (Text.concat [text "HDFS stats scan: bucket=", Numeral.ofInt plan.bucketStart,
    text " row_prefix=", Quoted.ofBytes plan.stem])

def closeFailedEntry (e : CloseFailure) : Log.Entry :=
  .event .warning (text "Failed to close HDFS stats scanner")
    [(text "error", .str e.message), (text "error_type", .str e.kind)]

def megabyte : Nat := 1024 * 1024

/-- What is logged after a scan (`_log_scan`). -/
def finishedEntry (cluster : Text) (succeeded : Bool) (m : Metrics) : Log.Entry :=
  .event .info (text "HDFS stats scan finished")
    [(text "cluster", .str cluster),
      (text "outcome", .str (text (if succeeded then "ok" else "error"))),
      (text "rows", .nat m.rows), (text "columns", .nat m.columns), (text "bytes", .nat m.bytes),
      (text "megabytes", .nat (m.bytes / megabyte)), (text "round_trips", .nat m.roundTrips)]

def succeeded {α : Type} : Except (Failure ε) α → Bool
  | .ok _ => true
  | .error _ => false

/-- Closes a scanner and logs what the scan has cost. A scanner that cannot be closed is logged and
does not change the answer (`_close_scanner`). -/
def finish (source : Source σ κ ε) (cluster : Text) (ok : Bool) (scanner : κ) (s : σ) : σ :=
  let s := match source.close scanner s with
    | (none, s) => s
    | (some e, s) => source.note (closeFailedEntry e) s
  source.note (finishedEntry cluster ok (source.metrics scanner s)) s

/-- Carries a plan out. -/
def run (source : Source σ κ ε) (cluster : Text) (plan : Plan) (s : σ) :
    Except (Failure ε) (List Record) × σ :=
  let s := source.note (plannedEntry plan) s
  let (number, s) := source.newFilter s
  match source.openScanner (plan.scan number) s with
  | (.error e, s) => (.error (.source e), s)
  | (.ok scanner, s) =>
    let (answer, s) := collect (source.pull scanner) plan.limit (source.bound scanner s + 1) [] s
    (answer, finish source cluster (succeeded answer) scanner s)

/-- Answers a query: the records of the paths asked for, by path (`list_by_prefix`). -/
def Service.list (service : Service) (source : Source σ κ ε) (request : Request) (s : σ) :
    Except (Failure ε) (List Record) × σ :=
  match service.plan request with
  | .error refusal => (.error (.refused refusal), s)
  | .ok plan => run source request.cluster plan s

end

end HourlyUsage.Query
