import HourlyUsage.Snapshot.Record
import HourlyUsage.Table.Scan
import HourlyUsage.Wording
/-!
# Queries

A query asks for the usage of the paths below a path in the hour of an instant. `Service.plan`
checks its arguments and lays down the one scan that answers it; everything that can be wrong with
the arguments is found here, before a store is touched.

Sources: `StatsQueryService`, `list_by_prefix` up to the scan that it makes, `time_series_by_path`.
-/
namespace HourlyUsage.Query

/-- A question to the usage table. -/
structure Request where
  cluster : Text
  /-- What the paths start with; none stands for all of them. -/
  path? : Option Text
  /-- The greatest number of records wanted. -/
  limit : Int
  /-- An instant in the hour asked for. -/
  time : Instant

/-- The number of rows in a batch where nothing else is configured. -/
def defaultBatchSize : Int := 100

/-- Why there is no service for a batch size. -/
structure BatchSizeNotPositive where
  batchSize : Int
  deriving DecidableEq

def BatchSizeNotPositive.message (e : BatchSizeNotPositive) : Text :=
  text "default_scan_batch_size must be positive, got " ++ Numeral.ofInt e.batchSize

/-- What answers queries: all it keeps is the greatest number of rows in a batch
(`StatsQueryService`). -/
structure Service where
  batchSize : Int
  positive : 0 < batchSize

/-- Why the arguments of a query are refused. -/
inductive Refusal where
  | limitNotPositive (limit : Int)
  | noInstant (fault : Instant.Fault)
  | noKey (e : SnapshotKey.Invalid)
  deriving DecidableEq

def Refusal.message : Refusal → Text
  | limitNotPositive limit => text "limit must be positive, got " ++ Numeral.ofInt limit
  | noInstant fault => fault.message
  | noKey e => e.message

/-- The scan that answers a query: where it starts, which is also what the keys start with, and how
many rows are wanted. -/
structure Plan where
  bucketStart : Int
  stem : Bytes
  limit : Nat
  batchSize : Int

namespace Service

def ofBatchSize (batchSize : Int) : Except BatchSizeNotPositive Service :=
  if h : 0 < batchSize then .ok ⟨batchSize, h⟩ else .error ⟨batchSize⟩

/-- Checks the arguments of a query. No batch holds more rows than are wanted. -/
def plan (service : Service) (request : Request) : Except Refusal Plan :=
  if request.limit ≤ 0 then .error (.limitNotPositive request.limit)
  else
    match request.time.bucket with
    | .error fault => .error (.noInstant fault)
    | .ok bucketStart =>
      match SnapshotKey.encode bucketStart request.cluster (request.path?.getD []) with
      | .error e => .error (.noKey e)
      | .ok stem =>
        .ok ⟨bucketStart, stem, request.limit.toNat, min request.limit service.batchSize⟩

/-- Why a history of one path over several hours is never given: which hours it covers and how it
is cut into pages is not settled. -/
structure HistoryUnsettled where
  deriving DecidableEq

def HistoryUnsettled.message : HistoryUnsettled → Text :=
  fun _ => text "time_series_by_path is not implemented"

/-- The usage of one path over several hours (`time_series_by_path`). -/
def history (_ : Service) (_cluster _path : Text) (_limit : Int) (_start : Instant) :
    Except HistoryUnsettled (List Record) := .error ⟨⟩

end Service

namespace Plan

/-- The scan of a plan; `number` becomes the number of its while-match filter. -/
def scan (plan : Plan) (number : Nat) : Scan where
  start := plan.stem
  columns := statsColumns
  batchSize := plan.batchSize
  filter := some (.whileMatch number (.startsWith plan.stem))

end Plan

end HourlyUsage.Query
