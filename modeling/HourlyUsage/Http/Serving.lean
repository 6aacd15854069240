import HourlyUsage.Http.CrossOrigin
import HourlyUsage.Http.Listing
import HourlyUsage.Settings.App
import HourlyUsage.Store.Failure
/-!
# The application

Three paths answer to `GET`: the usage of a cluster, a health check, and what the application is. A
path that only has a slash too many or too few at its end is sent to the right spelling. Usage is
queried by one worker of its own for all requests. A failure that a caller can expect becomes a
response; any other escapes, and the client is told no more than that there was one.

Between its start and its end the application has a store. At the start the store is opened and the
settings are logged; at the end the database is tidied up and every connection is closed.

Sources: `lifespan`, `health`, `root`, `get_stats_service`, `list_hdfs_stats`.
-/
namespace HourlyUsage.Http

def appName : Text := text "HDFS Usage Stats"

def appVersion : Text := text "0.1.0"

/-! ## Paths -/

/-- What a path leads to. -/
inductive Route where
  | usage (cluster : Text)
  | health
  | about
  deriving DecidableEq

namespace Route

/-- The path that the names of clusters are put behind. -/
def usageStem : Text := text "/api/v1/hdfs/"

def healthPath : Text := text "/health"

/-- Whether a path is the given one; a line feed may follow it. -/
def isPath (expected path : Text) : Bool := path = expected || path = expected ++ [0x0A]

/-- What a path leads to. The name of a cluster is not empty and has no slash in it. -/
def ofPath? (path : Text) : Option Route :=
  match Text.after? usageStem path with
  | some cluster =>
    if cluster.isEmpty || cluster.contains Path.slash then none else some (usage cluster)
  | none =>
    if isPath healthPath path then some health
    else if isPath [Path.slash] path then some about
    else none

/-- The path with the slashes at its end taken away, or with one put there if there is none. -/
def respell (path : Text) : Text :=
  if path.getLast? = some Path.slash then path.trimRight (· = Path.slash)
  else path ++ [Path.slash]

/-- Where a client is sent whose path is spelled wrongly: on the host that it has asked. -/
def location (host? : Option Text) (target : Target) : Text :=
  let server := (host?.map fun host => text "http://" ++ host).getD []
  encodeText isPlainOctet (Text.concat [server, respell target.path,
    if target.query.isEmpty then [] else 0x3F :: target.query])

/-- The response where a path leads nowhere. -/
def nowhere (host? : Option Text) (target : Target) : Response :=
  if target.path ≠ [Path.slash] && (ofPath? (respell target.path)).isSome then
    .redirect (location host? target)
  else .words 404 (text "Not Found")

end Route

/-! ## Responses -/

/-- A failure that becomes no response. -/
inductive Escape where
  | instant (fault : Instant.Fault)
  | query (f : Query.Failure StoreError)

/-- What comes of a request: a response and, if a failure has escaped, that failure. -/
structure Answer where
  response : Response
  escaped? : Option Escape := none

/-- The application: the origins that it allows and, while it is ready, the store that it
queries. -/
structure App where
  origins : Origins
  service? : Option (StoreId × Query.Service) := none

def healthResponse : Response :=
  .json 200 (.obj [(text "status", .str (text "ok")), (text "version", .str appVersion),
    (text "app_name", .str appName)])

def aboutResponse : Response :=
  .json 200 (.obj [(text "app", .str appName), (text "version", .str appVersion),
    (text "health", .str Route.healthPath)])

/-- The response to a failure that a caller can expect. -/
def failureResponse (f : KnownFailure) : Response :=
  match f.kind with
  | .invalidInput => .words 400 f.message
  | .storeUnavailable => .words 503 f.message
  | .malformedKey => .words 500 (text "Stored statistics could not be decoded")

/-- What is logged of a failure that a caller can expect: all that is not the caller's fault. -/
def noted? (f : KnownFailure) : Option Log.Entry :=
  match f.kind with
  | .invalidInput => none
  | .storeUnavailable => some (.error (text "HDFS stats store unavailable: " ++ f.message))
  | .malformedKey => some (.error (text "Corrupt row key in HDFS usage table: " ++ f.message))

/-- The response to a query, and the host after what is logged of it. -/
def reply (result : Except (Query.Failure StoreError) (List Record)) (h : Host) :
    Except Escape Response × Host :=
  match result with
  | .ok records => (.ok (.json 200 (.arr (records.map Record.response))), h)
  | .error e =>
    match e.known? with
    | none => (.error (.query e), h)
    | some f => (.ok (failureResponse f), ((noted? f).map h.note).getD h)

/-- Answers with the usage of a cluster. Without a store, the parameters do not matter
(`list_hdfs_stats`). -/
def usage (service? : Option (StoreId × Query.Service)) (now : Instant) (cluster : Text)
    (parameters : List (Text × Text)) (h : Host) : Except Escape Response × Host :=
  match service? with
  | none => (.ok (.words 503 (text "HDFS stats store is not initialized")), h)
  | some (s, service) =>
    match Listing.read parameters with
    | .error rejections => (.ok (.detail 422 (.arr (rejections.map Rejection.toJson))), h)
    | .ok listing =>
      match Instant.orNow listing.time? now with
      | .error fault => (.error (.instant fault), h)
      | .ok time =>
        let request : Query.Request := ⟨cluster, some listing.path, listing.limit, time⟩
        let (result, h) := service.list (Host.source .requests s) request h
        reply result h

/-- Answers a request whose path leads somewhere. -/
def follow (app : App) (now : Instant) (route : Route) (parameters : List (Text × Text))
    (h : Host) : Except Escape Response × Host :=
  match route with
  | .usage cluster => usage app.service? now cluster parameters h
  | .health => (.ok healthResponse, h.note (.debug (text "Health endpoint called")))
  | .about => (.ok aboutResponse, h)

/-- The response to a method that a path does not answer to. -/
def wrongMethod : Response :=
  (Response.words 405 (text "Method Not Allowed")).withHeader "allow" (text "GET")

/-- Answers a request, other origins apart. -/
def answer (app : App) (now : Instant) (r : Request) (h : Host) : Except Escape Response × Host :=
  let target := Target.ofText r.target
  match Route.ofPath? target.path with
  | none => (.ok (Route.nowhere (r.header? "host") target), h)
  | some route =>
    if r.method = text "GET" then follow app now route (parameters target.query) h
    else (.ok wrongMethod, h)

/-- Answers a request. -/
def App.handle (app : App) (now : Instant) (r : Request) (h : Host) : Answer × Host :=
  match CrossOrigin.question? r with
  | some (origin, method) => (⟨CrossOrigin.preflight app.origins origin method r, none⟩, h)
  | none =>
    match answer app now r h with
    | (.ok response, h) => (⟨CrossOrigin.told app.origins r response, none⟩, h)
    | (.error e, h) => (⟨.plain 500 (text "Internal Server Error"), some e⟩, h)

/-! ## Start and end -/

inductive StartFailure where
  | store (e : StoreError)
  | batchSize (e : Query.BatchSizeNotPositive)

def bannerEntries (port : Int) : List Log.Entry :=
  [AppSettings.rule 60 0x3D, .info (text "Starting " ++ appName),
    .info (text "FastAPI Server: http://0.0.0.0:" ++ Numeral.ofInt port), AppSettings.rule 60 0x3D]

/-- Opens the store of some settings, for queries of the configured batch size. -/
def start (w : Worker) (s : AppSettings) (workingDirectory : Path) (h : Host) :
    Except StartFailure (StoreId × Query.Service) × Host :=
  let h := (bannerEntries s.port).foldl Host.note h
  match h.openStore w (s.store.resolvedPath workingDirectory) with
  | (.error e, h) => (.error (.store e), h)
  | (.ok store, h) =>
    match Query.Service.ofBatchSize s.store.batchSize with
    | .error e => (.error (.batchSize e), h)
    | .ok service =>
      (.ok (store, service), (s.deploymentEntries workingDirectory).foldl Host.note h)

/-- Gives the store up. -/
def stop (w : Worker) (store : StoreId) (h : Host) : Host :=
  ((h.note (.info (text "Shutting down application"))).checkpoint w store).closeAll w store

/-- Answers requests in turn, each with what the clock says then. -/
def App.handleAll (app : App) : List (Instant × Request) → Host → List Answer × Host
  | [], h => ([], h)
  | (now, r) :: rest, h =>
    let (answer, h) := app.handle now r h
    let (answers, h) := app.handleAll rest h
    (answer :: answers, h)

/-- Starts, answers requests and ends. The application is without a store afterwards; one that does
not start is left as it was (`lifespan`). -/
def App.serve (app : App) (w : Worker) (s : AppSettings) (workingDirectory : Path)
    (requests : List (Instant × Request)) (h : Host) :
    Except StartFailure (List Answer) × App × Host :=
  match start w s workingDirectory h with
  | (.error e, h) => (.error e, app, h)
  | (.ok (store, service), h) =>
    let (answers, h) := { app with service? := some (store, service) }.handleAll requests h
    (.ok answers, { app with service? := none }, stop w store h)

end HourlyUsage.Http
