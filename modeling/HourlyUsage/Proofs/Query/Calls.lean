import HourlyUsage.Query.Source
/-!
# What a query asks of its source

`Source.recorded` is a source that keeps a list of what it was asked for and what it answered, log
entries included. A query on it gets the same answer and leaves the source in the same state, so the
list shows what the query does with any source.

Sources: the calls that `list_by_prefix`, `_create_from_results` and `_close_scanner` make.

Results:
* `collect_recorded`, `finish_recorded`, `list_recorded`: keeping the list changes nothing.
* `run_opens`: carrying a plan out opens one scan, the plan's.
-/
namespace HourlyUsage.Query

variable {σ κ ε : Type}

/-- What a query asks of a source, with the answer. -/
inductive Call (κ ε : Type) where
  | opened (scan : Scan) (outcome : Except ε κ)
  | pulled (scanner : κ) (outcome : Pull ε)
  | closed (scanner : κ) (failure? : Option CloseFailure)
  | noted (entry : Log.Entry)

namespace Call

def scan? : Call κ ε → Option Scan
  | opened scan _ => some scan
  | _ => none

/-- The scans that were asked for, the first one first. -/
def scans (calls : List (Call κ ε)) : List Scan := calls.filterMap scan?

theorem scans_append (calls more : List (Call κ ε)) :
    scans (calls ++ more) = scans calls ++ scans more := List.filterMap_append

end Call

/-- An answer, kept in the list behind the calls before it. -/
def kept {α : Type} (call : α → Call κ ε) (calls : List (Call κ ε)) (answer : α × σ) :
    α × σ × List (Call κ ε) :=
  (answer.1, answer.2, calls ++ [call answer.1])

/-- The source with a list of the calls that it has answered, the first one first. -/
def Source.recorded (source : Source σ κ ε) : Source (σ × List (Call κ ε)) κ ε where
  newFilter s := ((source.newFilter s.1).1, (source.newFilter s.1).2, s.2)
  openScanner scan s := kept (.opened scan) s.2 (source.openScanner scan s.1)
  pull scanner s := kept (.pulled scanner) s.2 (source.pull scanner s.1)
  bound scanner s := source.bound scanner s.1
  metrics scanner s := source.metrics scanner s.1
  close scanner s := kept (.closed scanner) s.2 (source.close scanner s.1)
  note entry s := (source.note entry s.1, s.2 ++ [.noted entry])

section

variable (source : Source σ κ ε) (cluster : Text) (scanner : κ) (calls : List (Call κ ε))

theorem pull_recorded (s : σ) : source.recorded.pull scanner (s, calls) =
    kept (.pulled scanner) calls (source.pull scanner s) := rfl

/-- Collecting asks for nothing but rows. -/
theorem collect_recorded (limit fuel : Nat) (acc : List Record) (s : σ) :
    ∃ pulls : List (Pull ε),
      collect (source.recorded.pull scanner) limit fuel acc (s, calls) =
        ((collect (source.pull scanner) limit fuel acc s).1,
          (collect (source.pull scanner) limit fuel acc s).2,
          calls ++ pulls.map (.pulled scanner)) := by
  induction fuel generalizing acc s calls with
  | zero => exact ⟨[], by rw [List.map_nil, List.append_nil]; rfl⟩
  | succ fuel ih =>
    rw [collect, collect, pull_recorded]
    obtain ⟨outcome, after⟩ := source.pull scanner s
    cases outcome with
    | ended => exact ⟨[.ended], rfl⟩
    | failed e => exact ⟨[.failed e], rfl⟩
    | row row =>
      have hmore : ∀ acc, ∃ pulls : List (Pull ε),
          collect (source.recorded.pull scanner) limit fuel acc
              (after, calls ++ [.pulled scanner (.row row)]) =
            ((collect (source.pull scanner) limit fuel acc after).1,
              (collect (source.pull scanner) limit fuel acc after).2,
              calls ++ pulls.map (.pulled scanner)) := by
        intro acc
        obtain ⟨pulls, hpulls⟩ := ih (calls ++ [.pulled scanner (.row row)]) acc after
        exact ⟨.row row :: pulls, by rw [hpulls, List.append_assoc]; rfl⟩
      dsimp only [kept]
      split
      · exact hmore acc
      · split
        · exact ⟨[.row row], rfl⟩
        · split
          · exact ⟨[.row row], rfl⟩
          · exact hmore _

/-- The calls that close a scanner: where it fails to close, a warning follows, and last of all what
the scan has cost. -/
def closing (ok : Bool) (failure? : Option CloseFailure) (m : Metrics) : List (Call κ ε) :=
  .closed scanner failure? ::
    (failure?.toList.map fun e => .noted (closeFailedEntry e)) ++
      [.noted (finishedEntry cluster ok m)]

theorem scans_closing (ok : Bool) (failure? : Option CloseFailure) (m : Metrics) :
    Call.scans (closing (ε := ε) cluster scanner ok failure? m) = [] := by
  cases failure? <;> rfl

/-- The state that a scanner leaves behind when it is closed. -/
def Source.closed (s : σ) : σ :=
  match source.close scanner s with
  | (none, after) => after
  | (some e, after) => source.note (closeFailedEntry e) after

theorem finish_recorded (ok : Bool) (s : σ) :
    finish source.recorded cluster ok scanner (s, calls) =
      (finish source cluster ok scanner s,
        calls ++ closing cluster scanner ok (source.close scanner s).1
          (source.metrics scanner (source.closed scanner s))) := by
  have hclose : source.recorded.close scanner (s, calls) =
      kept (.closed scanner) calls (source.close scanner s) := rfl
  unfold finish Source.closed closing
  rw [hclose]
  obtain ⟨failure?, after⟩ := source.close scanner s
  cases failure? with
  | none => exact congrArg (Prod.mk _) (List.append_assoc ..)
  | some e =>
    refine congrArg (Prod.mk _) ?_
    exact (List.append_assoc ..).trans (List.append_assoc ..)

/-- The number of a plan's filter, and the source when its scan is to be opened. -/
def Source.prepared (plan : Plan) (s : σ) : Nat × σ :=
  source.newFilter (source.note (plannedEntry plan) s)

def Source.opens (plan : Plan) (s : σ) : Except ε κ × σ :=
  source.openScanner (plan.scan (source.prepared plan s).1) (source.prepared plan s).2

/-- What is collected for a plan from a scanner that was just opened. -/
def Source.collected (plan : Plan) (s : σ) : Except (Failure ε) (List Record) × σ :=
  collect (source.pull scanner) plan.limit (source.bound scanner s + 1) [] s

/-- What is in the list when the scan of a plan has been opened. -/
def opening (plan : Plan) (number : Nat) (outcome : Except ε κ) : List (Call κ ε) :=
  [.noted (plannedEntry plan), .opened (plan.scan number) outcome]

end

section

variable {source : Source σ κ ε} {cluster : Text} {plan : Plan} {s after : σ}

theorem opens_recorded (source : Source σ κ ε) (plan : Plan) (s : σ) (calls : List (Call κ ε)) :
    source.recorded.opens plan (s, calls) =
      ((source.opens plan s).1, (source.opens plan s).2,
        calls ++ opening plan (source.prepared plan s).1 (source.opens plan s).1) :=
  congrArg (fun calls => ((source.opens plan s).1, (source.opens plan s).2, calls))
    (List.append_assoc ..)

theorem run_of_refused {e : ε} (hopen : source.opens plan s = (.error e, after)) :
    run source cluster plan s = (.error (.source e), after) := by
  unfold Source.opens Source.prepared at hopen
  simp only [run, hopen]

theorem run_of_opened {scanner : κ} (hopen : source.opens plan s = (.ok scanner, after)) :
    run source cluster plan s =
      ((source.collected scanner plan after).1,
        finish source cluster (succeeded (source.collected scanner plan after).1) scanner
          (source.collected scanner plan after).2) := by
  unfold Source.opens Source.prepared at hopen
  simp only [run, hopen, Source.collected]

end

section

variable (source : Source σ κ ε) (cluster : Text) (plan : Plan) (s : σ) (calls : List (Call κ ε))

/-- Carrying a plan out gives what it gives without the list, and opens one scan. -/
theorem run_opens : ∃ more : List (Call κ ε),
    run source.recorded cluster plan (s, calls) =
      ((run source cluster plan s).1, (run source cluster plan s).2, calls ++ more) ∧
    Call.scans more = [plan.scan (source.prepared plan s).1] := by
  have hrecorded := opens_recorded source plan s calls
  rcases hopen : source.opens plan s with ⟨e | scanner, after⟩
  · rw [hopen] at hrecorded
    rw [run_of_refused hopen, run_of_refused hrecorded]
    exact ⟨_, rfl, rfl⟩
  · rw [hopen] at hrecorded
    obtain ⟨pulls, hcollect⟩ := collect_recorded source scanner
      (calls ++ opening plan (source.prepared plan s).1 (.ok scanner)) plan.limit
      (source.bound scanner after + 1) [] after
    have hcollected : source.recorded.collected scanner plan
        (after, calls ++ opening plan (source.prepared plan s).1 (.ok scanner)) =
          ((source.collected scanner plan after).1, (source.collected scanner plan after).2,
            calls ++ opening plan (source.prepared plan s).1 (.ok scanner) ++
              pulls.map (.pulled scanner)) := hcollect
    rw [run_of_opened hopen, run_of_opened hrecorded, hcollected]
    dsimp only
    rw [finish_recorded, List.append_assoc, List.append_assoc]
    refine ⟨_, rfl, ?_⟩
    have hpulls : Call.scans (pulls.map (Call.pulled (κ := κ) scanner)) = [] := by
      rw [Call.scans, List.filterMap_map, List.filterMap_eq_nil_iff]
      exact fun _ _ => rfl
    rw [Call.scans_append, Call.scans_append, hpulls, scans_closing]
    rfl

/-- A query gives what it gives without the list. -/
theorem list_recorded (service : Service) (request : Request) : ∃ more : List (Call κ ε),
    service.list source.recorded request (s, calls) =
      ((service.list source request s).1, (service.list source request s).2, calls ++ more) := by
  unfold Service.list
  split
  · exact ⟨[], by rw [List.append_nil]⟩
  · next plan _ =>
    obtain ⟨more, hrun, -⟩ := run_opens source request.cluster plan s calls
    exact ⟨more, hrun⟩

end

end HourlyUsage.Query
