import HourlyUsage.Store.Scanning
/-!
# Runs of the host

What workers do with the host is a sequence of steps, one operation each, in any order and by any
workers. `Host.events` keeps for every step the host before it and the answer.

Sources: the operations of a store and of its scanners, one step each.

Results:
* `run_invariant`: what every step preserves a whole run does.
* `putRow_leaves`, `bootstrap_leaves`, `checkpoint_eq`, `openScanner_eq`, `closeScanner_eq`: what is
  there after an operation, whatever came of it.
* `SameScans`: the operations that leave scanners, iterations and the memories of filters alone.
-/
namespace HourlyUsage

inductive Operation where
  | newStore (path : Text)
  | bootstrap (s : StoreId)
  | putRow (s : StoreId) (key : Bytes) (family : Text) (cells : Cells)
  | checkpoint (s : StoreId)
  | close (s : StoreId)
  | closeAll (s : StoreId)
  | newFilter
  | openScanner (s : StoreId) (scan : Scan)
  | iterate (i : ScannerId)
  | pull (i : IterationId)
  | closeScanner (i : ScannerId)
  | dropTable (s : StoreId)
  | sever (s : StoreId)

structure Step where
  worker : Worker
  operation : Operation

inductive Answer where
  | done
  | number (n : Nat)
  | row (row : Row)
  | ended
  | failed (e : StoreError)
  | fault (f : Fault)
  deriving DecidableEq

namespace Answer

def ofUnit : Except StoreError Unit → Answer
  | .ok () => done
  | .error e => failed e

def ofNumber : Except StoreError Nat → Answer
  | .ok n => number n
  | .error e => failed e

def ofPull : Pull StoreError → Answer
  | .row r => row r
  | .ended => ended
  | .failed e => failed e

def ofFault : Except Fault Unit → Answer
  | .ok () => done
  | .error f => fault f

def ofDrop : Except StoreError (Except Fault Unit) → Answer
  | .ok r => ofFault r
  | .error e => failed e

end Answer

namespace Host

/-- One step: the answer and the host after it. -/
def perform (h : Host) (step : Step) : Answer × Host :=
  match step.operation with
  | .newStore path => (h.addStore path).map .number id
  | .bootstrap s => (h.bootstrap step.worker s).map .ofUnit id
  | .putRow s key family cells => (h.putRow step.worker s key family cells).map .ofUnit id
  | .checkpoint s => (.done, h.checkpoint step.worker s)
  | .close s => (.done, h.close step.worker s)
  | .closeAll s => (.done, h.closeAll step.worker s)
  | .newFilter => h.newFilter.map .number id
  | .openScanner s scan => (h.openScanner step.worker s scan).map .ofNumber id
  | .iterate i => (h.iterate i).map .number id
  | .pull i => (h.pull i).map .ofPull id
  | .closeScanner i => (h.closeScanner i).map .ofFault id
  | .dropTable s => (h.dropTable step.worker s).map .ofDrop id
  | .sever s => (h.sever step.worker s).map .ofUnit id

def after (h : Host) (steps : List Step) : Host := steps.foldl (fun h step => (h.perform step).2) h

/-- A step of a run, with the host before it and the answer. -/
structure Event where
  before : Host
  step : Step
  answer : Answer

/-- The events of a run. -/
def events : Host → List Step → List Event
  | _, [] => []
  | h, step :: rest => ⟨h, step, (h.perform step).1⟩ :: events (h.perform step).2 rest

@[simp] theorem after_append (h : Host) (steps more : List Step) :
    h.after (steps ++ more) = (h.after steps).after more := List.foldl_append

theorem events_append (h : Host) (steps more : List Step) :
    h.events (steps ++ more) = h.events steps ++ (h.after steps).events more := by
  induction steps generalizing h with
  | nil => rfl
  | cons step rest ih => exact congrArg (List.cons _) (ih (h.perform step).2)

theorem step_mem_of_mem_events {h : Host} {steps : List Step} {e : Event}
    (he : e ∈ h.events steps) : e.step ∈ steps := by
  induction steps generalizing h with
  | nil => cases he
  | cons step rest ih =>
    rcases List.mem_cons.1 he with rfl | he
    · exact List.mem_cons_self ..
    · exact List.mem_cons_of_mem _ (ih he)

theorem answer_of_mem_events {h : Host} {steps : List Step} {e : Event} (he : e ∈ h.events steps) :
    e.answer = (e.before.perform e.step).1 := by
  induction steps generalizing h with
  | nil => cases he
  | cons step rest ih =>
    rcases List.mem_cons.1 he with rfl | he
    · rfl
    · exact ih he

theorem before_of_mem_events {P : Host → Prop} {h : Host} {steps : List Step}
    (hkeeps : ∀ {h}, P h → ∀ step ∈ steps, P (h.perform step).2) (hstart : P h) {e : Event}
    (he : e ∈ h.events steps) : P e.before := by
  induction steps generalizing h with
  | nil => cases he
  | cons step rest ih =>
    rcases List.mem_cons.1 he with rfl | he
    · exact hstart
    · exact ih (fun hp other hother => hkeeps hp other (List.mem_cons_of_mem _ hother))
        (hkeeps hstart step (List.mem_cons_self ..)) he

/-! ### Steps of one kind -/

section

variable {h : Host} {step : Step}

theorem perform_pull {it : IterationId} (hop : step.operation = .pull it) :
    h.perform step = (.ofPull (h.pull it).1, (h.pull it).2) := by
  rw [perform, hop]
  rfl

theorem perform_closeScanner {i : ScannerId} (hop : step.operation = .closeScanner i) :
    h.perform step = (.ofFault (h.closeScanner i).1, (h.closeScanner i).2) := by
  rw [perform, hop]
  rfl

end

/-! ## What is there after an operation -/

section

variable {P : Host → Prop} {h : Host} {w : Worker} {s : StoreId}

/-- What holds after a write, whether it succeeds or not. -/
theorem putRow_leaves {key : Bytes} {family : Text} {cells : Cells}
    (unconnected : ∀ e h', h.connection w s = (.error e, h') → P h')
    (connected : ∀ c h', h.connection w s = (.ok c, h') →
      P { h' with engine := (h'.engine.put c key family cells).2 }) :
    P (h.putRow w s key family cells).2 := by
  unfold putRow
  split
  · next heq => exact unconnected _ _ heq
  · next c h' heq =>
    have hput := connected c h' heq
    split <;> next heq => rw [heq] at hput; exact hput

/-- What holds after a table was wanted, whether there is one then or not. -/
theorem bootstrap_leaves (unmade : P h)
    (unconnected : ∀ disk e h', h.engine.disk.makeParents (h.store s).path = .ok disk →
      Host.connection w s { h with engine := { h.engine with disk } } = (.error e, h') → P h')
    (connected : ∀ disk c h' log, h.engine.disk.makeParents (h.store s).path = .ok disk →
      Host.connection w s { h with engine := { h.engine with disk } } = (.ok c, h') →
      P { h' with engine := (h'.engine.ensureTable c).2, log }) :
    P (h.bootstrap w s).2 := by
  unfold bootstrap
  dsimp only
  split
  · exact unmade
  · next disk hmake =>
    split
    · next heq => exact unconnected disk _ _ hmake heq
    · next c h' heq =>
      have htable := fun log => connected disk c h' log hmake heq
      split <;> next heq => rw [heq] at htable; exact htable _

theorem checkpoint_eq (h : Host) (w : Worker) (s : StoreId) :
    ∃ log, h.checkpoint w s = { (h.connection w s).2 with log } := by
  unfold checkpoint
  split
  · next heq => exact ⟨_, by rw [heq]; rfl⟩
  · next heq => split <;> exact ⟨_, by rw [heq]; rfl⟩

theorem openScanner_eq (h : Host) (w : Worker) (s : StoreId) (scan : Scan) :
    ∃ scanners, (h.openScanner w s scan).2 = { (h.connection w s).2 with scanners } := by
  unfold openScanner
  split
  · next heq => exact ⟨_, by rw [heq]⟩
  · next heq => split <;> exact ⟨_, by rw [heq]⟩

theorem closeScanner_eq (h : Host) (i : ScannerId) :
    ∃ scanners, (h.closeScanner i).2 = { h with scanners } := by
  unfold closeScanner
  dsimp only
  split
  · exact ⟨h.scanners, rfl⟩
  · split <;> exact ⟨_, rfl⟩

end

/-! ## What an operation leaves alone -/

/-- Scanners, iterations and the memories of filters are the same. -/
structure SameScans (h h' : Host) : Prop where
  scanners : h'.scanners = h.scanners
  iterations : h'.iterations = h.iterations
  spent : h'.spent = h.spent

theorem SameScans.refl (h : Host) : SameScans h h := ⟨rfl, rfl, rfl⟩

theorem SameScans.trans {a b c : Host} (h : SameScans a b) (h' : SameScans b c) : SameScans a c :=
  ⟨h'.scanners.trans h.scanners, h'.iterations.trans h.iterations, h'.spent.trans h.spent⟩

theorem connection_sameScans (w : Worker) (s : StoreId) (h : Host) :
    SameScans h (h.connection w s).2 := by
  unfold connection
  dsimp only
  split
  · exact .refl h
  · split <;> exact ⟨rfl, rfl, rfl⟩

theorem bootstrap_sameScans (w : Worker) (s : StoreId) (h : Host) :
    SameScans h (h.bootstrap w s).2 := by
  have hconn := fun disk => connection_sameScans w s { h with engine := { h.engine with disk } }
  refine bootstrap_leaves (.refl h) (fun disk e h' _ heq => ?_) (fun disk c h' log _ heq => ?_)
  · have hsame := heq ▸ hconn disk
    exact ⟨hsame.scanners, hsame.iterations, hsame.spent⟩
  · have hsame := heq ▸ hconn disk
    exact ⟨hsame.scanners, hsame.iterations, hsame.spent⟩

theorem putRow_sameScans (w : Worker) (s : StoreId) (key : Bytes) (family : Text) (cells : Cells)
    (h : Host) : SameScans h (h.putRow w s key family cells).2 := by
  have hconn := connection_sameScans w s h
  refine putRow_leaves (fun e h' heq => ?_) (fun c h' heq => ?_)
  · rw [heq] at hconn; exact hconn
  · rw [heq] at hconn; exact ⟨hconn.scanners, hconn.iterations, hconn.spent⟩

theorem dropTable_sameScans (w : Worker) (s : StoreId) (h : Host) :
    SameScans h (h.dropTable w s).2 := by
  have hconn := connection_sameScans w s h
  unfold dropTable
  split
  · next heq => rw [heq] at hconn; exact hconn
  · next heq => rw [heq] at hconn; exact ⟨hconn.scanners, hconn.iterations, hconn.spent⟩

theorem checkpoint_sameScans (w : Worker) (s : StoreId) (h : Host) :
    SameScans h (h.checkpoint w s) := by
  obtain ⟨log, hcheckpoint⟩ := checkpoint_eq h w s
  have hconn := connection_sameScans w s h
  rw [hcheckpoint]
  exact ⟨hconn.scanners, hconn.iterations, hconn.spent⟩

theorem close_sameScans (w : Worker) (s : StoreId) (h : Host) : SameScans h (h.close w s) := by
  unfold close
  dsimp only
  split
  · exact .refl h
  · exact ⟨rfl, rfl, rfl⟩

theorem sever_sameScans (w : Worker) (s : StoreId) (h : Host) : SameScans h (h.sever w s).2 := by
  have hconn := connection_sameScans w s h
  unfold sever
  split
  · next heq => rw [heq] at hconn; exact hconn
  · next heq => rw [heq] at hconn; exact ⟨hconn.scanners, hconn.iterations, hconn.spent⟩

/-- What a step does to scanners, iterations and the memories of filters. -/
inductive Scans (h : Host) (step : Step) (h' : Host) : Prop where
  | same (hop : ∀ it, step.operation ≠ .pull it) (hsame : SameScans h h')
  | opened (s : StoreId) (scan : Scan) (c : ConnectionId)
      (hop : step.operation = .openScanner s scan)
      (hopen : (h'.engine.connection c).isOpen = true)
      (scanners : h'.scanners = h.scanners ++ [{ connection := c, scan }])
      (iterations : h'.iterations = h.iterations) (spent : h'.spent = h.spent)
  | iterated (i : ScannerId) (hop : step.operation = .iterate i)
      (after : h' = (h.iterate i).2)
  | pulled (it : IterationId) (hop : step.operation = .pull it) (after : h' = (h.pull it).2)
  | closed (i : ScannerId) (hop : step.operation = .closeScanner i)
      (after : h' = h.setScanner i { h.scanner i with isClosed := true })

theorem openScanner_scans (h : Host) (w : Worker) (s : StoreId) (scan : Scan) :
    Scans h ⟨w, .openScanner s scan⟩ (h.openScanner w s scan).2 := by
  have hconn := connection_sameScans w s h
  unfold openScanner
  split
  · next heq => rw [heq] at hconn; exact .same nofun hconn
  · next c h' heq =>
    rw [heq] at hconn
    split
    · next hopen =>
      refine .opened s scan c rfl hopen ?_ hconn.iterations hconn.spent
      rw [← hconn.scanners]
    · exact .same nofun hconn

theorem closeScanner_scans (h : Host) (w : Worker) (i : ScannerId) :
    Scans h ⟨w, .closeScanner i⟩ (h.closeScanner i).2 := by
  unfold closeScanner
  dsimp only
  split
  · exact .same nofun (.refl h)
  · split <;> exact .closed i rfl rfl

theorem perform_scans (h : Host) (step : Step) : Scans h step (h.perform step).2 := by
  obtain ⟨w, operation⟩ := step
  cases operation with
  | newStore path => exact .same nofun ⟨rfl, rfl, rfl⟩
  | bootstrap s => exact .same nofun (bootstrap_sameScans w s h)
  | putRow s key family cells => exact .same nofun (putRow_sameScans w s key family cells h)
  | checkpoint s => exact .same nofun (checkpoint_sameScans w s h)
  | close s => exact .same nofun (close_sameScans w s h)
  | closeAll s => exact .same nofun ⟨rfl, rfl, rfl⟩
  | newFilter => exact .same nofun ⟨rfl, rfl, rfl⟩
  | openScanner s scan => exact openScanner_scans h w s scan
  | iterate i => exact .iterated i rfl rfl
  | pull it => exact .pulled it rfl rfl
  | closeScanner i => exact closeScanner_scans h w i
  | dropTable s => exact .same nofun (dropTable_sameScans w s h)
  | sever s => exact .same nofun (sever_sameScans w s h)

/-! ## Invariants of runs -/

/-- What every step allowed preserves, together with the events up to it, a whole run does. -/
theorem run_invariant (Inv : Host → List Event → Prop) (Allowed : Event → Prop)
    (hstep : ∀ h prior step, Inv h prior → Allowed ⟨h, step, (h.perform step).1⟩ →
      Inv (h.perform step).2 (prior ++ [⟨h, step, (h.perform step).1⟩]))
    {h : Host} {prior : List Event} (steps : List Step) (hinv : Inv h prior)
    (hall : ∀ e ∈ h.events steps, Allowed e) :
    Inv (h.after steps) (prior ++ h.events steps) := by
  induction steps generalizing h prior with
  | nil =>
    rw [events, List.append_nil]
    exact hinv
  | cons step rest ih =>
    have hfirst := hall _ (List.mem_cons_self ..)
    have hrest := ih (hstep h prior step hinv hfirst)
      fun e he => hall e (List.mem_cons_of_mem _ he)
    rwa [List.append_assoc] at hrest

end Host

end HourlyUsage
