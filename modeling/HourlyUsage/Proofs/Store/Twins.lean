import HourlyUsage.Proofs.Database.Twins
import HourlyUsage.Proofs.Store.Growth
/-!
# Hosts that cannot be told apart

Two hosts are told apart by a sequence of steps after which the next step is answered differently.
Hosts whose engines are twins never are, since every step is answered alike and leaves twins again.

Sources: the operations of a store and of its scanners.

Results:
* `twins_perform`: one step of any worker.
* `Twins.sameAnswers`: every sequence of steps.
-/
namespace HourlyUsage.Host

/-- Whatever is done from now on, the step after that is answered the same. -/
def SameAnswers (h h' : Host) : Prop :=
  ∀ (steps : List Step) (step : Step), (∀ x ∈ steps, x.Keeps) → step.Keeps →
    ((h.after steps).perform step).1 = ((h'.after steps).perform step).1

/-- The hosts have the same stores and scanners, and engines that are twins. -/
structure Twins (h h' : Host) (c : ConnectionId) : Prop where
  engine : h.engine.Twins h'.engine c
  stores : h'.stores = h.stores
  scanners : h'.scanners = h.scanners
  iterations : h'.iterations = h.iterations
  spent : h'.spent = h.spent
  nextFilter : h'.nextFilter = h.nextFilter

/-- The answers are the same, and the hosts after them are twins. -/
def Alike {α : Type} (c : ConnectionId) (r r' : α × Host) : Prop := r'.1 = r.1 ∧ r.2.Twins r'.2 c

namespace Twins

variable {h h' : Host} {c : ConnectionId}

theorem store (ht : h.Twins h' c) (s : StoreId) : h'.store s = h.store s := by
  rw [Host.store, Host.store, ht.stores]

theorem setStore (ht : h.Twins h' c) (s : StoreId) (store : Store) :
    (h.setStore s store).Twins (h'.setStore s store) c := by
  refine ⟨ht.engine, ?_, ht.scanners, ht.iterations, ht.spent, ht.nextFilter⟩
  simp [Host.setStore, ht.stores]

theorem note (ht : h.Twins h' c) (entry entry' : Log.Entry) :
    (h.note entry).Twins (h'.note entry') c :=
  ⟨ht.engine, ht.stores, ht.scanners, ht.iterations, ht.spent, ht.nextFilter⟩

theorem withEngine (ht : h.Twins h' c) {e e' : Engine} (he : e.Twins e' c) :
    Twins { h with engine := e } { h' with engine := e' } c :=
  ⟨he, ht.stores, ht.scanners, ht.iterations, ht.spent, ht.nextFilter⟩

theorem connection (ht : h.Twins h' c) (w : Worker) (s : StoreId) :
    Alike c (h.connection w s) (h'.connection w s) := by
  unfold Host.connection
  dsimp only
  rw [ht.store]
  split
  · exact ⟨rfl, ht⟩
  · have hconnect := ht.engine.connect (h.store s).path
    generalize h.engine.connect (h.store s).path = r at hconnect ⊢
    generalize h'.engine.connect (h.store s).path = r' at hconnect ⊢
    obtain ⟨outcome, e⟩ := r
    obtain ⟨outcome', e'⟩ := r'
    obtain ⟨rfl : outcome' = outcome, he : e.Twins e' c⟩ := hconnect
    cases outcome' with
    | error f => exact ⟨rfl, ht.withEngine he⟩
    | ok x => exact ⟨rfl, (ht.withEngine he).setStore s _⟩

theorem bootstrap (ht : h.Twins h' c) (w : Worker) (s : StoreId) :
    Alike c (h.bootstrap w s) (h'.bootstrap w s) := by
  unfold Host.bootstrap
  dsimp only
  rw [ht.store, ht.engine.disk]
  split
  · exact ⟨rfl, ht⟩
  · next disk hmake =>
    have hdisk := ht.withEngine (ht.engine.withDisk (Disk.sameFiles_makeParents hmake))
    have hconnection := hdisk.connection w s
    generalize Host.connection w s { h with engine := { h.engine with disk } } = r
      at hconnection ⊢
    generalize Host.connection w s { h' with engine := { h'.engine with disk } } = r'
      at hconnection ⊢
    obtain ⟨outcome, g⟩ := r
    obtain ⟨outcome', g'⟩ := r'
    obtain ⟨rfl : outcome' = outcome, hg : g.Twins g' c⟩ := hconnection
    cases outcome' with
    | error x => exact ⟨rfl, hg⟩
    | ok x =>
      have htable := hg.engine.ensureTable x
      dsimp only
      generalize g.engine.ensureTable x = r at htable ⊢
      generalize g'.engine.ensureTable x = r' at htable ⊢
      obtain ⟨outcome, e⟩ := r
      obtain ⟨outcome', e'⟩ := r'
      obtain ⟨rfl : outcome' = outcome, he : e.Twins e' c⟩ := htable
      cases outcome' with
      | error f => exact ⟨rfl, hg.withEngine he⟩
      | ok u => exact ⟨rfl, (hg.withEngine he).note _ _⟩

theorem putRow (ht : h.Twins h' c) (w : Worker) (s : StoreId) (key : Bytes) (family : Text)
    (cells : Cells) :
    Alike c (h.putRow w s key family cells) (h'.putRow w s key family cells) := by
  have hconnection := ht.connection w s
  unfold Host.putRow
  generalize h.connection w s = r at hconnection ⊢
  generalize h'.connection w s = r' at hconnection ⊢
  obtain ⟨outcome, g⟩ := r
  obtain ⟨outcome', g'⟩ := r'
  obtain ⟨rfl : outcome' = outcome, hg : g.Twins g' c⟩ := hconnection
  cases outcome' with
  | error x => exact ⟨rfl, hg⟩
  | ok x =>
    have hput := hg.engine.put x key family cells
    dsimp only
    rw [hg.store]
    generalize g.engine.put x key family cells = r at hput ⊢
    generalize g'.engine.put x key family cells = r' at hput ⊢
    obtain ⟨outcome, e⟩ := r
    obtain ⟨outcome', e'⟩ := r'
    obtain ⟨rfl : outcome' = outcome, he : e.Twins e' c⟩ := hput
    rcases outcome' with (f | x) | u
    · exact ⟨rfl, hg.withEngine he⟩
    · exact ⟨rfl, hg.withEngine he⟩
    · exact ⟨rfl, hg.withEngine he⟩

theorem sever (ht : h.Twins h' c) (w : Worker) (s : StoreId) :
    Alike c (h.sever w s) (h'.sever w s) := by
  have hconnection := ht.connection w s
  unfold Host.sever
  generalize h.connection w s = r at hconnection ⊢
  generalize h'.connection w s = r' at hconnection ⊢
  obtain ⟨outcome, g⟩ := r
  obtain ⟨outcome', g'⟩ := r'
  obtain ⟨rfl : outcome' = outcome, hg : g.Twins g' c⟩ := hconnection
  cases outcome' with
  | error x => exact ⟨rfl, hg⟩
  | ok x => exact ⟨rfl, hg.withEngine (hg.engine.close x)⟩

theorem checkpoint (ht : h.Twins h' c) (w : Worker) (s : StoreId) :
    (h.checkpoint w s).Twins (h'.checkpoint w s) c := by
  have hconnection := ht.connection w s
  unfold Host.checkpoint
  generalize h.connection w s = r at hconnection ⊢
  generalize h'.connection w s = r' at hconnection ⊢
  obtain ⟨outcome, g⟩ := r
  obtain ⟨outcome', g'⟩ := r'
  obtain ⟨rfl : outcome' = outcome, hg : g.Twins g' c⟩ := hconnection
  cases outcome' with
  | error x => exact hg.note _ _
  | ok x =>
    dsimp only
    cases g.engine.checkpoint x <;> cases g'.engine.checkpoint x <;> exact hg.note _ _

theorem close (ht : h.Twins h' c) (w : Worker) (s : StoreId) :
    (h.close w s).Twins (h'.close w s) c := by
  unfold Host.close
  dsimp only
  rw [ht.store]
  split
  · exact ht
  · next x _ => exact (ht.withEngine (ht.engine.close x)).setStore s _

theorem closeAll (ht : h.Twins h' c) (w : Worker) (s : StoreId) :
    (h.closeAll w s).Twins (h'.closeAll w s) c := by
  have hall : ∀ (xs : List ConnectionId) {e e' : Engine}, e.Twins e' c →
      (xs.foldl Engine.close e).Twins (xs.foldl Engine.close e') c := by
    intro xs
    induction xs with
    | nil => exact id
    | cons x rest ih => exact fun he => ih (he.close x)
  unfold Host.closeAll
  dsimp only
  rw [ht.store]
  exact ((ht.withEngine (hall _ ht.engine)).setStore s _).note _ _

theorem openScanner (ht : h.Twins h' c) (w : Worker) (s : StoreId) (scan : Scan) :
    Alike c (h.openScanner w s scan) (h'.openScanner w s scan) := by
  have hconnection := ht.connection w s
  unfold Host.openScanner
  generalize h.connection w s = r at hconnection ⊢
  generalize h'.connection w s = r' at hconnection ⊢
  obtain ⟨outcome, g⟩ := r
  obtain ⟨outcome', g'⟩ := r'
  obtain ⟨rfl : outcome' = outcome, hg : g.Twins g' c⟩ := hconnection
  cases outcome' with
  | error x => exact ⟨rfl, hg⟩
  | ok x =>
    dsimp only
    rw [hg.store, hg.engine.openAlike, hg.scanners]
    split
    · exact ⟨rfl, hg.engine, hg.stores, rfl, hg.iterations, hg.spent, hg.nextFilter⟩
    · exact ⟨rfl, hg⟩

theorem scanner (ht : h.Twins h' c) (i : ScannerId) : h'.scanner i = h.scanner i := by
  rw [Host.scanner, Host.scanner, ht.scanners, ht.engine.connections]

theorem iteration (ht : h.Twins h' c) (it : IterationId) : h'.iteration it = h.iteration it := by
  rw [Host.iteration, Host.iteration, ht.iterations, ht.scanners]

theorem setScanner (ht : h.Twins h' c) (i : ScannerId) (sc : Scanner) :
    (h.setScanner i sc).Twins (h'.setScanner i sc) c := by
  refine ⟨ht.engine, ht.stores, ?_, ht.iterations, ht.spent, ht.nextFilter⟩
  simp [Host.setScanner, ht.scanners]

theorem setProgress (ht : h.Twins h' c) (it : IterationId) (progress : Progress) :
    (h.setProgress it progress).Twins (h'.setProgress it progress) c := by
  refine ⟨ht.engine, ht.stores, ht.scanners, ?_, ht.spent, ht.nextFilter⟩
  simp [Host.setProgress, ht.iterations]

theorem closeScanner (ht : h.Twins h' c) (i : ScannerId) :
    Alike c (h.closeScanner i) (h'.closeScanner i) := by
  have hset := ht.setScanner i { h.scanner i with isClosed := true }
  unfold Host.closeScanner
  dsimp only
  rw [ht.scanner]
  split
  · exact ⟨rfl, ht⟩
  · rw [hset.engine.openAlike]
    split
    · exact ⟨rfl, hset⟩
    · exact ⟨rfl, hset⟩

/-- A pull reads the same, and what it fixes in a transaction is the same too. -/
theorem pull (ht : h.Twins h' c) (it : IterationId) : Alike c (h.pull it) (h'.pull it) := by
  unfold Host.pull
  dsimp only
  rw [ht.iteration, ht.scanner, ht.engine.view, ht.spent]
  split
  · exact ⟨rfl, ht.setProgress it _⟩
  · refine ⟨rfl, setProgress (setScanner ?_ _ _) it _⟩
    split
    · exact ⟨ht.engine.afterRead _, ht.stores, ht.scanners, ht.iterations, rfl, ht.nextFilter⟩
    · exact ⟨ht.engine, ht.stores, ht.scanners, ht.iterations, rfl, ht.nextFilter⟩

end Twins

/-- Every step is answered alike, and leaves twins. -/
theorem twins_perform {h h' : Host} {c : ConnectionId} (ht : h.Twins h' c) {step : Step}
    (hkeeps : step.Keeps) : Alike c (h.perform step) (h'.perform step) := by
  have hmap : ∀ {α : Type} (f : α → Answer) {r r' : α × Host}, Alike c r r' →
      Alike c (r.map f id) (r'.map f id) := fun f _ _ hr => ⟨congrArg f hr.1, hr.2⟩
  obtain ⟨w, operation⟩ := step
  cases operation with
  | newStore path =>
    refine ⟨congrArg Answer.number (congrArg List.length ht.stores), ht.engine, ?_, ht.scanners,
      ht.iterations, ht.spent, ht.nextFilter⟩
    exact congrArg (· ++ [{ path }]) ht.stores
  | bootstrap s => exact hmap _ (ht.bootstrap w s)
  | putRow s key family cells => exact hmap _ (ht.putRow w s key family cells)
  | checkpoint s => exact ⟨rfl, ht.checkpoint w s⟩
  | close s => exact ⟨rfl, ht.close w s⟩
  | closeAll s => exact ⟨rfl, ht.closeAll w s⟩
  | newFilter =>
    exact ⟨congrArg Answer.number ht.nextFilter, ht.engine, ht.stores, ht.scanners, ht.iterations,
      ht.spent, congrArg (· + 1) ht.nextFilter⟩
  | openScanner s scan => exact hmap _ (ht.openScanner w s scan)
  | iterate i =>
    refine ⟨congrArg Answer.number (congrArg List.length ht.iterations), ht.engine, ht.stores,
      ht.scanners, ?_, ht.spent, ht.nextFilter⟩
    exact congrArg (· ++ [{ scanner := i }]) ht.iterations
  | pull it => exact hmap _ (ht.pull it)
  | closeScanner i => exact hmap _ (ht.closeScanner i)
  | dropTable s => exact absurd rfl (hkeeps s)
  | sever s => exact hmap _ (ht.sever w s)

/-- Twins are never told apart. -/
theorem Twins.sameAnswers {h h' : Host} {c : ConnectionId} (ht : h.Twins h' c) :
    h.SameAnswers h' := by
  intro steps step hkeep hkeeps
  induction steps generalizing h h' with
  | nil => exact (twins_perform ht hkeeps).1.symm
  | cons first rest ih =>
    have hfirst := twins_perform ht (hkeep first (List.mem_cons_self ..))
    exact ih hfirst.2 fun x hx => hkeep x (List.mem_cons_of_mem _ hx)

end HourlyUsage.Host
