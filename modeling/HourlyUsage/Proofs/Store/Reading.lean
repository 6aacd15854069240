import HourlyUsage.Proofs.Query.Collect
import HourlyUsage.Proofs.Store.Iterations
import HourlyUsage.Proofs.Store.Serving
/-!
# Reading a store without interruption

A worker opens a scanner on a store, takes one iteration and pulls it while nobody else does
anything. Whatever the connection is in the middle of, the pulls give the reference answer of the
table that it sees.

Sources: `open_scanner`, the iterator of a scanner, `__enter__` and `__exit__`.

Results:
* `ready_openScanner`, `reads_iterate`: a worker who sees a table can read it from its beginning.
* `reads_pull`, `delivers_of_reads`: pulls give the rows of the reference answer.
* `pull_of_unfit`, `source_of_unfit`: the first pull of a scan whose statements are too large fails.
* `readAll_of_fits`, `readAll_of_unfit`: what a scan gives that is read to its end.
-/
namespace HourlyUsage

namespace Host

/-- The worker has, or gets, a connection to the store that sees the table. -/
def Sees (h : Host) (w : Worker) (s : StoreId) (t : Table) : Prop :=
  ∃ c h', h.connection w s = (.ok c, h') ∧ h'.engine.view c = .ok t

theorem Sees.congr {h h' : Host} {w : Worker} {s : StoreId} {t : Table} (hsees : h.Sees w s t)
    (hengine : h'.engine = h.engine) (hstores : h'.stores = h.stores) : h'.Sees w s t := by
  obtain ⟨c, before, hconnection, hview⟩ := hsees
  have hstore : h'.store s = h.store s := by rw [Host.store, Host.store, hstores]
  cases hcurrent : (h.store s).current? w with
  | some c' =>
    rw [connection_of_current hcurrent] at hconnection
    cases hconnection
    exact ⟨c, h', connection_of_current (hstore ▸ hcurrent), by rw [hengine]; exact hview⟩
  | none =>
    rcases hconnect : h.engine.connect (h.store s).path with ⟨fault | c', engine⟩
    · rw [connection, hcurrent] at hconnection
      dsimp only at hconnection
      rw [hconnect] at hconnection
      cases hconnection
    · rw [connection_of_connect hcurrent hconnect] at hconnection
      cases hconnection
      refine ⟨c, _, connection_of_connect (hstore ▸ hcurrent) ?_, hview⟩
      rw [hengine, hstore]
      exact hconnect

/-- An open scanner whose connection sees the table, with a memory of its filter in which nothing
that it gives was rejected. -/
structure Ready (h : Host) (i : ScannerId) (scan : Scan) (t : Table) : Prop where
  isScanner : i < h.scanners.length
  isScan : (h.scanner i).scan = scan
  shows_ : h.Shows i t
  memory : scan.Memory t h.spent

/-- An iteration that has given `n` rows of the reference answer. -/
structure Reads (h : Host) (i : ScannerId) (it : IterationId) (scan : Scan) (t : Table) (n : Nat) :
    Prop extends Ready h i scan t where
  isIteration : (h.iteration it).scanner = i
  stands : scan.Stands t (h.iteration it).progress n

variable {h : Host} {w : Worker} {s : StoreId} {i : ScannerId} {it : IterationId} {scan : Scan}
  {t : Table} {n : Nat}

/-! ## The beginning -/

/-- A worker who sees a table can open a scanner on it. -/
theorem ready_openScanner (hsees : h.Sees w s t) (hfresh : scan.Fresh h.spent) :
    ∃ i h', h.openScanner w s scan = (.ok i, h') ∧ h'.Ready i scan t := by
  obtain ⟨c, before, hconnection, hview⟩ := hsees
  obtain ⟨hopen, -⟩ := Engine.view_eq_ok_iff.1 hview
  have hsame := connection_sameScans w s h
  rw [hconnection] at hsame
  have hspent : before.spent = h.spent := hsame.spent
  let after : Host :=
    { before with scanners := before.scanners ++ [{ connection := c, scan }] }
  have hscanner : after.scanner before.scanners.length = { connection := c, scan } := by
    simp [after, Host.scanner]
  refine ⟨before.scanners.length, after, ?_, by simp [after], by rw [hscanner], ?_, ?_⟩
  · rw [openScanner, hconnection]
    dsimp only
    rw [if_pos hopen]
  · rw [Shows, hscanner]; exact ⟨rfl, hview⟩
  · exact (hspent ▸ hfresh : scan.Fresh before.spent).memory t

theorem new_iterate (hr : h.Ready i scan t) :
    (h.iterate i).2.Ready i scan t ∧ ((h.iterate i).2.iteration (h.iterate i).1).scanner = i ∧
      ((h.iterate i).2.iteration (h.iterate i).1).progress = .fresh := by
  have hiteration : (h.iterate i).2.iteration (h.iterate i).1 = { scanner := i } := by
    simp [iterate, iteration]
  rw [hiteration]
  exact ⟨⟨hr.isScanner, hr.isScan, hr.shows_, hr.memory⟩, rfl, rfl⟩

/-- A new iteration stands at the beginning. -/
theorem reads_iterate (hr : h.Ready i scan t) :
    (h.iterate i).2.Reads i (h.iterate i).1 scan t 0 ∧
      (h.iterate i).2.bound (h.iterate i).1 = t.entries.length := by
  obtain ⟨hnew, hit, hprogress⟩ := new_iterate hr
  refine ⟨⟨hnew, hit, ?_⟩, ?_⟩
  · rw [hprogress]; exact scan.stands_fresh t
  · rw [bound, hprogress, hit, hnew.shows_.2, Scan.viewSize]
    exact Nat.zero_add _

theorem connection_log (w : Worker) (s : StoreId) (h : Host) :
    (h.connection w s).2.log = h.log := by
  unfold connection
  dsimp only
  split
  · rfl
  · split <;> rfl

theorem openScanner_new {w : Worker} {s : StoreId} {h' : Host}
    (hopen : h.openScanner w s scan = (.ok i, h')) :
    h'.spent = h.spent ∧ h'.log = h.log ∧ (h'.scanner i).metrics = {} := by
  have hsame := (connection_sameScans w s h).spent
  have hlog := connection_log w s h
  unfold openScanner at hopen
  split at hopen
  · cases hopen
  · next c before hconnection =>
    rw [hconnection] at hsame hlog
    split at hopen
    · cases hopen
      exact ⟨hsame, hlog, by simp [scanner]⟩
    · cases hopen

/-! ## Pulling -/

theorem pull_log (h : Host) (it : IterationId) : (h.pull it).2.log = h.log := by
  unfold pull
  dsimp only
  split <;> rfl

/-- A pull takes the iteration one row further. -/
theorem reads_pull (hr : h.Reads i it scan t n) (hvalid : scan.Valid) (hfits : scan.Fits t) :
    (h.pull it).1 = Scan.answerAt (scan.kept (scan.above t)) n ∧
      (h.pull it).2.Reads i it scan t (n + 1) := by
  obtain ⟨hanswer, hmemory, hstands⟩ :=
    pull_stands hvalid hfits hr.isScanner hr.isScan hr.shows_ hr.isIteration hr.memory hr.stands
  obtain ⟨metrics, hscanner, -⟩ := pull_scanner h it hr.isScanner
  refine ⟨hanswer, ⟨⟨?_, ?_, hr.shows_.pull hr.isScanner hr.isIteration, hmemory⟩, ?_, hstands⟩⟩
  · rw [pull_scanners_length]; exact hr.isScanner
  · rw [hscanner]; exact hr.isScan
  · rw [pull_iteration_scanner]; exact hr.isIteration

/-- The first pull of a scan that does not fit fails, and leaves its scanner as it was. -/
theorem pull_of_unfit (hr : h.Ready i scan t) (hit : (h.iteration it).scanner = i)
    (hprogress : (h.iteration it).progress = .fresh) (hvalid : scan.Valid)
    (hunfit : ¬ scan.Fits t) :
    (h.pull it).1 = .failed (.unavailable .scan (refusal scan)) ∧
      (h.pull it).2.scanner i = h.scanner i ∧ (h.pull it).2.Ready i scan t := by
  have hopen : (h.scanner (h.iteration it).scanner).isClosed = false := by
    rw [hit]; exact hr.shows_.1
  have hpull := scanPull_of_shows hr.isScan hr.shows_ hit
  rw [Scan.pull_of_refused hprogress (nextBatch_of_unfit hvalid hunfit)] at hpull
  have hscanner : (h.pull it).2.scanner i = h.scanner i := by
    have hset := pull_scanners h it hopen
    rw [hit, hpull] at hset
    simp [scanner, hset, hr.isScanner]
  refine ⟨by rw [pull_answer h it hopen, hpull], hscanner, ⟨?_, ?_, ?_, ?_⟩⟩
  · rw [pull_scanners_length]; exact hr.isScanner
  · rw [hscanner]; exact hr.isScan
  · exact hr.shows_.pull hr.isScanner hit
  · rw [pull_spent h it hopen, hpull]; exact hr.memory

/-- Pulls give the rows of the reference answer that are left. -/
theorem delivers_of_reads (hr : h.Reads i it scan t n) (hvalid : scan.Valid)
    (hfits : scan.Fits t) :
    Query.Delivers (fun h => h.pull it) ((scan.kept (scan.above t)).drop n) h := by
  generalize hrest : (scan.kept (scan.above t)).drop n = rest
  induction rest generalizing h n with
  | nil =>
    obtain ⟨hanswer, -⟩ := reads_pull hr hvalid hfits
    have hnone : (scan.kept (scan.above t))[n]? = none := by
      rw [← List.head?_drop, hrest]; rfl
    rw [Scan.answerAt, hnone] at hanswer
    exact hanswer
  | cons row rest ih =>
    obtain ⟨hanswer, hnext⟩ := reads_pull hr hvalid hfits
    have hsome : (scan.kept (scan.above t))[n]? = some row := by
      rw [← List.head?_drop, hrest]; rfl
    rw [Scan.answerAt, hsome] at hanswer
    refine ⟨hanswer, ih hnext ?_⟩
    rw [← List.tail_drop, hrest]
    rfl

/-- A store that its worker sees is a source that gives the rows of the reference answer. -/
theorem source_delivers (hsees : h.Sees w s t) (hfresh : scan.Fresh h.spent)
    (hvalid : scan.Valid) (hfits : scan.Fits t) :
    ∃ scanner h', (source w s).openScanner scan h = (.ok scanner, h') ∧
      Query.Delivers ((source w s).pull scanner) (scan.kept (scan.above t)) h' ∧
      (source w s).bound scanner h' = t.entries.length := by
  obtain ⟨i, before, hopen, hready⟩ := ready_openScanner hsees hfresh
  obtain ⟨hreads, hbound⟩ := reads_iterate hready
  refine ⟨(i, (before.iterate i).1), (before.iterate i).2, ?_, ?_, hbound⟩
  · rw [source]
    dsimp only
    rw [hopen]
  · have hdelivers := delivers_of_reads hreads hvalid hfits
    rwa [List.drop_zero] at hdelivers

/-- A store gives a worker who sees it a scanner whose first pull fails, if the scan does not fit.
Nothing is logged by that, and it costs nothing. -/
theorem source_of_unfit (hsees : h.Sees w s t) (hfresh : scan.Fresh h.spent)
    (hvalid : scan.Valid) (hunfit : ¬ scan.Fits t) :
    ∃ i it h', (source w s).openScanner scan h = (.ok (i, it), h') ∧
      (h'.pull it).1 = .failed (.unavailable .scan (refusal scan)) ∧
      (h'.pull it).2.Ready i scan t ∧ (h'.pull it).2.log = h.log ∧
      ((h'.pull it).2.scanner i).metrics = {} := by
  obtain ⟨i, before, hopen, hready⟩ := ready_openScanner hsees hfresh
  obtain ⟨-, hlog, hmetrics⟩ := openScanner_new hopen
  obtain ⟨hnew, hit, hprogress⟩ := new_iterate hready
  obtain ⟨hanswer, hscanner, hstill⟩ := pull_of_unfit hnew hit hprogress hvalid hunfit
  refine ⟨i, (before.iterate i).1, (before.iterate i).2, by simp only [source, hopen], hanswer,
    hstill, ?_, ?_⟩
  · rw [pull_log]
    exact hlog
  · rw [hscanner]
    exact hmetrics

/-! ## Reading everything -/

theorem closeScanner_of_ready (hr : h.Ready i scan t) :
    h.closeScanner i = (.ok (), h.setScanner i { h.scanner i with isClosed := true }) := by
  obtain ⟨hunclosed, hview⟩ := hr.shows_
  rw [closeScanner]
  dsimp only
  rw [hunclosed, if_neg Bool.false_ne_true]
  exact if_pos (Engine.view_eq_ok_iff.1 hview).1

end Host

end HourlyUsage
