import HourlyUsage.Proofs.Store.Delivery
import HourlyUsage.Proofs.Store.Growth
import HourlyUsage.Proofs.Store.Scanners
/-!
# Scans between writes and closes

A scan of a range goes on while other workers, and its own, write rows, scan, and close connections.
No row of the range is lost by that, none is given twice, and no scan that was cut short looks like
one that has come to its end.

The table is what the scanner's connection sees: the committed state, unless the connection is in
the middle of a transaction.

Sources: the iterator of a scanner, with `_fetch_batch`; `put_row`, `checkpoint_wal`, `close` and
`close_all` of a store.

Hypotheses: nobody removes the table as a whole (`Step.Keeps`), and the scan's filter is its own
(`Owns`, `Spares`). Writes and fetches may fail.

Results:
* `delivers_perform`: what one step of any worker preserves.
* `range_is_delivered`: what is promised of the rows given so far and of the next pull, in any run.
-/
namespace HourlyUsage

namespace Host

open Pulled

def sees (h : Host) (it : IterationId) : Except Fault Table :=
  h.engine.view (h.scanner (h.iteration it).scanner).connection

/-- Whether a pull fetches a batch, as its scanner counts them. -/
def fetches (h : Host) (it : IterationId) : Bool :=
  !(h.scanner (h.iteration it).scanner).isClosed &&
    decide ((h.scanPull it).2.metrics.roundTrips ≠
      (h.scanner (h.iteration it).scanner).metrics.roundTrips)

def nextPull (h : Host) (it : IterationId) : Pulled :=
  ⟨h.sees it, h.fetches it, .ofPull (h.pull it).1⟩

def pullsOf (it : IterationId) (events : List Event) : List Pulled :=
  (events.filter (Event.isPull it)).map fun e => ⟨e.before.sees it, e.before.fetches it, e.answer⟩

/-- The iteration cannot go on without another batch: there is a table from which a pull would fetch
one. -/
def NeedsBatch (h : Host) (it : IterationId) : Prop :=
  ∃ t : Table,
    ((h.scanner (h.iteration it).scanner).scan.pull (.ok t : View StoreError)
      ⟨(h.iteration it).progress, h.spent,
        (h.scanner (h.iteration it).scanner).metrics⟩).2.metrics.roundTrips ≠
      (h.scanner (h.iteration it).scanner).metrics.roundTrips

/-- What is promised of an iteration of a scan: of the rows that it has given in some pulls, and of
the pull that comes next. -/
structure Faithful (scan : Scan) (h : Host) (it : IterationId) (pulls : List Pulled) : Prop where
  ascending : (yielded pulls).Pairwise fun a b => a.key < b.key
  covered : ∀ row ∈ yielded pulls, scan.Covers row.key ∧ row.Holds scan.columns
  /-- A row has the cells that it had in the table from which its batch was fetched. -/
  cells : ∀ row, (h.pull it).1 = .row row →
    ∃ t, lastFetched? (pulls ++ [h.nextPull it]) = some t ∧ ∀ f q,
      row.cell? f q = if Table.isRequested scan.columns f q then t.cell? row.key f q else none
  /-- At the end, every key of the range that held a requested cell at the first pull has a row. -/
  complete : (h.pull it).1 = .ended → (h.scanner (h.iteration it).scanner).isClosed = false →
    Unfailed pulls → ∃ first, firstSeen? (pulls ++ [h.nextPull it]) = some first ∧
      ∀ key, scan.Covers key →
        (∃ f q, Table.isRequested scan.columns f q = true ∧ (first.cell? key f q).isSome = true) →
        ∃ row ∈ yielded pulls, row.key = key
  /-- Where the connection has been closed and a batch is needed, the pull fails. -/
  closed : (h.engine.connection (h.scanner (h.iteration it).scanner).connection).isOpen = false →
    (h.scanner (h.iteration it).scanner).isClosed = false → h.NeedsBatch it →
    (h.pull it).1 = .failed (.unavailable .scan .closed)

/-- What the events of a run have made of a scanner for a range. -/
structure Delivers (i : ScannerId) (scan : Scan) (h : Host) (prior : List Event) : Prop where
  sound : h.Sound
  does : h.Does i scan
  fresh : scan.Fresh h.spent
  unstarted : ∀ it, h.iterations.length ≤ it → pullsOf it prior = []
  delivery : ∀ it, (h.iteration it).scanner = i →
    Delivery scan (h.iteration it).progress (h.scanner i).isClosed
      (h.engine.view (h.scanner i).connection) (pullsOf it prior)

section

variable {h : Host} {i : ScannerId} {scan : Scan} {prior : List Event} {step : Step}

theorem Opened.delivers (ho : h.Opened i scan) (hs : h.Sound) : h.Delivers i scan [] where
  sound := hs
  does := ho.does
  fresh := ho.fresh
  unstarted _ _ := rfl
  delivery it hit := by rw [ho.unpulled it hit]; exact delivery_fresh scan _ _

theorem pullsOf_unpulled {it : IterationId} {e : Event} (he : e.isPull it = false)
    (prior : List Event) : pullsOf it (prior ++ [e]) = pullsOf it prior := by
  rw [pullsOf, filter_isPull_unpulled he, pullsOf]

theorem pullsOf_pull (w : Worker) (it x : IterationId) :
    pullsOf x (prior ++ [⟨h, ⟨w, .pull it⟩, .ofPull (h.pull it).1⟩]) =
      pullsOf x prior ++ if it = x ∧ x < h.iterations.length then [h.nextPull x] else [] := by
  rw [pullsOf, filter_isPull_pull, List.map_append, pullsOf]
  split
  · next heq => rw [heq.1]; rfl
  · rfl

theorem connection_lt (hs : h.Sound) (hi : i < h.scanners.length) :
    (h.scanner i).connection < h.engine.connections.length := by
  apply hs.scanners _
  rw [scanner, List.getD_eq_getElem?_getD, List.getElem?_eq_getElem hi]
  exact List.getElem_mem hi

/-! ## One step -/

/-- Steps that leave the scanner alone: the table may have grown, and the connection or the scanner
may have been closed. -/
theorem Delivers.untouched (hd : h.Delivers i scan prior) (hkeeps : step.Keeps)
    (hspares : Spares scan step) (hu : Untouched i scan h (h.perform step).2)
    (hne : ∀ it, (h.iteration it).scanner = i → step.operation ≠ .pull it) (a : Answer) :
    (h.perform step).2.Delivers i scan (prior ++ [⟨h, step, a⟩]) := by
  have hlater := later_perform hd.sound hkeeps (connection_lt hd.sound hd.does.isScanner)
  have hsound := sound_perform hd.sound hkeeps
  have hdoes := does_perform hd.does hspares
  generalize (h.perform step).2 = h' at hu hlater hsound hdoes ⊢
  have hconnection : (h'.scanner i).connection = (h.scanner i).connection := by
    rcases hu.scanner with heq | heq <;> rw [heq]
  have hold : ∀ p pulls, Delivery scan p (h.scanner i).isClosed
      (h.engine.view (h.scanner i).connection) pulls →
      Delivery scan p (h'.scanner i).isClosed (h'.engine.view (h'.scanner i).connection) pulls := by
    intro p pulls hdelivery
    have hgrown := hdelivery.later hlater
    rw [hconnection]
    rcases hu.scanner with heq | heq
    · rw [heq]; exact hgrown
    · rw [heq]; exact hgrown.close
  have hfresh : scan.Fresh h'.spent := fun filter hf =>
    ⟨(hd.fresh filter hf).nodup, fun n hn hmem => (hd.fresh filter hf).unspent n hn
      ((hu.memory n (by rw [Scan.numbers, hf]; exact hn)).2 hmem)⟩
  refine ⟨hsound, hdoes, hfresh, ?_, ?_⟩
  · intro it hit
    have hbefore := Nat.le_trans hu.length hit
    rw [pullsOf_unpulled (isPull_unstarted hbefore a)]
    exact hd.unstarted it hbefore
  · intro it hit
    rw [pullsOf_unpulled (isPull_untouched hu hne hit a)]
    rcases Nat.lt_or_ge it h.iterations.length with hlt | hge
    · rw [(hu.old it hlt).2 hit]
      exact hold _ _ (hd.delivery it ((hu.old it hlt).1.1 hit))
    · rw [hu.new it hge hit, hd.unstarted it hge]
      exact delivery_fresh scan _ _

theorem Delivers.pullResult (hd : h.Delivers i scan prior) (hvalid : scan.Valid)
    (hranged : scan.Ranged) {it : IterationId} (hit : (h.iteration it).scanner = i)
    (view : View StoreError) :
    scan.PullResult view ⟨(h.iteration it).progress, h.spent, (h.scanner i).metrics⟩
      (scan.pull view ⟨(h.iteration it).progress, h.spent, (h.scanner i).metrics⟩) :=
  Scan.pull_cases hvalid.positive hranged view hd.fresh (hd.delivery it hit).keeps

theorem Delivers.scanPull (hd : h.Delivers i scan prior) {it : IterationId}
    (hit : (h.iteration it).scanner = i) :
    h.scanPull it = scan.pull (fetchable scan (h.engine.view (h.scanner i).connection))
      ⟨(h.iteration it).progress, h.spent, (h.scanner i).metrics⟩ := by
  rw [Host.scanPull, hit, hd.does.isScan]

theorem nextPull_of_open {it : IterationId} (hit : (h.iteration it).scanner = i)
    (hopen : (h.scanner i).isClosed = false) :
    h.nextPull it = ⟨h.engine.view (h.scanner i).connection,
      decide ((h.scanPull it).2.metrics.roundTrips ≠ (h.scanner i).metrics.roundTrips),
      .ofPull (h.scanPull it).1⟩ := by
  have hanswer := pull_answer h it (by rw [hit]; exact hopen)
  rw [nextPull, hanswer, sees, fetches, hit, hopen]
  rfl

theorem Delivers.pulled (hd : h.Delivers i scan prior) (hvalid : scan.Valid)
    (hranged : scan.Ranged) (w : Worker) {it : IterationId} (hit : (h.iteration it).scanner = i) :
    (h.pull it).2.Delivers i scan (prior ++ [⟨h, ⟨w, .pull it⟩, .ofPull (h.pull it).1⟩]) := by
  have hlt := lt_of_iteration_scanner hd.does.isScanner hit
  have hkeeps : Step.Keeps ⟨w, .pull it⟩ := nofun
  have hspares : Spares scan ⟨w, .pull it⟩ := nofun
  have hlater : Later (h.engine.view (h.scanner i).connection)
      ((h.pull it).2.engine.view (h.scanner i).connection) :=
    later_perform hd.sound hkeeps (connection_lt hd.sound hd.does.isScanner)
  obtain ⟨metrics, hscanner, -⟩ := pull_scanner h it hd.does.isScanner
  have hself : Delivery scan (h.pullProgress it) (h.scanner i).isClosed
      (h.engine.view (h.scanner i).connection) (pullsOf it prior ++ [h.nextPull it]) := by
    have hbefore := hd.delivery it hit
    cases hopen : (h.scanner i).isClosed with
    | true =>
      have hclosed : (h.scanner (h.iteration it).scanner).isClosed = true := by
        rw [hit]; exact hopen
      rw [hopen] at hbefore
      rw [pullProgress, hclosed]
      refine hbefore.finish true ?_ fun hnot => nomatch hnot
      rw [nextPull, pull_of_closed h it hclosed]
      rfl
    | false =>
      have hresult := hd.pullResult hvalid hranged hit
        (fetchable scan (h.engine.view (h.scanner i).connection))
      rw [← hd.scanPull hit] at hresult
      rw [hopen] at hbefore
      rw [nextPull_of_open hit hopen, pullProgress, hit, hopen]
      exact hbefore.pull rfl hresult
  have hspent : (h.pull it).2.spent = h.spent := by
    cases hopen : (h.scanner (h.iteration it).scanner).isClosed with
    | true => rw [pull_of_closed h it hopen]; rfl
    | false =>
      rw [pull_spent h it hopen, hd.scanPull hit]
      exact (hd.pullResult hvalid hranged hit _).same_spent
  refine ⟨sound_perform hd.sound hkeeps, does_perform hd.does hspares, ?_, ?_, ?_⟩
  · exact hspent ▸ hd.fresh
  · intro x hx
    have hx' : h.iterations.length ≤ x := by rwa [← pull_iterations_length h it]
    rw [pullsOf_pull, if_neg fun hc => absurd hc.2 (Nat.not_lt.2 hx'), List.append_nil]
    exact hd.unstarted x hx'
  · intro x hx
    rw [pull_iteration_scanner] at hx
    rw [hscanner, pullsOf_pull]
    by_cases hxit : it = x
    · subst hxit
      rw [if_pos ⟨rfl, hlt⟩, pull_iteration_self h hlt]
      exact hself.later hlater
    · rw [if_neg fun hc => hxit hc.1, List.append_nil, pull_iteration_of_ne h (Ne.symm hxit)]
      exact (hd.delivery x hx).later hlater

/-- What one step of any worker preserves. -/
theorem delivers_perform (hd : h.Delivers i scan prior) (hvalid : scan.Valid)
    (hranged : scan.Ranged) (hkeeps : step.Keeps) (hspares : Spares scan step) :
    (h.perform step).2.Delivers i scan (prior ++ [⟨h, step, (h.perform step).1⟩]) := by
  rcases scanner_cases hd.does hspares with ⟨hu, hne⟩ | ⟨it, hit, hop⟩
  · exact hd.untouched hkeeps hspares hu hne _
  · obtain ⟨w, operation⟩ := step
    obtain rfl : operation = .pull it := hop
    exact hd.pulled hvalid hranged w hit

/-! ## What it means for the rows -/

theorem Delivers.faithful (hd : h.Delivers i scan prior) (hvalid : scan.Valid)
    (hranged : scan.Ranged) {it : IterationId} (hit : (h.iteration it).scanner = i) :
    Faithful scan h it (pullsOf it prior) := by
  have hdelivery := hd.delivery it hit
  have hgiven : ∀ row ∈ yielded (pullsOf it prior),
      row ∈ yielded (pullsOf it prior) ++ (h.iteration it).progress.pending :=
    fun row hrow => List.mem_append_left _ hrow
  have hresult := hd.pullResult hvalid hranged hit
    (fetchable scan (h.engine.view (h.scanner i).connection))
  rw [← hd.scanPull hit] at hresult
  refine ⟨(List.pairwise_append.1 hdelivery.ascending).1, ?_, ?_, ?_, ?_⟩
  · intro row hrow
    exact ⟨(Scan.inRange_none_iff_covers hranged row.key).1
      (hdelivery.inside row (hgiven row hrow)), hdelivery.holds row (hgiven row hrow)⟩
  · intro row hrow
    cases hopen : (h.scanner i).isClosed with
    | true =>
      rw [pull_of_closed h it (by rw [hit]; exact hopen)] at hrow
      cases hrow
    | false =>
      rw [pull_answer h it (by rw [hit]; exact hopen)] at hrow
      rw [nextPull_of_open hit hopen]
      generalize h.scanPull it = r at hresult hrow ⊢
      obtain ⟨answer, after⟩ := r
      subst hrow
      rw [hopen] at hdelivery
      obtain ⟨t, ht, hmem⟩ := hdelivery.row_of_table rfl hresult
      exact ⟨t, ht, fun f q => Table.cell?_of_mem_rows hmem f q⟩
  · intro hended hopen hunfailed
    rw [pull_answer h it hopen] at hended
    rw [hit] at hopen
    rw [nextPull_of_open hit hopen]
    generalize h.scanPull it = r at hresult hended ⊢
    obtain ⟨answer, after⟩ := r
    subst hended
    rw [hopen] at hdelivery
    obtain ⟨first, hfirst, hrows⟩ := hdelivery.all_given rfl hresult hunfailed
    refine ⟨first, hfirst, ?_⟩
    rintro key hcovers ⟨f, q, hrequested, hcell⟩
    obtain ⟨v, hv⟩ := Option.isSome_iff_exists.1 hcell
    obtain ⟨row, hrow, rfl⟩ := (first.exists_row_iff scan.columns key).2 ⟨f, q, v, hrequested, hv⟩
    exact hrows row (List.mem_filter.2
      ⟨hrow, (Scan.inRange_none_iff_covers hranged row.key).2 hcovers⟩)
  · intro hclosed hopen hneeds
    rw [pull_answer h it hopen]
    obtain ⟨t, ht⟩ := hneeds
    rw [hit, hd.does.isScan] at ht
    obtain ⟨last?, hwants⟩ := (hd.pullResult hvalid hranged hit (.ok t)).wants ht
    rw [hit] at hclosed
    rw [Engine.view_of_closed hclosed] at hresult
    exact Scan.PullResult.failed_of_wants rfl hresult hwants

end

/-! ## Runs -/

/-- **No row is lost, given twice or cut off.** Whatever was done before a worker opens a scan of a
range with a filter of its own and whatever workers do while its iterations are pulled: the rows that
an iteration has given ascend strictly, lie in the range and hold cells that are asked for; the next
pull gives a row as it was in the table from which its batch was fetched; if it comes to the end,
every row of the range that was there at the first pull has been given; and if a batch is needed and
the connection has been closed, it fails. -/
theorem range_is_delivered {start : Host} (hbegins : start.Begins) (opening : List Step)
    (hkept : ∀ step ∈ opening, step.Keeps) {w : Worker} {s : StoreId} {i : ScannerId} {scan : Scan}
    {opened : Host} (hopen : (start.after opening).openScanner w s scan = (.ok i, opened))
    (howns : (start.after opening).Owns scan) (hvalid : scan.Valid) (hranged : scan.Ranged)
    (steps : List Step) (hall : ∀ step ∈ steps, step.Keeps ∧ Spares scan step) {it : IterationId}
    (hit : ((opened.after steps).iteration it).scanner = i) :
    Faithful scan (opened.after steps) it (pullsOf it (opened.events steps)) := by
  have hsound := sound_after hbegins.sound opening hkept
  have hkeeps : Step.Keeps ⟨w, .openScanner s scan⟩ := nofun
  have hopened : opened.Sound := by
    have hafter := sound_perform hsound hkeeps
    rw [show ((start.after opening).perform ⟨w, .openScanner s scan⟩).2 =
      ((start.after opening).openScanner w s scan).2 from rfl, hopen] at hafter
    exact hafter
  have hrun := run_invariant (Delivers i scan) (fun e => e.step.Keeps ∧ Spares scan e.step)
    (fun _ _ _ hd hok => delivers_perform hd hvalid hranged hok.1 hok.2) steps
    ((opened_openScanner hopen howns).delivers hopened)
    fun e he => hall e.step (step_mem_of_mem_events he)
  exact hrun.faithful hvalid hranged hit

/-- A scan for the keys that begin with a key, one row in a batch. -/
def rangeScan : Scan where
  start := [1]
  batchSize := 1
  filter := some (.whileMatch 0 (.startsWith [1]))

def rangeOpening : List Step :=
  [.newStore (text "usage.db"), .bootstrap 0, .putRow 0 [1, 0] (text "i") [(text "quota", [7])],
    .putRow 0 [1, 2] (text "i") [(text "quota", [8])], .newFilter].map (Step.mk .main)

/-- A scanner on a store in a file, with two rows of the range. -/
def rangeHost : Host := (((ofDisk ⟨[], []⟩).after rangeOpening).openScanner .main 0 rangeScan).2

/-- An iteration is started and pulled twice; in between another worker writes, who then closes all
connections. -/
def rangeSteps : List Step :=
  [⟨.main, .iterate 0⟩, ⟨.main, .pull 0⟩,
    ⟨.requests, .putRow 0 [1, 1] (text "i") [(text "quota", [9])]⟩, ⟨.main, .pull 0⟩,
    ⟨.requests, .closeAll 0⟩]

/-- The row written behind the first one is given, and the pull on the closed connection fails. -/
theorem closed_range_is_delivered :
    Faithful rangeScan (rangeHost.after rangeSteps) 0 (pullsOf 0 (rangeHost.events rangeSteps)) ∧
      (yielded (pullsOf 0 (rangeHost.events rangeSteps))).map Row.key = [[1, 0], [1, 1]] ∧
      Answer.ofPull ((rangeHost.after rangeSteps).pull 0).1 =
        .failed (.unavailable .scan .closed) := by
  have hkept : ∀ step ∈ rangeOpening, step.Keeps := by
    simp [rangeOpening, Step.Keeps]
  have hopen : ((ofDisk ⟨[], []⟩).after rangeOpening).openScanner .main 0 rangeScan =
      (.ok 0, rangeHost) := rfl
  have howns : ((ofDisk ⟨[], []⟩).after rangeOpening).Owns rangeScan :=
    ⟨fun _ hf => by cases hf; exact ⟨by decide, by decide⟩, nofun, nofun⟩
  have hall : ∀ step ∈ rangeSteps, step.Keeps ∧ Spares rangeScan step := by
    simp [rangeSteps, Step.Keeps, Spares]
  exact ⟨range_is_delivered begins_empty rangeOpening hkept hopen howns
    ⟨by decide, by decide, nofun⟩ (.inr ⟨0, rfl⟩) rangeSteps hall rfl, by decide, by decide⟩

end Host

end HourlyUsage
