import HourlyUsage.Proofs.Store.Pulls
import HourlyUsage.Proofs.Table.Rounds
/-!
# The accounts of a scanner

All iterations of a scanner write to its counters. Whatever workers do in between, the counters are
the totals of the rows that these iterations have handed over, all of them together, and the number
of the batches that were fetched for them.

Sources: the iterator of a scanner, `record` of its counters.

Results:
* `metrics_perform`: what one step adds to the counters of a scanner.
* `tallies_after`: the counters after any steps, and what is counted.
-/
namespace HourlyUsage

def Answer.rows : Answer → List Row
  | .row r => [r]
  | _ => []

theorem Answer.rows_ofPull (pull : Pull StoreError) : (ofPull pull).rows = pull.rows := by
  cases pull <;> rfl

theorem Answer.eq_failed_of_ofPull {pull : Pull StoreError} {error : StoreError}
    (hfailed : ofPull pull = .failed error) : pull = .failed error := by
  cases pull with
  | failed e => cases hfailed; rfl
  | _ => cases hfailed

namespace Host

/-- The batches that a pull of an iteration fetches. A closed scanner fetches none. -/
def batchesOf (h : Host) (it : IterationId) : List (List Row) :=
  let sc := h.scanner (h.iteration it).scanner
  if sc.isClosed then []
  else
    sc.scan.batches (fetchable sc.scan (h.engine.view sc.connection))
      ⟨(h.iteration it).progress, h.spent, sc.metrics⟩

/-- The iteration that the step of an event pulls, if it is one of this scanner. -/
def Event.pulled? (i : ScannerId) (e : Event) : Option IterationId :=
  match e.step.operation with
  | .pull it => if (e.before.iteration it).scanner = i then some it else none
  | _ => none

/-- The row that an iteration of the scanner hands over in an event. -/
def Event.handed (i : ScannerId) (e : Event) : List Row :=
  if (e.pulled? i).isSome then e.answer.rows else []

/-- The batches that an iteration of the scanner fetches in an event. -/
def Event.fetched (i : ScannerId) (e : Event) : List (List Row) :=
  match e.pulled? i with
  | some it => e.before.batchesOf it
  | none => []

/-- The rows that the iterations of a scanner have handed over, the first one first. -/
def handed (i : ScannerId) (events : List Event) : List Row := events.flatMap (Event.handed i)

def fetched (i : ScannerId) (events : List Event) : List (List Row) :=
  events.flatMap (Event.fetched i)

section

variable {h : Host} {i : ScannerId} {step : Step}

theorem pulled?_eq_some_iff {e : Event} {it : IterationId} :
    e.pulled? i = some it ↔ e.step.operation = .pull it ∧ (e.before.iteration it).scanner = i := by
  unfold Event.pulled?
  split
  · next x hop =>
    rw [hop]
    constructor
    · intro hsome
      split at hsome
      · next hx => cases hsome; exact ⟨rfl, hx⟩
      · cases hsome
    · rintro ⟨hsame, hit⟩
      cases hsame
      exact if_pos hit
  · next hop => exact ⟨nofun, fun ⟨hpull, _⟩ => absurd hpull (hop it)⟩

theorem handed_of_unpulled {e : Event} (hnone : e.pulled? i = none) : e.handed i = [] := by
  rw [Event.handed, hnone]
  rfl

theorem fetched_of_unpulled {e : Event} (hnone : e.pulled? i = none) : e.fetched i = [] := by
  rw [Event.fetched, hnone]

theorem setScanner_scanner_of_ne (h : Host) {j : ScannerId} (hi : i < h.scanners.length)
    (hne : j ≠ i) (sc : Scanner) : (h.setScanner j sc).scanner i = h.scanner i :=
  scanner_congr hi (List.getElem?_set_ne hne)

/-! ## One step -/

/-- A scanner with accounts: its counters are the totals of some rows and a number of batches. -/
structure Counts (h : Host) (i : ScannerId) (rows : List Row) (batches : Nat) : Prop where
  isScanner : i < h.scanners.length
  metrics : (h.scanner i).metrics = .ofRows rows batches

variable {rows : List Row} {batches : Nat}

theorem counts_pull (hc : h.Counts i rows batches) {it : IterationId}
    (hit : (h.iteration it).scanner = i) :
    (h.pull it).2.Counts i (rows ++ (h.pull it).1.rows) (batches + (h.batchesOf it).length) := by
  refine ⟨by rw [pull_scanners_length]; exact hc.isScanner, ?_⟩
  cases hopen : (h.scanner (h.iteration it).scanner).isClosed with
  | true =>
    have hnone : h.batchesOf it = [] := by rw [batchesOf, hopen]; rfl
    rw [pull_of_closed h it hopen, hnone, Pull.rows, List.append_nil]
    exact hc.metrics
  | false =>
    have hbatches : h.batchesOf it = (h.scanner i).scan.batches
        (fetchable (h.scanner i).scan (h.engine.view (h.scanner i).connection))
        ⟨(h.iteration it).progress, h.spent, (h.scanner i).metrics⟩ := by
      rw [batchesOf, hopen, hit]
      rfl
    have hset := pull_scanners h it hopen
    have hscan : h.scanPull it = (h.scanner i).scan.pull
        (fetchable (h.scanner i).scan (h.engine.view (h.scanner i).connection))
        ⟨(h.iteration it).progress, h.spent, (h.scanner i).metrics⟩ := by rw [scanPull, hit]
    have hmetrics : ((h.pull it).2.scanner i).metrics = (h.scanPull it).2.metrics := by
      rw [hit] at hset
      simp [scanner, hset, hc.isScanner]
    rw [hmetrics, pull_answer h it hopen, hbatches, hscan]
    exact Scan.metrics_pull _ _ _ hc.metrics

/-- What is left of the accounts by a step that pulls no iteration of the scanner. -/
theorem counts_unpulled (hc : h.Counts i rows batches)
    (hnot : ∀ it, (h.iteration it).scanner = i → step.operation ≠ .pull it) :
    (h.perform step).2.Counts i rows batches := by
  have hi := hc.isScanner
  cases h.perform_scans step with
  | same _ hsame =>
    exact ⟨hsame.scanners ▸ hi, by rw [hsame.scanner hi]; exact hc.metrics⟩
  | opened s scan c _ _ hscanners _ _ =>
    obtain ⟨hi', hold⟩ := scanner_of_append hi hscanners
    exact ⟨hi', by rw [hold]; exact hc.metrics⟩
  | iterated k _ hafter => exact hafter ▸ ⟨hi, hc.metrics⟩
  | closed k _ hafter =>
    rw [hafter]
    refine ⟨by rw [setScanner, List.length_set]; exact hi, ?_⟩
    by_cases hk : k = i
    · subst hk
      simpa [scanner, setScanner, hi] using hc.metrics
    · rw [setScanner_scanner_of_ne h hi hk]
      exact hc.metrics
  | pulled it hop hafter =>
    rw [hafter]
    obtain ⟨metrics, hscanner, hmetrics⟩ := pull_scanner h it hi
    have hother : i ≠ (h.iteration it).scanner := fun heq => hnot it heq.symm hop
    refine ⟨by rw [pull_scanners_length]; exact hi, ?_⟩
    rw [hscanner]
    exact (hmetrics hother).trans hc.metrics

/-- What one step adds to the accounts. -/
theorem metrics_perform (hc : h.Counts i rows batches) (step : Step) :
    (h.perform step).2.Counts i (rows ++ Event.handed i ⟨h, step, (h.perform step).1⟩)
      (batches + (Event.fetched i ⟨h, step, (h.perform step).1⟩).length) := by
  cases hpulled : Event.pulled? i ⟨h, step, (h.perform step).1⟩ with
  | none =>
    rw [handed_of_unpulled hpulled, fetched_of_unpulled hpulled, List.append_nil]
    refine counts_unpulled hc fun it hit hop => ?_
    have hsome : Event.pulled? i ⟨h, step, (h.perform step).1⟩ = some it :=
      pulled?_eq_some_iff.2 ⟨hop, hit⟩
    rw [hpulled] at hsome
    cases hsome
  | some it =>
    obtain ⟨hop, hit⟩ := pulled?_eq_some_iff.1 hpulled
    rw [Event.handed, Event.fetched, hpulled, perform_pull hop, Answer.rows_ofPull]
    exact counts_pull hc hit

/-! ## A run -/

theorem metrics_after (hc : h.Counts i rows batches) (steps : List Step) :
    (h.after steps).Counts i (rows ++ handed i (h.events steps))
      (batches + (fetched i (h.events steps)).length) := by
  induction steps generalizing h rows batches with
  | nil =>
    rw [handed, fetched, events, List.flatMap_nil, List.flatMap_nil, List.append_nil]
    exact hc
  | cons step rest ih =>
    have hrest := ih (metrics_perform hc step)
    rw [List.append_assoc, Nat.add_assoc, ← List.length_append] at hrest
    rwa [handed, fetched, events, List.flatMap_cons, List.flatMap_cons]

/-- What is fetched in an event is a batch of the table that the scanner sees there. -/
theorem batch_of_mem_fetched {e : Event} {batch : List Row} (hbatch : batch ∈ e.fetched i) :
    ∃ t last?, e.before.engine.view (e.before.scanner i).connection = .ok t ∧
      batch = (e.before.scanner i).scan.batch t last? := by
  unfold Event.fetched at hbatch
  split at hbatch
  · next it hpulled =>
    obtain ⟨-, hit⟩ := pulled?_eq_some_iff.1 hpulled
    unfold batchesOf at hbatch
    rw [hit] at hbatch
    dsimp only at hbatch
    split at hbatch
    · cases hbatch
    · obtain ⟨t, last?, htable, rfl⟩ := Scan.mem_batches hbatch
      exact ⟨t, last?, of_table_fetchable htable, rfl⟩
  · cases hbatch

theorem batchesOf_of_failed {it : IterationId} {error : StoreError}
    (hfailed : (h.pull it).1 = .failed error) : h.batchesOf it = [] := by
  cases hopen : (h.scanner (h.iteration it).scanner).isClosed with
  | true => rw [batchesOf, hopen]; rfl
  | false =>
    rw [pull_answer h it hopen, scanPull] at hfailed
    rw [batchesOf, hopen]
    exact Scan.batches_of_failed hfailed

theorem fetched_of_failed {steps : List Step} {e : Event} (he : e ∈ h.events steps)
    {error : StoreError} (hfailed : e.answer = .failed error) :
    e.handed i = [] ∧ e.fetched i = [] := by
  cases hpulled : e.pulled? i with
  | none => exact ⟨handed_of_unpulled hpulled, fetched_of_unpulled hpulled⟩
  | some it =>
    obtain ⟨hop, -⟩ := pulled?_eq_some_iff.1 hpulled
    have hanswer := (answer_of_mem_events he).symm.trans hfailed
    rw [perform_pull hop] at hanswer
    rw [Event.handed, Event.fetched, hpulled, hfailed]
    exact ⟨rfl, batchesOf_of_failed (Answer.eq_failed_of_ofPull hanswer)⟩

/-- The accounts of a scanner over some events. -/
structure Tallies (i : ScannerId) (events : List Event) (m : Metrics) : Prop where
  /-- Rows, columns and octets are those of the rows handed over by all iterations together, and
  there was one round trip for each batch that was fetched. -/
  totals : m = .ofRows (handed i events) (fetched i events).length
  batches : ∀ e ∈ events, ∀ batch ∈ e.fetched i, ∃ t last?,
    e.before.engine.view (e.before.scanner i).connection = .ok t ∧
      batch = (e.before.scanner i).scan.batch t last?
  failures : ∀ e ∈ events, ∀ error, e.answer = .failed error → e.handed i = [] ∧ e.fetched i = []

/-- A scanner that was just opened has handed nothing over and fetched nothing. -/
theorem counts_opened {w : Worker} {s : StoreId} {scan : Scan} {h' : Host}
    (hopen : h.openScanner w s scan = (.ok i, h')) : h'.Counts i [] 0 := by
  unfold openScanner at hopen
  split at hopen
  · cases hopen
  · split at hopen
    · cases hopen
      exact ⟨by simp, by simp [scanner]; rfl⟩
    · cases hopen

/-- A scanner keeps its accounts from when it is opened. -/
theorem tallies_after (hc : h.Counts i [] 0) (steps : List Step) :
    Tallies i (h.events steps) ((h.after steps).scanner i).metrics where
  totals := by
    have hafter := (metrics_after hc steps).metrics
    rwa [List.nil_append, Nat.zero_add] at hafter
  batches _ _ _ := batch_of_mem_fetched
  failures _ he _ := fetched_of_failed he

end

end Host

end HourlyUsage
