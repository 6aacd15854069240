import HourlyUsage.Proofs.Table.Cost
/-!
# A pull, round by round

A pull looks through the batch that its iteration has. Where that one is used up it fetches the next
one and looks through it in turn. `Scan.round` is one turn of this, and `Scan.batches` lists what a
pull fetches; the counters move with these and with the row that is handed over, and with nothing
else.

Sources: the iterator of a scanner, `_fetch_batch`.

Results:
* `pullWithin_succ`: a pull goes on, round by round, until one of them answers.
* `metrics_pull`: the counters after a pull, from those before it.
* `mem_batches`: batches come from a table that can be read.
* `failed_pull`: a pull fails as a fetch does.
-/
namespace HourlyUsage

def Pull.rows {ε : Type} : Pull ε → List Row
  | .row r => [r]
  | .ended | .failed _ => []

namespace Scan

/-- One round of a pull: it is answered, or a batch is fetched and looked through next. -/
inductive Round (ε : Type) where
  | answered (answer : Pull ε) (c : Cursor)
  | fetched (batch : List Row) (c : Cursor)

section

variable {ε : Type} (scan : Scan) (view : View ε)

/-- The round in which the batch behind a key is wanted. -/
def fetch (last? : Option Bytes) (c : Cursor) : Round ε :=
  match scan.nextBatch view last? with
  | .error e => .answered (.failed e) { c with progress := .finished }
  | .ok rows =>
    .fetched rows { c with progress := scan.afterFetch rows, metrics := c.metrics.fetched }

/-- The round that a cursor is in for. -/
def round (c : Cursor) : Round ε :=
  match c.progress with
  | .finished => .answered .ended c
  | .fresh => scan.fetch view none c
  | .within pending last more =>
    match walk scan.filter c.spent pending with
    | .found row rest spent =>
      .answered (.row row) ⟨.within rest last more, spent, c.metrics.record row⟩
    | .over spent => .answered .ended ⟨.finished, spent, c.metrics⟩
    | .through spent =>
      if more then scan.fetch view (some last) { c with spent }
      else .answered .ended ⟨.finished, spent, c.metrics⟩

/-- The batches that a pull fetches in at most `fuel` rounds. -/
def batchesWithin : Nat → Cursor → List (List Row)
  | 0, _ => []
  | fuel + 1, c =>
    match scan.round view c with
    | .answered _ _ => []
    | .fetched batch c => batch :: batchesWithin fuel c

/-- The batches that a pull fetches, the first one first. A fetch that fails has none. -/
def batches (c : Cursor) : List (List Row) := scan.batchesWithin view (viewSize view.table + 3) c

/-- A round answers the pull, or the next round does. -/
theorem pullWithin_succ (fuel : Nat) (c : Cursor) :
    scan.pullWithin view (fuel + 1) c =
      match scan.round view c with
      | .answered answer c => (answer, c)
      | .fetched _ c => scan.pullWithin view fuel c := by
  rw [pullWithin, round]
  unfold fetch
  cases c.progress with
  | finished => rfl
  | fresh =>
    dsimp only
    cases scan.nextBatch view none <;> rfl
  | within pending last more =>
    dsimp only
    rcases walk scan.filter c.spent pending with ⟨row, rest, spent⟩ | spent | spent
    · rfl
    · rfl
    · cases more with
      | false => rfl
      | true =>
        dsimp only [if_true]
        cases scan.nextBatch view (some last) <;> rfl

end

section

variable {ε : Type} {scan : Scan} {view : View ε} {c c' : Cursor}

/-! ## One round -/

/-- What a round is, as far as the counters and the table are concerned. -/
inductive Round.Sound (scan : Scan) (view : View ε) (c : Cursor) : Round ε → Prop where
  | row {row : Row} {c' : Cursor} (metrics : c'.metrics = c.metrics.record row) :
      Sound scan view c (.answered (.row row) c')
  | ended {c' : Cursor} (metrics : c'.metrics = c.metrics) : Sound scan view c (.answered .ended c')
  | failed {e : ε} {last? : Option Bytes} {c' : Cursor}
      (hbatch : scan.nextBatch view last? = .error e) (metrics : c'.metrics = c.metrics) :
      Sound scan view c (.answered (.failed e) c')
  | fetched {rows : List Row} {last? : Option Bytes} {c' : Cursor}
      (hbatch : scan.nextBatch view last? = .ok rows)
      (progress : c'.progress = scan.afterFetch rows) (metrics : c'.metrics = c.metrics.fetched) :
      Sound scan view c (.fetched rows c')

theorem fetch_sound (last? : Option Bytes) (hmetrics : c'.metrics = c.metrics) :
    Round.Sound scan view c (scan.fetch view last? c') := by
  unfold fetch
  split
  · next hbatch => exact .failed hbatch hmetrics
  · next hbatch => exact .fetched hbatch rfl (congrArg Metrics.fetched hmetrics)

theorem round_sound (scan : Scan) (view : View ε) (c : Cursor) :
    Round.Sound scan view c (scan.round view c) := by
  unfold round
  split
  · exact .ended rfl
  · exact fetch_sound none rfl
  · split
    · exact .row rfl
    · exact .ended rfl
    · split
      · exact fetch_sound _ rfl
      · exact .ended rfl

/-! ## All rounds of a pull -/

theorem metrics_pullWithin (scan : Scan) (view : View ε) (fuel : Nat) (c : Cursor)
    {rows : List Row} {n : Nat} (hmetrics : c.metrics = .ofRows rows n) :
    (scan.pullWithin view fuel c).2.metrics =
      .ofRows (rows ++ (scan.pullWithin view fuel c).1.rows)
        (n + (scan.batchesWithin view fuel c).length) := by
  have hnone : ∀ n, Metrics.ofRows rows n = .ofRows (rows ++ []) n := fun n => by
    rw [List.append_nil]
  induction fuel generalizing c n with
  | zero =>
    exact hmetrics.trans (hnone n)
  | succ fuel ih =>
    have hsound := round_sound scan view c
    rw [pullWithin_succ, batchesWithin]
    generalize scan.round view c = round at hsound ⊢
    cases hsound with
    | row hrow =>
      rw [hrow, hmetrics]
      exact Metrics.record_ofRows rows n _
    | ended hsame | failed _ hsame => exact (hsame.trans hmetrics).trans (hnone n)
    | fetched _ _ hfetched =>
      rw [hmetrics, Metrics.fetched_ofRows] at hfetched
      have hnext := ih _ hfetched
      rw [Nat.add_assoc, Nat.add_comm 1] at hnext
      exact hnext

/-- The counters grow by the row that is handed over and by one for each batch that is fetched. -/
theorem metrics_pull (scan : Scan) (view : View ε) (c : Cursor) {rows : List Row} {n : Nat}
    (hmetrics : c.metrics = .ofRows rows n) :
    (scan.pull view c).2.metrics =
      .ofRows (rows ++ (scan.pull view c).1.rows) (n + (scan.batches view c).length) :=
  metrics_pullWithin scan view _ c hmetrics

theorem mem_batchesWithin {fuel : Nat} {c : Cursor} {batch : List Row}
    (hbatch : batch ∈ scan.batchesWithin view fuel c) :
    ∃ t last?, view.table = .ok t ∧ batch = scan.batch t last? := by
  induction fuel generalizing c with
  | zero => cases hbatch
  | succ fuel ih =>
    have hsound := round_sound scan view c
    rw [batchesWithin] at hbatch
    generalize scan.round view c = round at hsound hbatch
    cases hsound with
    | row | ended | failed => cases hbatch
    | fetched hnext _ _ =>
      rcases List.mem_cons.1 hbatch with rfl | hrest
      · obtain ⟨t, htable, rfl, -⟩ := nextBatch_eq_ok_iff.1 hnext
        exact ⟨t, _, htable, rfl⟩
      · exact ih hrest

/-- What is fetched is a batch of the table that can be read. -/
theorem mem_batches {batch : List Row} (hbatch : batch ∈ scan.batches view c) :
    ∃ t last?, view.table = .ok t ∧ batch = scan.batch t last? := mem_batchesWithin hbatch

theorem failed_pullWithin {fuel : Nat} {e : ε}
    (hfailed : (scan.pullWithin view fuel c).1 = .failed e) :
    ∃ last?, scan.nextBatch view last? = .error e := by
  induction fuel generalizing c with
  | zero => cases hfailed
  | succ fuel ih =>
    have hsound := round_sound scan view c
    rw [pullWithin_succ] at hfailed
    generalize scan.round view c = round at hsound hfailed
    cases hsound with
    | row | ended => cases hfailed
    | failed hbatch _ =>
      obtain rfl := Pull.failed.inj hfailed
      exact ⟨_, hbatch⟩
    | fetched _ _ _ => exact ih hfailed

/-- A pull that fails does so as one of its fetches. -/
theorem failed_pull {e : ε} (hfailed : (scan.pull view c).1 = .failed e) :
    ∃ last?, scan.nextBatch view last? = .error e :=
  failed_pullWithin hfailed

end

end Scan

end HourlyUsage
