import HourlyUsage.Proofs.Table.Paging
import HourlyUsage.Proofs.Table.StopKeys
/-!
# What a scan costs

A scan whose filter lets every row of its window through hands the window over row by row. Its
counters then hang on the window alone: each batch is fetched when the first row in it is wanted,
and meeting the end takes one more batch exactly if the last one was full.

Sources: the iterator of a scanner, `record` of its counters.

Results:
* `trips_eq`: how many batches hold the rows that were handed over.
* `reached_pull`: a pull hands over the next row, and fetches at most the batch that it is in.
* `ended_pull`: what a scan has cost when its end is met.
-/
namespace HourlyUsage

namespace Row

theorem total_cons (n : Nat) (ns : List Nat) : total (n :: ns) = n + total ns := rfl

theorem total_append (ms ns : List Nat) : total (ms ++ ns) = total ms + total ns := by
  induction ms with
  | nil => exact (Nat.zero_add _).symm
  | cons m ms ih => rw [List.cons_append, total_cons, total_cons, ih, Nat.add_assoc]

end Row

namespace Metrics

/-- The counters of a scan that has handed these rows over and has fetched so many batches. -/
def ofRows (rows : List Row) (roundTrips : Nat) : Metrics :=
  ⟨rows.length, Row.total (rows.map Row.size), Row.total (rows.map Row.byteSize), roundTrips⟩

theorem record_ofRows (rows : List Row) (roundTrips : Nat) (row : Row) :
    (ofRows rows roundTrips).record row = ofRows (rows ++ [row]) roundTrips := by
  have htotal : ∀ f : Row → Nat,
      Row.total ((rows ++ [row]).map f) = Row.total (rows.map f) + f row := fun f => by
    rw [List.map_append, Row.total_append]
    rfl
  rw [record, ofRows, ofRows, htotal, htotal, List.length_append]
  rfl

theorem fetched_ofRows (rows : List Row) (roundTrips : Nat) :
    (ofRows rows roundTrips).fetched = ofRows rows (roundTrips + 1) := rfl

end Metrics

/-- The number of batches of `b` rows that hold `n` rows. -/
def trips (b n : Nat) : Nat := (n + b - 1) / b

/-- It is the one number of batches that hold so many rows, and without one of which they do
not. -/
theorem trips_eq {b n k : Nat} (hb : 0 < b) (henough : n ≤ k * b) (hneeded : k * b < n + b) :
    trips b n = k := by
  rw [trips, Nat.div_eq_iff hb]
  omega

theorem trips_enough {b : Nat} (hb : 0 < b) (n : Nat) : n ≤ trips b n * b := by
  have hdiv := Nat.lt_div_mul_add hb (a := n + b - 1)
  rw [trips]
  omega

theorem trips_needed {b : Nat} (hb : 0 < b) (n : Nat) : trips b n * b < n + b := by
  have hdiv := Nat.div_mul_le_self (n + b - 1) b
  rw [trips]
  omega

namespace Scan

/-- The filter of the scan accepts the rows of its window and keeps its memory. -/
def LetsThrough (scan : Scan) (t : Table) (spent : Spent) : Prop :=
  ∀ row ∈ scan.window t none, ∀ rest,
    walk scan.filter spent (row :: rest) = .found row rest spent

def capacity (scan : Scan) : Nat := scan.batchSize.toNat

/-- What an iteration knows that has fetched `k` batches: the last key in them and whether more can
follow. -/
structure Behind (scan : Scan) (t : Table) (k : Nat) (last : Bytes) (more : Bool) : Prop where
  more_iff : more = true ↔ k * scan.capacity ≤ (scan.window t none).length
  window : more = true → scan.window t (some last) = (scan.window t none).drop (k * scan.capacity)

/-- Where an iteration stands that has given `n` rows of its window out of as few batches as hold
them. -/
inductive Stage (scan : Scan) (t : Table) : Nat → Progress → Prop where
  | start : Stage scan t 0 .fresh
  | inside {n : Nat} {last : Bytes} {more : Bool}
      (behind : scan.Behind t (trips scan.capacity n) last more) :
      Stage scan t n (.within
        (((scan.window t none).take (trips scan.capacity n * scan.capacity)).drop n) last more)

/-- An iteration that has given the first `n` rows of its window, with its counters. -/
structure Reached (scan : Scan) (t : Table) (n : Nat) (c : Cursor) : Prop where
  stage : scan.Stage t n c.progress
  through : scan.LetsThrough t c.spent
  metrics : c.metrics = .ofRows ((scan.window t none).take n) (trips scan.capacity n)

section

variable {ε : Type} {scan : Scan} {t : Table} {n k : Nat}

/-- A batch that is not the first one, or empty, follows the batches before it. -/
theorem afterFetch_drop (hpos : 0 < scan.batchSize) {last? : Option Bytes}
    (hwindow : scan.window t last? = (scan.window t none).drop (k * scan.capacity))
    (hmore : k * scan.capacity < (scan.window t none).length) :
    ∃ last more, scan.afterFetch (scan.batch t last?) =
        .within (((scan.window t none).take ((k + 1) * scan.capacity)).drop (k * scan.capacity))
          last more ∧
      scan.Behind t (k + 1) last more := by
  have hcapacity : (scan.capacity : Int) = scan.batchSize := Int.toNat_of_nonneg (by omega)
  have hnext : (k + 1) * scan.capacity = k * scan.capacity + scan.capacity := Nat.succ_mul ..
  have hbatch : scan.batch t last? =
      ((scan.window t none).take ((k + 1) * scan.capacity)).drop (k * scan.capacity) := by
    rw [batch_eq_take hpos, hwindow, List.drop_take, hnext, Nat.add_sub_cancel_left]
    rfl
  rw [hbatch]
  generalize hfront : ((scan.window t none).take ((k + 1) * scan.capacity)).drop
    (k * scan.capacity) = front at hbatch ⊢
  have hlength : front.length =
      min ((k + 1) * scan.capacity) (scan.window t none).length - k * scan.capacity := by
    rw [← hfront, List.length_drop, List.length_take]
  cases hlast : front.getLast? with
  | none =>
    rw [List.getLast?_eq_none_iff.1 hlast, List.length_nil] at hlength
    omega
  | some last =>
    refine ⟨last.key, !decide ((front.length : Int) < scan.batchSize), ?_, ?_, fun _ => ?_⟩
    · rw [afterFetch, hlast]
    · rw [Bool.not_eq_true', decide_eq_false_iff_not]
      omega
    · have hcut : scan.window t last? =
          front ++ (scan.window t none).drop ((k + 1) * scan.capacity) := by
        rw [hwindow, ← hfront, List.drop_take, hnext, Nat.add_sub_cancel_left, ← List.drop_drop,
          List.take_append_drop]
      exact window_after hcut hlast

theorem afterFetch_behind (hpos : 0 < scan.batchSize) {last? : Option Bytes}
    (hwindow : scan.window t last? = []) :
    scan.afterFetch (scan.batch t last?) = .finished := by
  rw [batch_eq_take hpos, hwindow, List.take_nil]
  rfl

/-! ## Rounds of a pull -/

variable {spent : Spent} {m : Metrics}

theorem pullWithin_pending (hthrough : scan.LetsThrough t spent) (view : View ε)
    (fuel : Nat) {row : Row} (hrow : row ∈ scan.window t none) (rest : List Row) (last : Bytes)
    (more : Bool) :
    scan.pullWithin view (fuel + 1) ⟨.within (row :: rest) last more, spent, m⟩ =
      (.row row, ⟨.within rest last more, spent, m.record row⟩) := by
  rw [pullWithin]
  dsimp only
  rw [hthrough row hrow rest]

/-- An iteration wants a batch behind this key: it has just begun, or its batch is used up and more
can follow. -/
inductive Wants : Progress → Option Bytes → Prop where
  | first : Wants .fresh none
  | next (last : Bytes) : Wants (.within [] last true) (some last)

theorem pullWithin_wants (fuel : Nat) {p : Progress} {last? : Option Bytes} (h : Wants p last?) :
    scan.pullWithin (ε := ε) (.ok t) (fuel + 1) ⟨p, spent, m⟩ =
      scan.pullWithin (.ok t) fuel ⟨scan.afterFetch (scan.batch t last?), spent, m.fetched⟩ := by
  cases h <;> rfl

theorem capacity_pos (hpos : 0 < scan.batchSize) : 0 < scan.capacity := by
  rw [capacity]
  omega

theorem drop_take_eq_cons {α : Type} {l : List α} {m : Nat} (hl : n < l.length) (hm : n < m) :
    (l.take m).drop n = l[n] :: (l.take m).drop (n + 1) := by
  have hlt : n < (l.take m).length := by rw [List.length_take]; omega
  rw [List.drop_eq_getElem_cons hlt, List.getElem_take]

theorem pullWithin_inside (hpos : 0 < scan.batchSize) (hthrough : scan.LetsThrough t spent)
    (fuel : Nat) (hn : n < (scan.window t none).length) {last : Bytes} {more : Bool}
    (henough : n + 1 ≤ k * scan.capacity) (hneeded : k * scan.capacity < n + 1 + scan.capacity)
    (hbehind : scan.Behind t k last more) (hm : m = .ofRows ((scan.window t none).take n) k) :
    ∃ c, scan.pullWithin (ε := ε) (.ok t) (fuel + 1)
        ⟨.within (((scan.window t none).take (k * scan.capacity)).drop n) last more, spent, m⟩ =
          (.row (scan.window t none)[n], c) ∧
      c.spent = spent ∧ scan.Reached t (n + 1) c := by
  have htrips := trips_eq (capacity_pos hpos) henough hneeded
  have hrow : (scan.window t none)[n] ∈ scan.window t none := List.getElem_mem hn
  rw [drop_take_eq_cons hn henough, pullWithin_pending hthrough _ fuel hrow]
  refine ⟨_, rfl, rfl, ⟨?_, hthrough, ?_⟩⟩
  · dsimp only
    rw [← htrips] at hbehind ⊢
    exact .inside hbehind
  · dsimp only
    rw [hm, Metrics.record_ofRows, List.take_succ_eq_append_getElem hn, htrips]

theorem pullWithin_fetching (hpos : 0 < scan.batchSize) (hthrough : scan.LetsThrough t spent)
    (fuel : Nat) {p : Progress} {last? : Option Bytes} (hwants : Wants p last?)
    (hwindow : scan.window t last? = (scan.window t none).drop n)
    (hn : n < (scan.window t none).length) (hk : k * scan.capacity = n)
    (hm : m = .ofRows ((scan.window t none).take n) k) :
    ∃ c, scan.pullWithin (ε := ε) (.ok t) (fuel + 2) ⟨p, spent, m⟩ =
        (.row (scan.window t none)[n], c) ∧
      c.spent = spent ∧ scan.Reached t (n + 1) c := by
  subst hk
  have hcapacity := capacity_pos hpos
  have hnext : (k + 1) * scan.capacity = k * scan.capacity + scan.capacity := Nat.succ_mul ..
  obtain ⟨last, more, hfetch, hbehind⟩ := afterFetch_drop hpos hwindow hn
  rw [pullWithin_wants _ hwants, hfetch]
  exact pullWithin_inside hpos hthrough fuel hn (by omega) (by omega) hbehind
    (by rw [hm, Metrics.fetched_ofRows])

theorem trips_zero {b : Nat} (hb : 0 < b) : trips b 0 = 0 := trips_eq hb (by omega) (by omega)

theorem drop_take_eq_nil {α : Type} (l : List α) {m : Nat} (hm : min m l.length ≤ n) :
    (l.take m).drop n = [] := by
  rwa [List.drop_eq_nil_iff, List.length_take]

/-- A pull hands over the next row of the window. -/
theorem reached_pull (hpos : 0 < scan.batchSize) {c : Cursor} (hr : scan.Reached t n c)
    (hn : n < (scan.window t none).length) :
    ∃ c', scan.pull (ε := ε) (.ok t) c = (.row (scan.window t none)[n], c') ∧
      c'.spent = c.spent ∧ scan.Reached t (n + 1) c' := by
  obtain ⟨hstage, hthrough, hmetrics⟩ := hr
  obtain ⟨p, spent, m⟩ := c
  have hcapacity := capacity_pos hpos
  cases hstage with
  | start =>
    have hzero := trips_zero hcapacity
    rw [hzero] at hmetrics
    exact pullWithin_fetching hpos hthrough _ .first rfl hn (Nat.zero_mul _) hmetrics
  | inside hbehind =>
    have henough := trips_enough hcapacity n
    have hneeded := trips_needed hcapacity n
    rcases Nat.lt_or_eq_of_le henough with hlt | heq
    · exact pullWithin_inside hpos hthrough _ hn hlt (by omega) hbehind hmetrics
    · -- The batches are used up, and they have not reached the end of the window.
      have hmore := hbehind.more_iff.2 (by omega)
      subst hmore
      have hwindow := hbehind.window rfl
      rw [← heq] at hwindow
      rw [drop_take_eq_nil _ (by omega)]
      exact pullWithin_fetching hpos hthrough _ (.next _) hwindow hn heq.symm hmetrics

theorem pullWithin_behind (hpos : 0 < scan.batchSize) (fuel : Nat) {p : Progress}
    {last? : Option Bytes} (hwants : Wants p last?) (hwindow : scan.window t last? = []) :
    scan.pullWithin (ε := ε) (.ok t) (fuel + 2) ⟨p, spent, m⟩ =
      (.ended, ⟨.finished, spent, m.fetched⟩) := by
  rw [pullWithin_wants _ hwants, afterFetch_behind hpos hwindow]
  rfl

/-- At the end of the window a pull ends. Meeting the end has cost as many batches as if there were
one row more. -/
theorem ended_pull (hpos : 0 < scan.batchSize) {c : Cursor} (hr : scan.Reached t n c)
    (hn : n = (scan.window t none).length) :
    ∃ c', scan.pull (ε := ε) (.ok t) c = (.ended, c') ∧ c'.spent = c.spent ∧
      c'.metrics = .ofRows (scan.window t none) (trips scan.capacity (n + 1)) := by
  obtain ⟨hstage, hthrough, hmetrics⟩ := hr
  obtain ⟨p, spent, m⟩ := c
  have hcapacity := capacity_pos hpos
  have hall : (scan.window t none).take n = scan.window t none := by rw [hn, List.take_length]
  rw [hall] at hmetrics
  cases hstage with
  | start =>
    have hempty : scan.window t none = [] := List.eq_nil_of_length_eq_zero hn.symm
    have htrips : trips scan.capacity (0 + 1) = 0 + 1 := trips_eq hcapacity (by omega) (by omega)
    rw [trips_zero hcapacity] at hmetrics
    refine ⟨_, pullWithin_behind hpos _ .first hempty, rfl, ?_⟩
    rw [htrips, ← Metrics.fetched_ofRows, ← hmetrics]
  | @inside _ last more hbehind =>
    have henough := trips_enough hcapacity n
    have hneeded := trips_needed hcapacity n
    rw [drop_take_eq_nil _ (by omega)]
    have hnext : (trips scan.capacity n + 1) * scan.capacity =
        trips scan.capacity n * scan.capacity + scan.capacity := Nat.succ_mul ..
    cases more with
    | true =>
      have hfull := hbehind.more_iff.1 rfl
      have hwindow : scan.window t (some last) = [] := by
        rw [hbehind.window rfl, List.drop_eq_nil_iff]
        omega
      have htrips : trips scan.capacity (n + 1) = trips scan.capacity n + 1 :=
        trips_eq hcapacity (by omega) (by omega)
      refine ⟨_, pullWithin_behind hpos _ (.next last) hwindow, rfl, ?_⟩
      rw [htrips, ← Metrics.fetched_ofRows, ← hmetrics]
    | false =>
      have hshort : ¬ trips scan.capacity n * scan.capacity ≤ (scan.window t none).length :=
        fun h => Bool.false_ne_true (hbehind.more_iff.2 h)
      have htrips : trips scan.capacity (n + 1) = trips scan.capacity n :=
        trips_eq hcapacity (by omega) (by omega)
      refine ⟨_, rfl, rfl, ?_⟩
      rw [htrips, ← hmetrics]

end

/-! ## Scans below a stem -/

section

variable {scan : Scan} {number : Nat} {spent : Spent}

/-- The window of a scan that starts at a stem and stops at the first key without it is what lies
below the stem. -/
theorem window_startsWith
    (hf : scan.filter = some (.whileMatch number (.startsWith scan.start))) (t : Table) :
    scan.window t none = (t.rows scan.columns).filter fun row => scan.start.isPrefixOf row.key := by
  have hstop : scan.stop? = successor? scan.start := by rw [Scan.stop?, hf]; rfl
  rw [window]
  congr 1
  funext row
  rw [Bool.eq_iff_iff, inRange_none_iff, List.isPrefixOf_iff_prefix, prefix_iff_between, hstop]

theorem letsThrough_startsWith
    (hf : scan.filter = some (.whileMatch number (.startsWith scan.start)))
    (hunspent : number ∉ spent) (t : Table) : scan.LetsThrough t spent := by
  intro row hrow rest
  rw [window_startsWith hf] at hrow
  have hbelow : scan.start.isPrefixOf row.key = true := (List.mem_filter.1 hrow).2
  rw [hf, walk, RowFilter.accepts, if_neg hunspent, RowFilter.accepts, hbelow]
  rfl

end

theorem reached_fresh {scan : Scan} (hpos : 0 < scan.batchSize) {t : Table} {spent : Spent}
    (hthrough : scan.LetsThrough t spent) : scan.Reached t 0 ⟨.fresh, spent, {}⟩ where
  stage := .start
  through := hthrough
  metrics := by rw [trips_zero (capacity_pos hpos)]; rfl

end Scan

end HourlyUsage
