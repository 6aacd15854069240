import HourlyUsage.Proofs.Table.Filters
import HourlyUsage.Proofs.Table.Rows
/-!
# Paging

An iteration takes its rows batch by batch, each batch from behind the last key of the one before.
`Scan.upcoming` is what it has still to give while the table stays as it is, said without batches.

Sources: the iterator of a scanner, `_fetch_batch`.

Results:
* `window_after`: behind a batch lies what is left of the window that the batch was cut from.
* `pull_answers`: a pull gives the first of the upcoming rows and leaves the others, or ends if
  there are none; it never runs out of fuel.
-/
namespace HourlyUsage.Scan

/-- The rows between the last key seen and the stop key. -/
def window (scan : Scan) (t : Table) (last? : Option Bytes) : List Row :=
  (t.rows scan.columns).filter fun row => scan.inRange last? row.key

theorem batch_eq_cutBatch (scan : Scan) (t : Table) (last? : Option Bytes) :
    scan.batch t last? = scan.cutBatch (scan.window t last?) := by
  unfold batch window Table.rows
  rw [List.filter_filterMap, List.filterMap_filter]
  congr 2
  funext e
  cases hrow : Table.row? scan.columns e with
  | none => simp
  | some row =>
    obtain ⟨-, rfl⟩ := (Table.row?_eq_some_iff scan.columns e row).1 hrow
    simp [Option.filter]

theorem batch_eq_take {scan : Scan} (h : 0 < scan.batchSize) (t : Table) (last? : Option Bytes) :
    scan.batch t last? = (scan.window t last?).take scan.batchSize.toNat := by
  rw [batch_eq_cutBatch, cutBatch, if_neg (by omega)]

theorem window_ascending (scan : Scan) (t : Table) (last? : Option Bytes) :
    (scan.window t last?).Pairwise fun a b => a.key < b.key :=
  (t.rows_ascending scan.columns).filter _

theorem inRange_none_iff (scan : Scan) (key : Bytes) :
    scan.inRange none key = true ↔
      ¬ key < scan.start ∧ ∀ stop ∈ scan.stop?, key < stop := by
  unfold inRange
  cases scan.stop? <;> simp

theorem inRange_some_iff (scan : Scan) (last key : Bytes) :
    scan.inRange (some last) key = true ↔
      last < key ∧ ∀ stop ∈ scan.stop?, key < stop := by
  unfold inRange
  cases scan.stop? <;> simp

theorem inRange_behind {scan : Scan} {last? : Option Bytes} {last : Bytes}
    (h : scan.inRange last? last = true) (key : Bytes) :
    scan.inRange (some last) key = (scan.inRange last? key && decide (last < key)) := by
  rw [Bool.eq_iff_iff, Bool.and_eq_true, decide_eq_true_iff]
  cases last? with
  | none =>
    rw [inRange_none_iff] at h
    rw [inRange_some_iff, inRange_none_iff]
    exact ⟨fun ⟨hlt, hstop⟩ => ⟨⟨fun hk => h.1 (List.lt_trans hlt hk), hstop⟩, hlt⟩,
      fun ⟨⟨_, hstop⟩, hlt⟩ => ⟨hlt, hstop⟩⟩
  | some before =>
    rw [inRange_some_iff] at h
    rw [inRange_some_iff, inRange_some_iff]
    exact ⟨fun ⟨hlt, hstop⟩ => ⟨⟨List.lt_trans h.1 hlt, hstop⟩, hlt⟩,
      fun ⟨⟨_, hstop⟩, hlt⟩ => ⟨hlt, hstop⟩⟩

theorem not_last_lt {rows : List Row} (hasc : rows.Pairwise fun a b => a.key < b.key) {last : Row}
    (hlast : rows.getLast? = some last) : ∀ row ∈ rows, ¬ last.key < row.key := by
  obtain ⟨init, rfl⟩ := List.getLast?_eq_some_iff.1 hlast
  intro row hrow hlt
  rcases List.mem_append.1 hrow with hrow | hrow
  · exact List.lt_asymm hlt ((List.pairwise_append.1 hasc).2.2 row hrow last (by simp))
  · rw [List.mem_singleton.1 hrow] at hlt
    exact List.lt_irrefl _ hlt

theorem window_behind {scan : Scan} {last? : Option Bytes} {last : Bytes}
    (h : scan.inRange last? last = true) (t : Table) :
    scan.window t (some last) =
      (scan.window t last?).filter fun row => decide (last < row.key) := by
  rw [window, window, List.filter_filter]
  congr 1
  funext row
  rw [inRange_behind h, Bool.and_comm]

/-- Behind a batch lies what is left of the window that the batch was cut from. -/
theorem window_after {scan : Scan} {t : Table} {last? : Option Bytes} {front behind : List Row}
    {last : Row} (h : scan.window t last? = front ++ behind) (hlast : front.getLast? = some last) :
    scan.window t (some last.key) = behind := by
  have hmem : last ∈ scan.window t last? := by
    rw [h]
    exact List.mem_append_left _ (List.mem_of_getLast? hlast)
  have hrange : scan.inRange last? last.key = true := (List.mem_filter.1 hmem).2
  have hasc := h ▸ scan.window_ascending t last?
  obtain ⟨hascfront, -, hcross⟩ := List.pairwise_append.1 hasc
  have hfront := not_last_lt hascfront hlast
  have hbehind := hcross last (List.mem_of_getLast? hlast)
  rw [window_behind hrange, h, List.filter_append, List.filter_eq_nil_iff.2 (by simpa using hfront),
    List.filter_eq_self.2 (by simpa using hbehind), List.nil_append]

/-! ## What a fetch gives -/

section

variable {ε : Type} {scan : Scan} {view : View ε} {last? : Option Bytes}

theorem nextBatch_eq_ok_iff {rows : List Row} :
    scan.nextBatch view last? = .ok rows ↔ ∃ t, view.table = .ok t ∧ scan.batch t last? = rows ∧
      ∀ most e, view.most? = some (most, e) → rows.length ≤ most := by
  obtain ⟨table, most?⟩ := view
  rw [nextBatch]
  cases table with
  | error e => simp
  | ok t =>
    cases most? with
    | none => simp
    | some limit =>
      obtain ⟨most, e⟩ := limit
      by_cases hfits : (scan.batch t last?).length ≤ most
      · simp only [if_pos hfits]
        constructor
        · rintro ⟨⟩
          exact ⟨t, rfl, rfl, fun _ _ h => by cases h; exact hfits⟩
        · rintro ⟨_, ⟨⟩, rfl, -⟩
          rfl
      · simp only [if_neg hfits]
        refine iff_of_false nofun ?_
        rintro ⟨_, ⟨⟩, rfl, hmost⟩
        exact hfits (hmost most e rfl)

/-- A fetch fails where the table cannot be read, and where the batch has too many rows. -/
theorem nextBatch_eq_error_iff {e : ε} :
    scan.nextBatch view last? = .error e ↔ view.table = .error e ∨
      ∃ t most, view.table = .ok t ∧ view.most? = some (most, e) ∧
        most < (scan.batch t last?).length := by
  obtain ⟨table, most?⟩ := view
  rw [nextBatch]
  cases table with
  | error e' => simp
  | ok t =>
    cases most? with
    | none => simp
    | some limit =>
      obtain ⟨most, e'⟩ := limit
      by_cases hfits : (scan.batch t last?).length ≤ most
      · simp [hfits]
      · have hlarge := Nat.lt_of_not_le hfits
        simp only [if_neg hfits, Except.error.injEq]
        constructor
        · rintro rfl
          exact .inr ⟨t, most, rfl, rfl, hlarge⟩
        · rintro (⟨⟨⟩⟩ | ⟨_, _, -, heq, -⟩)
          exact (Prod.mk.inj (Option.some.inj heq)).2

end

theorem length_batch_behind {scan : Scan} {t : Table} {last? : Option Bytes} {rows : List Row}
    {last : Bytes} (hafter : scan.afterFetch (scan.batch t last?) = .within rows last true) :
    (scan.batch t (some last)).length ≤ (scan.batch t last?).length := by
  unfold afterFetch at hafter
  split at hafter
  · cases hafter
  · next row hlast =>
    obtain ⟨-, rfl, hmore⟩ := Progress.within.inj hafter
    have hfull : scan.batchSize ≤ (scan.batch t last?).length := by simpa using hmore
    by_cases hnegative : scan.batchSize < 0
    · -- Without a bound the first batch has taken everything.
      have hwhole : ∀ last?, scan.batch t last? = scan.window t last? := fun _ => by
        rw [batch_eq_cutBatch, cutBatch, if_pos hnegative]
      rw [hwhole] at hlast
      rw [hwhole, window_after (List.append_nil _).symm hlast]
      exact Nat.zero_le _
    · rw [batch_eq_cutBatch scan t (some row.key), cutBatch, if_neg hnegative, List.length_take]
      omega

/-! ## What is still to come -/

/-- What an iteration has still to give if the table stays as it is. -/
def upcoming (scan : Scan) (t : Table) (spent : Spent) : Progress → List Row
  | .fresh => plainRows scan.filter spent (scan.window t none)
  | .within pending last more =>
    plainRows scan.filter spent (pending ++ if more then scan.window t (some last) else [])
  | .finished => []

theorem afterFetch_batch {scan : Scan} (h : 0 < scan.batchSize) (t : Table)
    (last? : Option Bytes) :
    (scan.window t last? = [] ∧ scan.batch t last? = []) ∨
      ∃ last more, scan.afterFetch (scan.batch t last?) =
          .within (scan.batch t last?) last more ∧
        scan.batch t last? ≠ [] ∧
        scan.window t last? =
          scan.batch t last? ++ if more then scan.window t (some last) else [] := by
  have htake := batch_eq_take h t last?
  generalize scan.batch t last? = front at htake ⊢
  cases hlast : front.getLast? with
  | none =>
    have hnil : front = [] := List.getLast?_eq_none_iff.1 hlast
    refine .inl ⟨?_, hnil⟩
    rw [hnil, eq_comm, List.take_eq_nil_iff] at htake
    rcases htake with hzero | hnil
    · omega
    · exact hnil
  | some last =>
    refine .inr ⟨last.key, !decide ((front.length : Int) < scan.batchSize), ?_, ?_, ?_⟩
    · simp [afterFetch, hlast]
    · rintro rfl; cases hlast
    · have hcut :
          scan.window t last? = front ++ (scan.window t last?).drop scan.batchSize.toNat := by
        rw [htake, List.take_append_drop]
      by_cases hfull : (front.length : Int) < scan.batchSize
      · have hshort : (scan.window t last?).length ≤ scan.batchSize.toNat := by
          rw [htake, List.length_take] at hfull
          omega
        rw [List.drop_eq_nil_of_le hshort] at hcut
        simpa [hfull] using hcut
      · simpa [hfull, window_after hcut hlast] using hcut

theorem upcoming_afterFetch {scan : Scan} (h : 0 < scan.batchSize) (t : Table) (spent : Spent)
    (last? : Option Bytes) :
    scan.upcoming t spent (scan.afterFetch (scan.batch t last?)) =
      plainRows scan.filter spent (scan.window t last?) := by
  rcases afterFetch_batch h t last? with ⟨hwin, hnil⟩ | ⟨last, more, hfetch, -, hwin⟩
  · rw [hnil, hwin]; rfl
  · rw [hfetch, upcoming, ← hwin]

/-! ## One pull -/

theorem plainRows_walk (filter? : Option RowFilter) (spent : Spent) (pending later : List Row) :
    plainRows filter? spent (pending ++ later) =
      match walk filter? spent pending with
      | .found row rest spent => row :: plainRows filter? spent (rest ++ later)
      | .over _ => []
      | .through spent => plainRows filter? spent later := by
  induction pending generalizing spent with
  | nil => rfl
  | cons row rest ih =>
    cases filter? with
    | none => rfl
    | some filter =>
      rw [List.cons_append, plainRows_some, walk]
      cases hacc : filter.accepts spent row.key with
      | mk accepted after =>
        cases accepted with
        | true => rfl
        | false =>
          dsimp only
          by_cases hex : filter.isExhausted after = true
          · simp only [hex, if_true]
            exact plainRows_of_exhausted hex _
          · simp only [hex]
            exact ih after

/-- The number of rounds that a pull may take from here. -/
def patience (scan : Scan) (t : Table) : Progress → Nat
  | .fresh => (scan.window t none).length + 2
  | .within _ last more => if more then (scan.window t (some last)).length + 2 else 1
  | .finished => 1

theorem patience_afterFetch {scan : Scan} (h : 0 < scan.batchSize) (t : Table)
    (last? : Option Bytes) :
    scan.patience t (scan.afterFetch (scan.batch t last?)) + 1 ≤
      (scan.window t last?).length + 2 := by
  rcases afterFetch_batch h t last? with ⟨hwin, hnil⟩ | ⟨last, more, hfetch, hne, hwin⟩
  · rw [hnil, hwin]; exact Nat.le_refl _
  · have hpos := List.length_pos_iff.2 hne
    rw [hfetch, patience]
    cases more with
    | false => simp
    | true =>
      have hlen := congrArg List.length hwin
      rw [if_pos rfl, List.length_append] at hlen
      rw [if_pos rfl]
      omega

theorem patience_pos (scan : Scan) (t : Table) (p : Progress) : 0 < scan.patience t p := by
  cases p <;> simp only [patience] <;> (try split) <;> omega

/-- The answer of a pull, and what it leaves, where these rows were to come. -/
def Answers {ε : Type} (scan : Scan) (t : Table) (rows : List Row) (r : Pull ε × Cursor) : Prop :=
  match rows with
  | [] => r.1 = .ended ∧ r.2.progress = .finished
  | row :: rest => r.1 = .row row ∧ scan.upcoming t r.2.spent r.2.progress = rest

theorem pullWithin_answers {ε : Type} {scan : Scan} (h : 0 < scan.batchSize) (t : Table)
    (fuel : Nat) (c : Cursor) (hfuel : scan.patience t c.progress ≤ fuel) :
    scan.Answers t (scan.upcoming t c.spent c.progress)
      (scan.pullWithin (ε := ε) (.ok t) fuel c) := by
  induction fuel generalizing c with
  | zero => exact absurd (scan.patience_pos t c.progress) (by omega)
  | succ fuel ih =>
    obtain ⟨progress, spent, m⟩ := c
    -- A fetch spends one unit of fuel and leaves the same rows to come.
    have hfetch : ∀ last? spent, (scan.window t last?).length + 2 ≤ fuel + 1 →
        scan.Answers t (plainRows scan.filter spent (scan.window t last?))
          (scan.pullWithin (ε := ε) (.ok t) fuel
            ⟨scan.afterFetch (scan.batch t last?), spent, m.fetched⟩) := by
      intro last? spent hle
      have hp := patience_afterFetch h t last?
      have := ih ⟨scan.afterFetch (scan.batch t last?), spent, m.fetched⟩ (by dsimp only; omega)
      rwa [upcoming_afterFetch h] at this
    rw [pullWithin]
    cases progress with
    | finished => exact ⟨rfl, rfl⟩
    | fresh => exact hfetch none spent hfuel
    | within pending last more =>
      rw [upcoming, plainRows_walk]
      dsimp only
      cases hwalk : walk scan.filter spent pending with
      | found row rest after => exact ⟨rfl, rfl⟩
      | «over» after => exact ⟨rfl, rfl⟩
      | through after =>
        cases more with
        | false => exact ⟨rfl, rfl⟩
        | true => exact hfetch (some last) after (by simpa [patience] using hfuel)

theorem patience_le (scan : Scan) (t : Table) (p : Progress) :
    scan.patience t p ≤ t.entries.length + 2 := by
  have hrows : (t.rows scan.columns).length ≤ t.entries.length := List.length_filterMap_le _ _
  have hwin : ∀ last?, (scan.window t last?).length ≤ (t.rows scan.columns).length :=
    fun last? => List.length_filter_le _ _
  cases p with
  | fresh => have := hwin none; simp only [patience]; omega
  | within _ last more => have := hwin (some last); simp only [patience]; split <;> omega
  | finished => simp only [patience]; omega

/-- A pull gives the first of the rows that are to come, or ends if there are none. -/
theorem pull_answers {ε : Type} {scan : Scan} (h : 0 < scan.batchSize) (t : Table) (c : Cursor) :
    scan.Answers t (scan.upcoming t c.spent c.progress) (scan.pull (ε := ε) (.ok t) c) := by
  have hfuel := scan.patience_le t c.progress
  exact pullWithin_answers h t _ c (by rw [View.ok, viewSize]; omega)

end HourlyUsage.Scan
