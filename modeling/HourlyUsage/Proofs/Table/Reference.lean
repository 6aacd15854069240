import HourlyUsage.Proofs.Table.Paging
import HourlyUsage.Proofs.Table.StopKeys
/-!
# The reference answer of a scan

`Scan.kept` says what a scan gives in all, without batches and without a stop key: of the rows from
the start key upwards those that its filter keeps. Iterations of one scan share the memory of its
filter, so the answer of each could hang on what the others have done; `Scan.Memory` holds all the
memories that they can leave, and `Scan.Stands` says of an iteration that it has come so far with
any of them.

Sources: the iterator of a scanner, `stop_row`, `include_row`, `filter_all_remaining`.

Results:
* `keep_window`: the stop key cuts nothing off that the filter would keep.
* `memory_accepts`: asking about a row of the scan leads from such a memory to another.
* `stands_fresh`, `stands_pull`: an iteration stands at the beginning of the reference answer, and a
  pull takes it one row further, whatever memory it meets.
-/
namespace HourlyUsage

namespace RowFilter

/-- What every key starts with that the filter admits. -/
def stem : RowFilter → Bytes
  | all => []
  | startsWith stem => stem
  | whileMatch _ inner => inner.stem

theorem admits_iff (filter : RowFilter) (key : Bytes) :
    filter.admits key = true ↔ filter.stem <+: key := by
  induction filter with
  | all => simp [admits, stem]
  | startsWith stem => simp [admits, RowFilter.stem]
  | whileMatch _ inner ih => simpa [admits, stem] using ih

theorem stop?_eq (filter : RowFilter) : filter.stop? = successor? filter.stem := by
  induction filter with
  | all => rfl
  | startsWith _ => rfl
  | whileMatch _ inner ih => exact ih

/-- Above a key that is admitted and below the stop key every key is admitted. -/
theorem admits_of_between {filter : RowFilter} {first key : Bytes}
    (hfirst : filter.admits first = true) (hle : ¬ key < first)
    (hstop : ∀ stop ∈ filter.stop?, key < stop) : filter.admits key = true := by
  rw [admits_iff, prefix_iff_between] at hfirst ⊢
  rw [stop?_eq] at hstop
  refine ⟨fun hlt => hfirst.1 ?_, hstop⟩
  exact Std.lt_of_le_of_lt (Std.not_lt.1 hle) hlt

theorem admits_lt_stop {filter : RowFilter} {key : Bytes} (h : filter.admits key = true) :
    ∀ stop ∈ filter.stop?, key < stop := by
  rw [admits_iff, prefix_iff_between] at h
  rw [stop?_eq]
  exact h.2

end RowFilter

/-- Cutting an ascending list at a bound does not change its longest run of elements with a
property that holds only below the bound. -/
theorem takeWhile_filter {α : Type} {R : α → α → Prop} {p below : α → Bool} {l : List α}
    (hl : l.Pairwise R) (hdown : ∀ a b, R a b → below b = true → below a = true)
    (hp : ∀ a, p a = true → below a = true) : (l.filter below).takeWhile p = l.takeWhile p := by
  induction l with
  | nil => rfl
  | cons a rest ih =>
    obtain ⟨hhead, htail⟩ := List.pairwise_cons.1 hl
    cases hb : below a with
    | true => simp [hb, List.takeWhile_cons, ih htail]
    | false =>
      have hnil : rest.filter below = [] :=
        List.filter_eq_nil_iff.2 fun b hmem hbelow => by
          rw [hdown a b (hhead b hmem) hbelow] at hb; cases hb
      have hpa : p a = false := by
        cases hpa : p a with
        | false => rfl
        | true => rw [hp a hpa] at hb; cases hb
      simp [hb, hnil, hpa]

namespace Scan

/-- What the filter of the scan keeps of some rows. -/
def kept (scan : Scan) (rows : List Row) : List Row :=
  match scan.filter with
  | none => rows
  | some filter => filter.keep rows

/-- The filter of the scan, if it has one, has rejected nothing. -/
def Fresh (scan : Scan) (spent : Spent) : Prop := ∀ filter ∈ scan.filter, filter.Fresh spent

/-- The rows of a table from the start key upwards. -/
def above (scan : Scan) (t : Table) : List Row :=
  (t.rows scan.columns).filter fun row => !decide (row.key < scan.start)

theorem plainRows_kept {scan : Scan} {spent : Spent} (h : scan.Fresh spent) (rows : List Row) :
    plainRows scan.filter spent rows = scan.kept rows := by
  unfold kept
  cases hf : scan.filter with
  | none => exact plainRows_none spent rows
  | some filter => exact plainRows_of_fresh (h filter hf) rows

theorem window_none_eq (scan : Scan) (t : Table) :
    scan.window t none = (scan.above t).filter fun row =>
      match scan.stop? with
      | none => true
      | some stop => decide (row.key < stop) := by
  rw [window, above, List.filter_filter]
  congr 1
  funext row
  exact Bool.and_comm _ _

/-- The stop key cuts nothing off that the filter would keep. -/
theorem keep_window (scan : Scan) (t : Table) :
    scan.kept (scan.window t none) = scan.kept (scan.above t) := by
  have habove : (scan.above t).Pairwise fun a b => a.key < b.key :=
    (t.rows_ascending scan.columns).filter _
  rw [window_none_eq]
  unfold kept stop?
  cases scan.filter with
  | none => simp
  | some filter =>
    rw [Option.bind_some]
    cases hstop : filter.stop? with
    | none => rw [List.filter_eq_self.2 fun _ _ => rfl]
    | some stop =>
      have hlt : ∀ row : Row, filter.admits row.key = true → decide (row.key < stop) = true :=
        fun row h => decide_eq_true (RowFilter.admits_lt_stop h stop hstop)
      have hall : ∀ rows : List Row,
          (rows.filter fun row => decide (row.key < stop)).filter
            (fun row => filter.admits row.key) = rows.filter fun row => filter.admits row.key := by
        intro rows
        rw [List.filter_filter]
        congr 1
        funext row
        cases h : filter.admits row.key with
        | false => rfl
        | true => rw [hlt row h]; rfl
      cases filter with
      | all => exact hall _
      | startsWith _ => exact hall _
      | whileMatch number inner =>
        refine takeWhile_filter habove ?_ hlt
        intro a b hab hb
        exact decide_eq_true (List.lt_trans hab (of_decide_eq_true hb))

/-- Where nothing after a rejected element is accepted, the longest accepted run is all that is
accepted. -/
theorem takeWhile_eq_filter {α : Type} {R : α → α → Prop} {p : α → Bool} {l : List α}
    (hl : l.Pairwise R) (hdown : ∀ a ∈ l, ∀ b ∈ l, R a b → p b = true → p a = true) :
    l.takeWhile p = l.filter p := by
  induction l with
  | nil => rfl
  | cons a rest ih =>
    obtain ⟨hhead, htail⟩ := List.pairwise_cons.1 hl
    cases hpa : p a with
    | true =>
      have hrest := ih htail fun b hb c hc =>
        hdown b (List.mem_cons_of_mem _ hb) c (List.mem_cons_of_mem _ hc)
      simp [hpa, hrest]
    | false =>
      have hnil : rest.filter p = [] :=
        List.filter_eq_nil_iff.2 fun b hb hpb => by
          have := hdown a (List.mem_cons_self ..) b (List.mem_cons_of_mem _ hb) (hhead b hb) hpb
          rw [hpa] at this
          cases this
      simp [hpa, hnil]

/-- A scan that starts at a stem and stops at the first key without it gives the rows below the
stem. -/
theorem kept_above_startsWith {scan : Scan} {number : Nat}
    (hf : scan.filter = some (.whileMatch number (.startsWith scan.start))) (t : Table) :
    scan.kept (scan.above t) =
      (t.rows scan.columns).filter fun row => scan.start.isPrefixOf row.key := by
  have habove : (scan.above t).Pairwise fun a b => a.key < b.key :=
    (t.rows_ascending scan.columns).filter _
  have hdown : ∀ a ∈ scan.above t, ∀ b ∈ scan.above t, a.key < b.key →
      (RowFilter.startsWith scan.start).admits b.key = true →
      (RowFilter.startsWith scan.start).admits a.key = true := by
    intro a ha b _ hab hb
    have hge : ¬ a.key < scan.start := by simpa using (List.mem_filter.1 ha).2
    rw [RowFilter.admits_iff, RowFilter.stem, prefix_iff_between] at hb ⊢
    exact ⟨hge, fun stop hstop => List.lt_trans hab (hb.2 stop hstop)⟩
  rw [kept, hf]
  dsimp only [RowFilter.keep]
  rw [takeWhile_eq_filter habove hdown, above, List.filter_filter]
  congr 1
  funext row
  rw [RowFilter.admits]
  cases hrow : scan.start.isPrefixOf row.key with
  | false => rfl
  | true =>
    have hge := ((prefix_iff_between _ _).1 (List.isPrefixOf_iff_prefix.1 hrow)).1
    simp [hge]

/-! ## The memories that iterations can leave -/

/-- A memory in which the filter has rejected nothing, or one in which it is exhausted although the
scan gives nothing anyway. -/
def Memory (scan : Scan) (t : Table) (spent : Spent) : Prop :=
  ∀ filter ∈ scan.filter, filter.Fresh spent ∨
    (filter.isExhausted spent = true ∧ scan.kept (scan.window t none) = [])

theorem Fresh.memory {scan : Scan} {spent : Spent} (h : scan.Fresh spent) (t : Table) :
    scan.Memory t spent := fun filter hf => .inl (h filter hf)

/-- A row of the window that a while-match filter does not admit means that the first one is not
admitted either. -/
theorem kept_eq_nil {scan : Scan} {t : Table} {number : Nat} {inner : RowFilter}
    (hf : scan.filter = some (.whileMatch number inner)) {row : Row}
    (hrow : row ∈ scan.window t none) (hnot : inner.admits row.key = false) :
    scan.kept (scan.window t none) = [] := by
  have hasc := scan.window_ascending t none
  have hrange : scan.inRange none row.key = true := (List.mem_filter.1 hrow).2
  rw [kept, hf]
  cases hwin : scan.window t none with
  | nil => rfl
  | cons first rest =>
    have hle : ¬ row.key < first.key := by
      rw [hwin] at hrow hasc
      rcases List.mem_cons.1 hrow with rfl | hmem
      · exact List.lt_irrefl _
      · exact List.lt_asymm ((List.pairwise_cons.1 hasc).1 row hmem)
    have hstop : ∀ stop ∈ inner.stop?, row.key < stop := by
      have h := ((inRange_none_iff scan row.key).1 hrange).2
      rwa [Scan.stop?, hf] at h
    have hfirst : inner.admits first.key = false := by
      cases h : inner.admits first.key with
      | false => rfl
      | true => rw [RowFilter.admits_of_between h hle hstop] at hnot; cases hnot
    simp [RowFilter.keep, hfirst]

theorem memory_accepts {scan : Scan} {t : Table} {spent : Spent} (h : scan.Memory t spent)
    {filter : RowFilter} (hf : scan.filter = some filter) {row : Row}
    (hrow : row ∈ scan.window t none) : scan.Memory t (filter.accepts spent row.key).2 := by
  intro filter' hf'
  obtain rfl : filter = filter' := Option.some.inj (hf.symm.trans hf')
  rcases h filter hf with hfresh | ⟨hex, hnil⟩
  · rw [RowFilter.accepts_of_fresh hfresh]
    cases hadm : filter.admits row.key with
    | true => exact .inl hfresh
    | false =>
      cases filter with
      | all => cases hadm
      | startsWith stem => exact .inl hfresh
      | whileMatch number inner =>
        refine .inr ⟨?_, kept_eq_nil hf hrow hadm⟩
        simp [RowFilter.isExhausted, RowFilter.numbers]
  · exact .inr ⟨RowFilter.isExhausted_mono hex (filter.mem_accepts row.key), hnil⟩

/-- The numbers of the while-match filters of a scan. -/
def numbers (scan : Scan) : List Nat :=
  match scan.filter with
  | none => []
  | some filter => filter.numbers

theorem Memory.congr {scan : Scan} {t : Table} {spent spent' : Spent} (h : scan.Memory t spent)
    (heq : ∀ n ∈ scan.numbers, n ∈ spent ↔ n ∈ spent') : scan.Memory t spent' := by
  intro filter hf
  have hf' : scan.filter = some filter := hf
  simp only [numbers, hf'] at heq
  rcases h filter hf with hfresh | ⟨hex, hnil⟩
  · exact .inl ⟨hfresh.nodup, fun n hn hmem => hfresh.unspent n hn ((heq n hn).2 hmem)⟩
  · obtain ⟨n, hn, hmem⟩ := (RowFilter.isExhausted_iff spent filter).1 hex
    exact .inr ⟨(RowFilter.isExhausted_iff spent' filter).2 ⟨n, hn, (heq n hn).1 hmem⟩, hnil⟩

/-- A memory has grown from another one, by numbers of the scan only. -/
structure Grown (scan : Scan) (spent later : Spent) : Prop where
  kept : ∀ n ∈ spent, n ∈ later
  own : ∀ n ∈ later, n ∈ spent ∨ n ∈ scan.numbers

theorem Grown.refl (scan : Scan) (spent : Spent) : scan.Grown spent spent :=
  ⟨fun _ h => h, fun _ h => .inl h⟩

theorem Grown.trans {scan : Scan} {a b c : Spent} (h : scan.Grown a b) (h' : scan.Grown b c) :
    scan.Grown a c :=
  ⟨fun n hn => h'.kept n (h.kept n hn), fun n hn => (h'.own n hn).elim (h.own n) .inr⟩

theorem accepts_grown {scan : Scan} {filter : RowFilter} (hf : scan.filter = some filter)
    (spent : Spent) (key : Bytes) : scan.Grown spent (filter.accepts spent key).2 := by
  refine ⟨filter.mem_accepts key, ?_⟩
  intro n hn
  rw [numbers, hf]
  exact filter.mem_of_mem_accepts key n hn

theorem walk_grown (scan : Scan) (spent : Spent) (pending : List Row) :
    match walk scan.filter spent pending with
    | .found _ _ later => scan.Grown spent later
    | .over later => scan.Grown spent later
    | .through later => scan.Grown spent later := by
  induction pending generalizing spent with
  | nil => exact .refl scan spent
  | cons row rest ih =>
    cases hf : scan.filter with
    | none => exact .refl scan spent
    | some filter =>
      have hacc := accepts_grown hf spent row.key
      rw [walk]
      cases heq : filter.accepts spent row.key with
      | mk accepted after =>
        rw [heq] at hacc
        cases accepted with
        | true => exact hacc
        | false =>
          dsimp only
          have hgo := ih after
          rw [hf] at hgo
          by_cases hex : filter.isExhausted after = true
          · simpa only [if_pos hex] using hacc
          · rw [if_neg hex]
            split at hgo <;> exact hacc.trans hgo

theorem pullWithin_grown {ε : Type} (scan : Scan) (view : View ε) (fuel : Nat) (c : Cursor) :
    scan.Grown c.spent (scan.pullWithin view fuel c).2.spent := by
  induction fuel generalizing c with
  | zero => exact .refl scan c.spent
  | succ fuel ih =>
    obtain ⟨progress, spent, m⟩ := c
    -- A fetch asks the filter about no row.
    have hfetch : ∀ rows later, scan.Grown spent later → scan.Grown spent
        (pullWithin scan view fuel ⟨scan.afterFetch rows, later, m.fetched⟩).2.spent :=
      fun rows later hlater => hlater.trans (ih ⟨scan.afterFetch rows, later, m.fetched⟩)
    rw [pullWithin]
    cases progress with
    | finished => exact .refl scan spent
    | fresh =>
      dsimp only
      cases scan.nextBatch view none with
      | error e => exact .refl scan spent
      | ok rows => exact hfetch rows spent (.refl scan spent)
    | within pending last more =>
      have hwalk := walk_grown scan spent pending
      dsimp only
      cases hw : walk scan.filter spent pending with
      | found row rest later => rw [hw] at hwalk; exact hwalk
      | «over» later => rw [hw] at hwalk; exact hwalk
      | through later =>
        rw [hw] at hwalk
        cases more with
        | false => exact hwalk
        | true =>
          dsimp only [if_true]
          cases scan.nextBatch view (some last) with
          | error e => exact hwalk
          | ok rows => exact hfetch rows later hwalk

theorem pull_grown {ε : Type} (scan : Scan) (view : View ε) (c : Cursor) :
    scan.Grown c.spent (scan.pull view c).2.spent := pullWithin_grown scan view _ c

/-- What an iteration still holds of its batch comes from the window, and so does its last key. -/
def Inside (scan : Scan) (t : Table) : Progress → Prop
  | .within pending last _ =>
    (∀ row ∈ pending, row ∈ scan.window t none) ∧ scan.inRange none last = true
  | _ => True

theorem memory_walk {scan : Scan} {t : Table} {spent : Spent} {pending : List Row}
    (h : scan.Memory t spent) (hin : ∀ row ∈ pending, row ∈ scan.window t none) :
    match walk scan.filter spent pending with
    | .found _ rest spent => scan.Memory t spent ∧ ∀ row ∈ rest, row ∈ scan.window t none
    | .over spent => scan.Memory t spent
    | .through spent => scan.Memory t spent := by
  induction pending generalizing spent with
  | nil => exact h
  | cons row rest ih =>
    have hrest : ∀ row ∈ rest, row ∈ scan.window t none :=
      fun r hr => hin r (List.mem_cons_of_mem _ hr)
    cases hf : scan.filter with
    | none => exact ⟨h, hrest⟩
    | some filter =>
      have hafter := memory_accepts h hf (hin row (List.mem_cons_self ..))
      rw [walk]
      cases hacc : filter.accepts spent row.key with
      | mk accepted after =>
        rw [hacc] at hafter
        cases accepted with
        | true => exact ⟨hafter, hrest⟩
        | false =>
          dsimp only
          by_cases hex : filter.isExhausted after = true
          · simpa only [if_pos hex] using hafter
          · have hgo := ih hafter hrest
            rw [hf] at hgo
            simpa only [if_neg hex] using hgo

theorem window_some_subset {scan : Scan} {t : Table} {last : Bytes}
    (h : scan.inRange none last = true) :
    ∀ row ∈ scan.window t (some last), row ∈ scan.window t none := by
  intro row hrow
  rw [window_behind h] at hrow
  exact (List.mem_filter.1 hrow).1

theorem inside_afterFetch {scan : Scan} (h : 0 < scan.batchSize) {t : Table}
    {last? : Option Bytes} (hsub : ∀ row ∈ scan.window t last?, row ∈ scan.window t none) :
    scan.Inside t (scan.afterFetch (scan.batch t last?)) := by
  have hbatch : ∀ row ∈ scan.batch t last?, row ∈ scan.window t none := by
    rw [batch_eq_take h]
    exact fun row hrow => hsub row (List.mem_of_mem_take hrow)
  generalize scan.batch t last? = rows at hbatch ⊢
  unfold afterFetch
  cases hlast : rows.getLast? with
  | none => exact True.intro
  | some last =>
    exact ⟨hbatch, (List.mem_filter.1 (hbatch last (List.mem_of_getLast? hlast))).2⟩

theorem memory_pullWithin {ε : Type} {scan : Scan} (h : 0 < scan.batchSize) {t : Table}
    (fuel : Nat) {c : Cursor} (hmem : scan.Memory t c.spent) (hin : scan.Inside t c.progress) :
    scan.Memory t (scan.pullWithin (ε := ε) (.ok t) fuel c).2.spent ∧
      scan.Inside t (scan.pullWithin (ε := ε) (.ok t) fuel c).2.progress := by
  induction fuel generalizing c with
  | zero => exact ⟨hmem, True.intro⟩
  | succ fuel ih =>
    obtain ⟨progress, spent, m⟩ := c
    rw [pullWithin]
    cases progress with
    | finished => exact ⟨hmem, True.intro⟩
    | fresh => exact ih hmem (inside_afterFetch h fun _ hrow => hrow)
    | within pending last more =>
      have hwalk := memory_walk hmem hin.1
      dsimp only
      cases hw : walk scan.filter spent pending with
      | found row rest after => rw [hw] at hwalk; exact ⟨hwalk.1, hwalk.2, hin.2⟩
      | «over» after => rw [hw] at hwalk; exact ⟨hwalk, True.intro⟩
      | through after =>
        rw [hw] at hwalk
        cases more with
        | false => exact ⟨hwalk, True.intro⟩
        | true => exact ih hwalk (inside_afterFetch h (window_some_subset hin.2))

/-! ## How far an iteration has come -/

/-- The iteration has given the first `n` rows of the reference answer, or all of them, and gives
the others whatever memory it meets. -/
structure Stands (scan : Scan) (t : Table) (p : Progress) (n : Nat) : Prop where
  inside : scan.Inside t p
  upcoming : ∀ spent, scan.Memory t spent →
    scan.upcoming t spent p = (scan.kept (scan.above t)).drop n

/-- The answer to the pull that finds `n` rows of a list given. -/
def answerAt {ε : Type} (rows : List Row) (n : Nat) : Pull ε :=
  match rows[n]? with
  | some row => .row row
  | none => .ended

theorem fresh_of_memory {scan : Scan} {t : Table} {spent : Spent} (h : scan.Memory t spent)
    (hne : scan.kept (scan.window t none) ≠ []) : scan.Fresh spent := by
  intro filter hf
  rcases h filter hf with hfresh | ⟨-, hnil⟩
  · exact hfresh
  · exact absurd hnil hne

theorem upcoming_of_fresh {scan : Scan} {spent spent' : Spent} (h : scan.Fresh spent)
    (h' : scan.Fresh spent') (t : Table) (p : Progress) :
    scan.upcoming t spent p = scan.upcoming t spent' p := by
  cases p with
  | fresh => rw [Scan.upcoming, Scan.upcoming, plainRows_kept h, plainRows_kept h']
  | within _ _ _ => rw [Scan.upcoming, Scan.upcoming, plainRows_kept h, plainRows_kept h']
  | finished => rfl

theorem stands_fresh (scan : Scan) (t : Table) : scan.Stands t .fresh 0 where
  inside := True.intro
  upcoming spent hmem := by
    rw [Scan.upcoming, List.drop_zero, ← keep_window]
    by_cases hnil : scan.kept (scan.window t none) = []
    · cases hf : scan.filter with
      | none => rw [plainRows_none, kept, hf]
      | some filter =>
        rcases hmem filter hf with hfresh | ⟨hex, -⟩
        · rw [plainRows_of_fresh hfresh, kept, hf]
        · rw [plainRows_of_exhausted hex, hnil]
    · exact plainRows_kept (fresh_of_memory hmem hnil) _

/-- A pull takes an iteration one row further. -/
theorem stands_pull {ε : Type} {scan : Scan} (h : 0 < scan.batchSize) {t : Table} {n : Nat}
    {c : Cursor} (hmem : scan.Memory t c.spent) (hst : scan.Stands t c.progress n) :
    (scan.pull (ε := ε) (.ok t) c).1 = answerAt (scan.kept (scan.above t)) n ∧
      scan.Memory t (scan.pull (ε := ε) (.ok t) c).2.spent ∧
      scan.Stands t (scan.pull (ε := ε) (.ok t) c).2.progress (n + 1) := by
  have hans := pull_answers (ε := ε) h t c
  obtain ⟨hmem', hin'⟩ :=
    memory_pullWithin (ε := ε) h (viewSize (ε := ε) (.ok t) + 3) hmem hst.inside
  rw [hst.upcoming c.spent hmem] at hans
  change scan.Memory t (scan.pull (ε := ε) (.ok t) c).2.spent at hmem'
  change scan.Inside t (scan.pull (ε := ε) (.ok t) c).2.progress at hin'
  generalize scan.pull (ε := ε) (.ok t) c = r at hans hmem' hin' ⊢
  have hdrop : (scan.kept (scan.above t)).drop (n + 1) =
      ((scan.kept (scan.above t)).drop n).tail := by rw [List.tail_drop]
  have hget : (scan.kept (scan.above t))[n]? = ((scan.kept (scan.above t)).drop n).head? := by
    rw [List.head?_drop]
  cases hrest : (scan.kept (scan.above t)).drop n with
  | nil =>
    rw [hrest] at hans hdrop hget
    refine ⟨by rw [hans.1, answerAt, hget]; rfl, hmem', hin', ?_⟩
    intro spent _
    rw [hans.2, hdrop]; rfl
  | cons row rest =>
    rw [hrest] at hans hdrop hget
    have hne : scan.kept (scan.window t none) ≠ [] := by
      rw [keep_window]; intro he; rw [he, List.drop_nil] at hrest; cases hrest
    refine ⟨by rw [hans.1, answerAt, hget]; rfl, hmem', hin', ?_⟩
    intro spent hspent
    rw [hdrop, List.tail_cons, ← hans.2]
    exact upcoming_of_fresh (fresh_of_memory hspent hne) (fresh_of_memory hmem' hne) t _

end Scan

end HourlyUsage
