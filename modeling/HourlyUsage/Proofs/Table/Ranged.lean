import HourlyUsage.Proofs.Table.Reference
/-!
# Scans of a range

The scans that are used in earnest have no filter, or a while-match filter for exactly the keys that
begin with the start key. Then the stop key alone decides which rows match, the filter rejects no
row that it is asked about, and a pull can be followed step by step even while the table changes.

Sources: the iterator of a scanner, on the scans that `list_by_prefix` makes.

Results:
* `inRange_none_iff_covers`: the range holds exactly the keys that the scan is meant for.
* `batch_split`: a batch, the rows behind it, and its last key.
* `pull_cases`: how a pull can end, and what it leaves, whatever table it meets.
-/
namespace HourlyUsage

/-- The rows of the batch in memory that have not been looked at. -/
def Progress.pending : Progress → List Row
  | .within pending _ _ => pending
  | _ => []

/-- The batch that has to be fetched before a row can be given, if one has to: the one behind a key,
or the first one. -/
def Progress.wants? : Progress → Option (Option Bytes)
  | .fresh => some none
  | .within [] last true => some (some last)
  | _ => none

namespace Scan

/-- The scan has no filter, or one that keeps what begins with the start key. -/
def Ranged (scan : Scan) : Prop :=
  scan.filter = none ∨ ∃ number, scan.filter = some (.whileMatch number (.startsWith scan.start))

def Covers (scan : Scan) (key : Bytes) : Prop :=
  ¬ key < scan.start ∧ ∀ filter ∈ scan.filter, filter.admits key = true

theorem inRange_none_iff_covers {scan : Scan} (h : scan.Ranged) (key : Bytes) :
    scan.inRange none key = true ↔ scan.Covers key := by
  rw [inRange_none_iff, Covers, stop?]
  rcases h with hf | ⟨number, hf⟩
  · simp [hf]
  · have hstop : (RowFilter.whileMatch number (.startsWith scan.start)).stop? =
        successor? scan.start := rfl
    have hbetween := prefix_iff_between scan.start key
    simp only [hf, Option.bind_some, hstop, Option.mem_def, Option.some.injEq, forall_eq',
      RowFilter.admits, List.isPrefixOf_iff_prefix]
    constructor
    · intro hin
      exact ⟨hin.1, hbetween.2 hin⟩
    · intro hcovers
      exact hbetween.1 hcovers.2

/-- The filter lets every row of the range through and remembers nothing of it. -/
theorem walk_of_ranged {scan : Scan} (h : scan.Ranged) {spent : Spent} (hfresh : scan.Fresh spent)
    {row : Row} (hrow : scan.inRange none row.key = true) (rest : List Row) :
    walk scan.filter spent (row :: rest) = .found row rest spent := by
  have hcovers := (inRange_none_iff_covers h row.key).1 hrow
  cases hf : scan.filter with
  | none => rfl
  | some filter =>
    have hadmits := hcovers.2 filter hf
    rw [walk, RowFilter.accepts_of_fresh (hfresh filter hf), hadmits]
    rfl

/-! ## A batch and what lies behind it -/

/-- A batch that is not empty, cut from the window of a table. -/
structure Batch (scan : Scan) (t : Table) (last? : Option Bytes) (rows : List Row) (last : Bytes)
    (more : Bool) : Prop where
  window : scan.window t last? = rows ++ if more then scan.window t (some last) else []
  greatest : ∀ row ∈ rows, ¬ last < row.key
  isKey : ∃ row ∈ rows, row.key = last

theorem batch_split {scan : Scan} (h : 0 < scan.batchSize) (t : Table) (last? : Option Bytes)
    (hne : scan.batch t last? ≠ []) :
    ∃ last more, scan.afterFetch (scan.batch t last?) = .within (scan.batch t last?) last more ∧
      scan.Batch t last? (scan.batch t last?) last more := by
  rcases afterFetch_batch h t last? with ⟨-, hnil⟩ | ⟨last, more, hafter, -, hwindow⟩
  · exact absurd hnil hne
  · refine ⟨last, more, hafter, ?_⟩
    have hasc : (scan.batch t last?).Pairwise fun a b => a.key < b.key := by
      rw [batch_eq_take h]
      exact (scan.window_ascending t last?).take
    unfold afterFetch at hafter
    cases hlast : (scan.batch t last?).getLast? with
    | none => exact absurd (List.getLast?_eq_none_iff.1 hlast) hne
    | some row =>
      rw [hlast] at hafter
      obtain ⟨-, rfl, -⟩ := Progress.within.inj hafter
      exact ⟨hwindow, not_last_lt hasc hlast, row, List.mem_of_getLast? hlast, rfl⟩

theorem Batch.mem_window {scan : Scan} {t : Table} {last? : Option Bytes} {rows : List Row}
    {last : Bytes} {more : Bool} (h : scan.Batch t last? rows last more) :
    ∀ row ∈ rows, row ∈ scan.window t last? := by
  intro row hrow
  rw [h.window]
  exact List.mem_append_left _ hrow

/-! ## One pull -/

/-- What an iteration holds lies in the range, and so does the key that it goes on from. -/
def Keeps (scan : Scan) : Progress → Prop
  | .within pending last _ =>
    (∀ row ∈ pending, scan.inRange none row.key = true) ∧ scan.inRange none last = true
  | _ => True

theorem inRange_of_wants {scan : Scan} {p : Progress} (h : scan.Keeps p) {last? : Option Bytes}
    (hwants : p.wants? = some last?) {key : Bytes} (hkey : scan.inRange last? key = true) :
    scan.inRange none key = true := by
  cases p with
  | fresh => cases hwants; exact hkey
  | finished => cases hwants
  | within pending last more =>
    cases pending with
    | cons _ _ => cases hwants
    | nil =>
      cases more with
      | false => cases hwants
      | true =>
        cases hwants
        rw [inRange_behind h.2, Bool.and_eq_true] at hkey
        exact hkey.1

inductive PullResult {ε : Type} (scan : Scan) (view : View ε) (c : Cursor) :
    Pull ε × Cursor → Prop where
  /-- The next row of the batch in memory. -/
  | held (row : Row) (rest : List Row) (last : Bytes) (more : Bool)
      (hp : c.progress = .within (row :: rest) last more) :
      PullResult scan view c (.row row, ⟨.within rest last more, c.spent, c.metrics.record row⟩)
  /-- The iteration had come to its end before. -/
  | past (hp : c.progress = .finished) : PullResult scan view c (.ended, c)
  /-- The last batch is used up. -/
  | through (last : Bytes) (hp : c.progress = .within [] last false) :
      PullResult scan view c (.ended, ⟨.finished, c.spent, c.metrics⟩)
  /-- A batch is needed and cannot be fetched. -/
  | failed (last? : Option Bytes) (hwants : c.progress.wants? = some last?) (e : ε)
      (hnext : scan.nextBatch view last? = .error e) :
      PullResult scan view c (.failed e, ⟨.finished, c.spent, c.metrics⟩)
  /-- A batch was fetched, and there is nothing in it. -/
  | empty (last? : Option Bytes) (hwants : c.progress.wants? = some last?) (t : Table)
      (htable : view.table = .ok t) (hbatch : scan.window t last? = []) :
      PullResult scan view c (.ended, ⟨.finished, c.spent, c.metrics.fetched⟩)
  /-- The first row of a new batch. -/
  | fetched (last? : Option Bytes) (hwants : c.progress.wants? = some last?) (t : Table)
      (htable : view.table = .ok t) (row : Row) (rest : List Row) (last : Bytes) (more : Bool)
      (hbatch : scan.Batch t last? (row :: rest) last more) :
      PullResult scan view c
        (.row row, ⟨.within rest last more, c.spent, c.metrics.fetched.record row⟩)

section

variable {ε : Type} {scan : Scan} {spent : Spent}

theorem fetch_result (hpos : 0 < scan.batchSize) (hranged : scan.Ranged)
    (hfresh : scan.Fresh spent) {c : Cursor} (hkeeps : scan.Keeps c.progress)
    (hspent : c.spent = spent) {last? : Option Bytes} (hwants : c.progress.wants? = some last?)
    {view : View ε} {rows : List Row} (hnext : scan.nextBatch view last? = .ok rows) (fuel : Nat) :
    scan.PullResult view c
      (scan.pullWithin view (fuel + 1) ⟨scan.afterFetch rows, spent, c.metrics.fetched⟩) := by
  subst hspent
  obtain ⟨t, htable, rfl, -⟩ := nextBatch_eq_ok_iff.1 hnext
  cases hbatch : scan.batch t last? with
  | nil =>
    have hwindow : scan.window t last? = [] := by
      rcases afterFetch_batch hpos t last? with ⟨hnil, -⟩ | ⟨_, _, _, hne, _⟩
      · exact hnil
      · exact absurd hbatch hne
    exact .empty last? hwants t htable hwindow
  | cons row rest =>
    obtain ⟨last, more, hafter, hsplit⟩ := batch_split hpos t last? (by rw [hbatch]; simp)
    rw [hbatch] at hafter hsplit
    have hrow : scan.inRange none row.key = true := by
      have hmem := hsplit.mem_window row (List.mem_cons_self ..)
      exact inRange_of_wants hkeeps hwants (List.mem_filter.1 hmem).2
    rw [hafter, pullWithin]
    dsimp only
    rw [walk_of_ranged hranged hfresh hrow]
    exact .fetched last? hwants t htable row rest last more hsplit

/-- How a pull can end, whatever table it meets. -/
theorem pull_cases (hpos : 0 < scan.batchSize) (hranged : scan.Ranged) (view : View ε)
    {c : Cursor} (hfresh : scan.Fresh c.spent) (hkeeps : scan.Keeps c.progress) :
    scan.PullResult view c (scan.pull view c) := by
  obtain ⟨progress, spent, m⟩ := c
  rw [pull, pullWithin]
  cases progress with
  | finished => exact .past rfl
  | fresh =>
    dsimp only
    cases hnext : scan.nextBatch view none with
    | error e => exact .failed none rfl e hnext
    | ok rows => exact fetch_result hpos hranged hfresh hkeeps rfl rfl hnext _
  | within pending last more =>
    cases pending with
    | cons row rest =>
      dsimp only
      rw [walk_of_ranged hranged hfresh (hkeeps.1 row (List.mem_cons_self ..))]
      exact .held row rest last more rfl
    | nil =>
      cases more with
      | false => exact .through last rfl
      | true =>
        dsimp only [walk, if_true]
        cases hnext : scan.nextBatch view (some last) with
        | error e => exact .failed (some last) rfl e hnext
        | ok rows => exact fetch_result hpos hranged hfresh hkeeps rfl rfl hnext _

theorem PullResult.same_spent {view : View ε} {c : Cursor} {r : Pull ε × Cursor}
    (h : scan.PullResult view c r) : r.2.spent = c.spent := by
  cases h <;> rfl

theorem PullResult.wants {view : View ε} {c : Cursor} {r : Pull ε × Cursor}
    (h : scan.PullResult view c r) (hfetched : r.2.metrics.roundTrips ≠ c.metrics.roundTrips) :
    ∃ last?, c.progress.wants? = some last? := by
  cases h with
  | empty last? hwants _ _ _ => exact ⟨last?, hwants⟩
  | fetched last? hwants _ _ _ _ _ _ _ => exact ⟨last?, hwants⟩
  | _ => exact absurd rfl hfetched

theorem PullResult.failed_of_wants {view : View ε} {e : ε} (htable : view.table = .error e)
    {c : Cursor} {r : Pull ε × Cursor} (h : scan.PullResult view c r) {last? : Option Bytes}
    (hwants : c.progress.wants? = some last?) : r.1 = .failed e := by
  cases h with
  | held row rest last more hp => rw [hp] at hwants; cases hwants
  | past hp => rw [hp] at hwants; cases hwants
  | through last hp => rw [hp] at hwants; cases hwants
  | failed _ _ _ hnext =>
    rcases nextBatch_eq_error_iff.1 hnext with hsame | ⟨t, _, hok, -⟩
    · rw [htable] at hsame
      cases hsame
      rfl
    · rw [htable] at hok
      cases hok
  | empty _ _ t hok _ => rw [htable] at hok; cases hok
  | fetched _ _ t hok _ _ _ _ _ => rw [htable] at hok; cases hok

end

end Scan

end HourlyUsage
