import HourlyUsage.Proofs.Database.Growth
import HourlyUsage.Proofs.Store.Pulls
import HourlyUsage.Proofs.Table.Ranged
/-!
# What an iteration has delivered

Between two pulls of an iteration the table can take on rows anywhere: before the rows already
given, among those of the batch in memory, behind it. `Delivery` is what stays true all the same. It
ties the rows given and the batch in memory to the first table that the iteration met: every row of
that table up to the key from which the iteration goes on has been given or lies in the batch.

Sources: the iterator of a scanner, with `_fetch_batch`.

Results:
* `Delivery.later`: growing tables do no harm.
* `Delivery.pull`: what a pull preserves, a row, the end and a failure alike.
* `Delivery.row_of_table`, `Delivery.all_given`: where a row comes from, and what the end means.
-/
namespace HourlyUsage

/-- One pull as it went: what the scanner's connection saw, whether a batch was fetched, and the
answer. -/
structure Pulled where
  seen : Except Fault Table
  fetched : Bool
  answer : Answer

namespace Pulled

def row? (p : Pulled) : Option Row :=
  match p.answer with
  | .row row => some row
  | _ => none

def yielded (pulls : List Pulled) : List Row := pulls.filterMap row?

def firstSeen? (pulls : List Pulled) : Option Table := pulls.head?.bind fun p => p.seen.toOption

def batchTable? (p : Pulled) : Option Table := if p.fetched then p.seen.toOption else none

/-- The table from which the last batch was fetched. -/
def lastFetched? (pulls : List Pulled) : Option Table := (pulls.filterMap batchTable?).getLast?

def Unfailed (pulls : List Pulled) : Prop := ∀ p ∈ pulls, ∀ e, p.answer ≠ .failed e

theorem yielded_snoc (pulls : List Pulled) (p : Pulled) :
    yielded (pulls ++ [p]) = yielded pulls ++ p.row?.toList := by
  unfold yielded
  rw [List.filterMap_append]
  cases h : p.row? <;> simp [h]

theorem yielded_row (pulls : List Pulled) (seen : Except Fault Table) (fetched : Bool) (row : Row)
    (rest : List Row) :
    yielded (pulls ++ [⟨seen, fetched, .row row⟩]) ++ rest = yielded pulls ++ row :: rest := by
  rw [yielded_snoc]
  simp [row?]

theorem firstSeen?_snoc {pulls : List Pulled} {t : Table} (h : firstSeen? pulls = some t)
    (p : Pulled) : firstSeen? (pulls ++ [p]) = some t := by
  cases pulls with
  | nil => cases h
  | cons first rest => exact h

theorem lastFetched?_snoc_unfetched (pulls : List Pulled) {p : Pulled} (h : p.fetched = false) :
    lastFetched? (pulls ++ [p]) = lastFetched? pulls := by
  unfold lastFetched?
  rw [List.filterMap_append]
  simp [batchTable?, h]

theorem lastFetched?_snoc_fetched (pulls : List Pulled) {p : Pulled} (h : p.fetched = true)
    {t : Table} (ht : p.seen = .ok t) : lastFetched? (pulls ++ [p]) = some t := by
  unfold lastFetched?
  rw [List.filterMap_append]
  simp [batchTable?, h, ht, Except.toOption]

theorem Unfailed.init {pulls : List Pulled} {p : Pulled} (h : Unfailed (pulls ++ [p])) :
    Unfailed pulls := fun q hq => h q (List.mem_append_left _ hq)

end Pulled

def Row.Holds (row : Row) (columns : List (Text × Text)) : Prop :=
  ∃ f q, Table.isRequested columns f q = true ∧ (row.cell? f q).isSome = true

theorem Table.holds_of_mem_rows {t : Table} {columns : List (Text × Text)} {row : Row}
    (h : row ∈ t.rows columns) : row.Holds columns := by
  obtain ⟨f, q, v, hrequested, hcell⟩ := (Table.exists_row_iff t columns row.key).1 ⟨row, h, rfl⟩
  refine ⟨f, q, hrequested, ?_⟩
  rw [Table.cell?_of_mem_rows h, if_pos hrequested, hcell]
  rfl

namespace Progress

/-- The key from which the iteration goes on lies behind this one, or there is nothing behind. -/
def Passed (p : Progress) (key : Bytes) : Prop :=
  match p with
  | .fresh => False
  | .within _ last more => more = true → ¬ last < key
  | .finished => True

/-- The iteration is under way, or has come to its end by itself. -/
def Counts (p : Progress) (closed : Bool) (pulls : List Pulled) : Prop :=
  match p with
  | .fresh => False
  | .within _ _ _ => True
  | .finished => closed = false ∧ Pulled.Unfailed pulls

end Progress

open Pulled

/-- What an iteration has delivered in some pulls and holds in its batch. -/
structure Delivery (scan : Scan) (p : Progress) (closed : Bool) (view : Except Fault Table)
    (pulls : List Pulled) : Prop where
  unpulled : p = .fresh → pulls = []
  keeps : scan.Keeps p
  ascending : (yielded pulls ++ p.pending).Pairwise fun a b => a.key < b.key
  inside : ∀ row ∈ yielded pulls ++ p.pending, scan.inRange none row.key = true
  holds : ∀ row ∈ yielded pulls ++ p.pending, row.Holds scan.columns
  reached : ∀ pending last more, p = .within pending last more →
    ∀ row ∈ yielded pulls ++ p.pending, ¬ last < row.key
  held : ∀ row ∈ p.pending, ∃ t, lastFetched? pulls = some t ∧ row ∈ t.rows scan.columns
  complete : p.Counts closed pulls → ∃ first, firstSeen? pulls = some first ∧
    Later (.ok first) view ∧ ∀ row ∈ scan.window first none, p.Passed row.key →
      ∃ r ∈ yielded pulls ++ p.pending, r.key = row.key

theorem delivery_fresh (scan : Scan) (closed : Bool) (view : Except Fault Table) :
    Delivery scan .fresh closed view [] where
  unpulled _ := rfl
  keeps := True.intro
  ascending := .nil
  inside := by simp [yielded, Progress.pending]
  holds := by simp [yielded, Progress.pending]
  reached _ _ _ h := nomatch h
  held := by simp [Progress.pending]
  complete h := h.elim

section

variable {scan : Scan} {p : Progress} {closed : Bool} {view : Except Fault Table}
  {pulls : List Pulled}

/-- Growing tables do no harm to what was delivered. -/
theorem Delivery.later (h : Delivery scan p closed view pulls) {view' : Except Fault Table}
    (hlater : Later view view') : Delivery scan p closed view' pulls where
  unpulled := h.unpulled
  keeps := h.keeps
  ascending := h.ascending
  inside := h.inside
  holds := h.holds
  reached := h.reached
  held := h.held
  complete hcounts := by
    obtain ⟨first, hfirst, hbefore, hrows⟩ := h.complete hcounts
    exact ⟨first, hfirst, hbefore.trans hlater, hrows⟩

/-- Of an iteration whose scanner was closed no complete answer is expected. -/
theorem Delivery.close (h : Delivery scan p closed view pulls) :
    Delivery scan p true view pulls where
  unpulled := h.unpulled
  keeps := h.keeps
  ascending := h.ascending
  inside := h.inside
  holds := h.holds
  reached := h.reached
  held := h.held
  complete hcounts := by
    cases p with
    | fresh => exact hcounts.elim
    | within pending last more => exact h.complete True.intro
    | finished => cases hcounts.1

theorem Delivery.finish (h : Delivery scan p closed view pulls) (closed' : Bool) {x : Pulled}
    (hrow : x.row? = none)
    (hcomplete : closed' = false → Unfailed (pulls ++ [x]) →
      ∃ first, firstSeen? (pulls ++ [x]) = some first ∧ Later (.ok first) view ∧
        ∀ row ∈ scan.window first none, ∃ r ∈ yielded pulls, r.key = row.key) :
    Delivery scan .finished closed' view (pulls ++ [x]) := by
  have hyielded : yielded (pulls ++ [x]) ++ Progress.finished.pending = yielded pulls := by
    rw [yielded_snoc, hrow]
    simp [Progress.pending]
  have hsub : ∀ row ∈ yielded pulls, row ∈ yielded pulls ++ p.pending :=
    fun row hrow => List.mem_append_left _ hrow
  refine ⟨nofun, True.intro, ?_, ?_, ?_, nofun, ?_, ?_⟩
  · rw [hyielded]; exact (List.pairwise_append.1 h.ascending).1
  · rw [hyielded]; exact fun row hrow => h.inside row (hsub row hrow)
  · rw [hyielded]; exact fun row hrow => h.holds row (hsub row hrow)
  · simp [Progress.pending]
  · rintro ⟨hopen, hunfailed⟩
    obtain ⟨first, hfirst, hlater, hrows⟩ := hcomplete hopen hunfailed
    refine ⟨first, hfirst, hlater, ?_⟩
    intro row hrow _
    rw [hyielded]
    exact hrows row hrow

/-! ## One pull -/

/-- Where a batch is needed, nothing of the first table is left between what was given and the range
of the batch. -/
theorem Delivery.before_fetch (h : Delivery scan p false view pulls) {last? : Option Bytes}
    (hwants : p.wants? = some last?) {t : Table} (hview : view = .ok t) {x : Pulled}
    (hseen : x.seen = view) :
    (∀ row ∈ yielded pulls, ∀ next, scan.inRange last? next = true → row.key < next) ∧
      ∃ first, firstSeen? (pulls ++ [x]) = some first ∧ Later (.ok first) view ∧
        ∀ row ∈ scan.window first none,
          (∃ r ∈ yielded pulls, r.key = row.key) ∨ ∃ r ∈ scan.window t last?, r.key = row.key := by
  have hwindow : ∀ first : Table, first.Within t → ∀ row ∈ scan.window first none,
      ∃ r ∈ scan.window t none, r.key = row.key := by
    intro first hwithin row hrow
    obtain ⟨hmem, hrange⟩ := List.mem_filter.1 hrow
    obtain ⟨r, hr, hkey⟩ := hwithin.exists_row hmem
    exact ⟨r, List.mem_filter.2 ⟨hr, by rw [hkey]; exact hrange⟩, hkey⟩
  cases p with
  | finished => cases hwants
  | fresh =>
    obtain rfl := h.unpulled rfl
    cases hwants
    refine ⟨by simp [yielded], t, ?_, ?_, fun row hrow => .inr ⟨row, hrow, rfl⟩⟩
    · rw [List.nil_append, firstSeen?, List.head?_cons, Option.bind_some, hseen, hview]; rfl
    · rw [hview]; exact .refl _
  | within pending last more =>
    cases pending with
    | cons _ _ => cases hwants
    | nil =>
      cases more with
      | false => cases hwants
      | true =>
        cases hwants
        have hreached := h.reached [] last true rfl
        simp only [Progress.pending, List.append_nil] at hreached
        obtain ⟨first, hfirst, hlater, hrows⟩ := h.complete True.intro
        simp only [Progress.pending, List.append_nil] at hrows
        refine ⟨fun row hrow next hnext => ?_, first, firstSeen?_snoc hfirst x, hlater,
          fun row hrow => ?_⟩
        · have hlast := ((Scan.inRange_some_iff scan last next).1 hnext).1
          exact Std.lt_of_le_of_lt (Std.not_lt.1 (hreached row hrow)) hlast
        · by_cases hpassed : last < row.key
          · rcases hlater.grown first rfl with hclosed | ⟨t', ht', hwithin⟩
            · rw [hview] at hclosed; cases hclosed
            · obtain rfl := Except.ok.inj (hview.symm.trans ht')
              obtain ⟨r, hr, hkey⟩ := hwindow first hwithin row hrow
              obtain ⟨hmem, hrange⟩ := List.mem_filter.1 hr
              refine .inr ⟨r, List.mem_filter.2 ⟨hmem, ?_⟩, hkey⟩
              rw [Scan.inRange_behind h.keeps.2, hrange, hkey]
              simpa using hpassed
          · exact .inl (hrows row hrow fun _ => hpassed)

theorem Delivery.held_row {row : Row} {rest : List Row} {last : Bytes} {more : Bool}
    (h : Delivery scan (.within (row :: rest) last more) false view pulls) :
    Delivery scan (.within rest last more) false view (pulls ++ [⟨view, false, .row row⟩]) := by
  have hall := yielded_row pulls view false row rest
  refine ⟨nofun, ⟨fun r hr => h.keeps.1 r (List.mem_cons_of_mem _ hr), h.keeps.2⟩, ?_, ?_, ?_,
    ?_, ?_, ?_⟩
  · rw [Progress.pending, hall]; exact h.ascending
  · rw [Progress.pending, hall]; exact h.inside
  · rw [Progress.pending, hall]; exact h.holds
  · intro _ _ _ hp
    obtain ⟨-, rfl, -⟩ := Progress.within.inj hp
    rw [Progress.pending, hall]
    exact h.reached _ _ _ rfl
  · intro r hr
    rw [lastFetched?_snoc_unfetched _ rfl]
    exact h.held r (List.mem_cons_of_mem _ hr)
  · intro _
    obtain ⟨first, hfirst, hlater, hrows⟩ := h.complete True.intro
    refine ⟨first, firstSeen?_snoc hfirst _, hlater, ?_⟩
    rw [Progress.pending, hall]
    exact hrows

theorem pending_of_wants {last? : Option Bytes} (hwants : p.wants? = some last?) :
    p.pending = [] := by
  cases p with
  | fresh => rfl
  | finished => rfl
  | within pending _ _ =>
    cases pending with
    | nil => rfl
    | cons _ _ => cases hwants

/-- A batch lies behind all that was given, and begins where nothing of the first table is left
out. -/
theorem Delivery.fetched_row (h : Delivery scan p false view pulls) {last? : Option Bytes}
    (hwants : p.wants? = some last?) {t : Table} (hview : view = .ok t) {row : Row}
    {rest : List Row} {last : Bytes} {more : Bool}
    (hbatch : scan.Batch t last? (row :: rest) last more) :
    Delivery scan (.within rest last more) false view (pulls ++ [⟨view, true, .row row⟩]) := by
  have hall := yielded_row pulls view true row rest
  obtain ⟨hbehind, first, hfirst, hlater, hrows⟩ :=
    h.before_fetch hwants hview (x := ⟨view, true, .row row⟩) rfl
  have hasc := h.ascending
  have hinside := h.inside
  have hholds := h.holds
  rw [pending_of_wants hwants, List.append_nil] at hasc hinside hholds
  have hmem : ∀ r ∈ row :: rest, r ∈ t.rows scan.columns ∧ scan.inRange last? r.key = true :=
    fun r hr => List.mem_filter.1 (hbatch.mem_window r hr)
  have hin : ∀ r ∈ row :: rest, scan.inRange none r.key = true :=
    fun r hr => Scan.inRange_of_wants h.keeps hwants (hmem r hr).2
  have hbatchasc : (row :: rest).Pairwise fun a b => a.key < b.key := by
    have hwindow := scan.window_ascending t last?
    rw [hbatch.window] at hwindow
    exact (List.pairwise_append.1 hwindow).1
  refine ⟨nofun, ⟨fun r hr => hin r (List.mem_cons_of_mem _ hr), ?_⟩, ?_, ?_, ?_, ?_, ?_, ?_⟩
  · obtain ⟨r, hr, rfl⟩ := hbatch.isKey
    exact hin r hr
  · rw [Progress.pending, hall]
    exact List.pairwise_append.2
      ⟨hasc, hbatchasc, fun a ha b hb => hbehind a ha b.key (hmem b hb).2⟩
  · rw [Progress.pending, hall]
    exact fun r hr => (List.mem_append.1 hr).elim (hinside r) (hin r)
  · rw [Progress.pending, hall]
    exact fun r hr => (List.mem_append.1 hr).elim (hholds r)
      fun hr => Table.holds_of_mem_rows (hmem r hr).1
  · intro _ _ _ hp
    obtain ⟨-, rfl, -⟩ := Progress.within.inj hp
    rw [Progress.pending, hall]
    intro r hr
    rcases List.mem_append.1 hr with hr | hr
    · obtain ⟨b, hb, rfl⟩ := hbatch.isKey
      exact List.lt_asymm (hbehind r hr b.key (hmem b hb).2)
    · exact hbatch.greatest r hr
  · intro r hr
    exact ⟨t, lastFetched?_snoc_fetched _ rfl hview, (hmem r (List.mem_cons_of_mem _ hr)).1⟩
  · intro _
    refine ⟨first, hfirst, hlater, ?_⟩
    intro r hr hpassed
    rw [Progress.pending, hall]
    rcases hrows r hr with ⟨g, hg, hkey⟩ | ⟨b, hb, hkey⟩
    · exact ⟨g, List.mem_append_left _ hg, hkey⟩
    · rw [hbatch.window] at hb
      rcases List.mem_append.1 hb with hb | hb
      · exact ⟨b, List.mem_append_right _ hb, hkey⟩
      · cases more with
        | false => cases hb
        | true =>
          have hlast := ((Scan.inRange_some_iff scan last b.key).1 (List.mem_filter.1 hb).2).1
          exact absurd (hkey ▸ hlast) (hpassed rfl)

/-- What a pull preserves. -/
theorem Delivery.pull (h : Delivery scan p false view pulls) {c : Cursor} (hp : c.progress = p)
    {r : Pull StoreError × Cursor}
    (hresult : scan.PullResult (Host.fetchable scan view) c r) :
    Delivery scan r.2.progress false view (pulls ++
      [⟨view, decide (r.2.metrics.roundTrips ≠ c.metrics.roundTrips), .ofPull r.1⟩]) := by
  subst hp
  cases hresult with
  | held row rest last more hprogress =>
    rw [hprogress] at h
    simpa [Metrics.record, Answer.ofPull] using h.held_row
  | past hprogress =>
    rw [hprogress] at h ⊢
    apply h.finish false rfl
    intro hopen hunfailed
    obtain ⟨first, hfirst, hlater, hrows⟩ := h.complete ⟨rfl, hunfailed.init⟩
    refine ⟨first, firstSeen?_snoc hfirst _, hlater, fun row hrow => ?_⟩
    simpa [Progress.pending] using hrows row hrow True.intro
  | through last hprogress =>
    rw [hprogress] at h
    apply h.finish false rfl
    intro hopen hunfailed
    obtain ⟨first, hfirst, hlater, hrows⟩ := h.complete True.intro
    refine ⟨first, firstSeen?_snoc hfirst _, hlater, fun row hrow => ?_⟩
    simpa [Progress.pending] using hrows row hrow fun hmore => absurd hmore Bool.false_ne_true
  | failed last? hwants e hnext =>
    apply h.finish false rfl
    intro hopen hunfailed
    exact absurd rfl (hunfailed _ (List.mem_append_right _ (List.mem_singleton.2 rfl)) e)
  | empty last? hwants t htable hwindow =>
    apply h.finish false rfl
    intro hopen hunfailed
    obtain ⟨-, first, hfirst, hlater, hrows⟩ :=
      h.before_fetch hwants (Host.of_table_fetchable htable) (x := ⟨view, _, .ended⟩) rfl
    refine ⟨first, hfirst, hlater, ?_⟩
    intro row hrow
    rcases hrows row hrow with hgiven | ⟨r, hr, -⟩
    · exact hgiven
    · rw [hwindow] at hr; cases hr
  | fetched last? hwants t htable row rest last more hbatch =>
    simpa [Metrics.record, Metrics.fetched, Answer.ofPull] using
      h.fetched_row hwants (Host.of_table_fetchable htable) hbatch

/-- A row is one of the table from which the last batch was fetched. -/
theorem Delivery.row_of_table (h : Delivery scan p false view pulls) {c : Cursor}
    (hp : c.progress = p) {row : Row} {c' : Cursor}
    (hresult : scan.PullResult (Host.fetchable scan view) c (.row row, c')) :
    ∃ t, lastFetched? (pulls ++
      [⟨view, decide (c'.metrics.roundTrips ≠ c.metrics.roundTrips), .row row⟩]) = some t ∧
        row ∈ t.rows scan.columns := by
  subst hp
  cases hresult with
  | held row rest last more hprogress =>
    have hheld := h.held row (by rw [hprogress]; exact List.mem_cons_self ..)
    rwa [lastFetched?_snoc_unfetched _ (by simp [Metrics.record])]
  | fetched last? hwants t htable row rest last more hbatch =>
    refine ⟨t, lastFetched?_snoc_fetched _ (by simp [Metrics.record, Metrics.fetched])
      (Host.of_table_fetchable htable), ?_⟩
    exact (List.mem_filter.1 (hbatch.mem_window row (List.mem_cons_self ..))).1

/-- An iteration that comes to its end by itself has given every row of the first table. -/
theorem Delivery.all_given (h : Delivery scan p false view pulls) {c : Cursor}
    (hp : c.progress = p) {c' : Cursor}
    (hresult : scan.PullResult (Host.fetchable scan view) c (.ended, c'))
    (hunfailed : Unfailed pulls) :
    ∃ first, firstSeen? (pulls ++
      [⟨view, decide (c'.metrics.roundTrips ≠ c.metrics.roundTrips), .ended⟩]) = some first ∧
        ∀ row ∈ scan.window first none, ∃ r ∈ yielded pulls, r.key = row.key := by
  have hfinished : c'.progress = .finished := by
    cases hresult with
    | past hprogress => exact hprogress
    | through _ _ => rfl
    | empty _ _ _ _ _ => rfl
  have hafter := h.pull hp hresult
  dsimp only at hafter
  rw [hfinished] at hafter
  have hnone : Unfailed (pulls ++
      [⟨view, decide (c'.metrics.roundTrips ≠ c.metrics.roundTrips), .ended⟩]) := by
    intro q hq e
    rcases List.mem_append.1 hq with hq | hq
    · exact hunfailed q hq e
    · rw [List.mem_singleton.1 hq]; exact nofun
  obtain ⟨first, hfirst, -, hrows⟩ := hafter.complete ⟨rfl, hnone⟩
  refine ⟨first, hfirst, ?_⟩
  intro row hrow
  have hgiven := hrows row hrow True.intro
  rw [yielded_snoc] at hgiven
  simpa [Progress.pending, row?, Answer.ofPull] using hgiven

end

end HourlyUsage
