import HourlyUsage.Proofs.Query.Listing
import HourlyUsage.Proofs.Table.Cost
/-!
# What a query costs

A query pulls rows until it has as many records as are wanted, meets a row that has none, or meets
the end of the rows. What its scan has cost by then is logged; it hangs on nothing but the rows
below the stem of the query, the limit and the size of a batch.

Sources: `_create_from_results`, `_log_scan`, the iterator of a scanner.

Results:
* `collect_after`: how many rows a query pulls, whatever pulling does to its source.
* `paid_row`, `paid_end`: the counters of a store's scanner from pull to pull.
* `list_log`: what a query on a store logs.
-/
namespace HourlyUsage

namespace Query

/-! ## How many rows are pulled -/

/-- How many of some rows are pulled for `limit` records, and whether the end of the rows is met. A
row that has no record is the last one that is pulled. -/
def pulls : Nat → List Row → Nat × Bool
  | _, [] => (0, true)
  | limit, row :: rest =>
    match recordOf (ε := StoreError) row with
    | .error _ => (1, false)
    | .ok _ =>
      if limit ≤ 1 then (1, false)
      else ((pulls (limit - 1) rest).1 + 1, (pulls (limit - 1) rest).2)

section

variable {σ : Type} (pull : σ → Pull StoreError × σ)

/-- Where a query leaves its source. `state n ended` says how the source is after the first `n` of
some rows were pulled, and whether the end was met behind them. -/
theorem collect_after (state : Nat → Bool → σ → Prop) {limit fuel n : Nat} {acc : List Record}
    {s : σ} {rows : List Row} (hfull : ∀ row ∈ rows, row.isEmpty = false)
    (hrow : ∀ k s (hk : k < rows.length), state (n + k) false s →
      ∃ s', pull s = (.row rows[k], s') ∧ state (n + k + 1) false s')
    (hend : ∀ s, state (n + rows.length) false s →
      ∃ s', pull s = (.ended, s') ∧ state (n + rows.length) true s')
    (hs : state n false s) (hfuel : rows.length < fuel) (hlimit : acc.length < limit) :
    state (n + (pulls (limit - acc.length) rows).1) (pulls (limit - acc.length) rows).2
      (collect pull limit fuel acc s).2 := by
  induction rows generalizing fuel n acc s with
  | nil =>
    obtain ⟨fuel, rfl⟩ := Nat.exists_eq_succ_of_ne_zero (Nat.ne_of_gt hfuel)
    obtain ⟨s', hpull, hs'⟩ := hend s hs
    rw [collect, hpull, pulls]
    exact hs'
  | cons row rest ih =>
    obtain ⟨fuel, rfl⟩ := Nat.exists_eq_succ_of_ne_zero (Nat.ne_of_gt (Nat.zero_lt_of_lt hfuel))
    obtain ⟨s', hpull, hs'⟩ := hrow 0 s (Nat.zero_lt_succ _) hs
    rw [collect, hpull]
    dsimp only [List.getElem_cons_zero]
    rw [hfull row (List.mem_cons_self ..), if_neg Bool.false_ne_true]
    cases hread : recordOf (ε := StoreError) row with
    | error e =>
      have hpulls : pulls (limit - acc.length) (row :: rest) = (1, false) := by rw [pulls, hread]
      rw [hpulls]
      exact hs'
    | ok record =>
      dsimp only
      by_cases hdone : limit ≤ acc.length + 1
      · have hpulls : pulls (limit - acc.length) (row :: rest) = (1, false) := by
          rw [pulls, hread]
          exact if_pos (by omega)
        rw [hpulls, if_pos hdone]
        exact hs'
      · have hpulls : pulls (limit - acc.length) (row :: rest) =
            ((pulls (limit - (acc.length + 1)) rest).1 + 1,
              (pulls (limit - (acc.length + 1)) rest).2) := by
          rw [pulls, hread, Nat.sub_add_eq]
          exact if_neg (by omega)
        have hnext : ∀ k, n + 1 + k = n + (k + 1) := fun k => by omega
        have hrest := ih (n := n + 1) (fun r hr => hfull r (List.mem_cons_of_mem _ hr))
          (fun k s hk hk' => by
            rw [hnext] at hk' ⊢
            exact hrow (k + 1) s (Nat.succ_lt_succ hk) hk')
          (fun s hs => by
            rw [hnext] at hs ⊢
            exact hend s hs)
          hs' (Nat.lt_of_succ_lt_succ hfuel)
          (show (record :: acc).length < limit by rw [List.length_cons]; omega)
        rw [hpulls, if_neg hdone]
        rwa [List.length_cons, hnext] at hrest

end

end Query

namespace Host

/-! ## The counters of a scanner -/

/-- What a pull works on: the iteration with the memory of filters and its scanner's counters. -/
def cursor (h : Host) (i : ScannerId) (it : IterationId) : Cursor :=
  ⟨(h.iteration it).progress, h.spent, (h.scanner i).metrics⟩

/-- A scanner has handed the first `n` rows of its window over to an iteration and may have met the
end behind them. Meeting the end counts as one row more. -/
structure Paid (h : Host) (log : List Log.Entry) (i : ScannerId) (it : IterationId) (scan : Scan)
    (t : Table) (n : Nat) (ended : Bool) : Prop extends Ready h i scan t where
  log_eq : h.log = log
  metrics : (h.scanner i).metrics = .ofRows ((scan.window t none).take n)
    (trips scan.capacity (if ended then n + 1 else n))
  reads : ended = false → h.Reads i it scan t n ∧ scan.Reached t n (h.cursor i it)

section

variable {h : Host} {log : List Log.Entry} {i : ScannerId} {it : IterationId} {scan : Scan}
  {t : Table} {n : Nat}

theorem pull_of_reads (hr : h.Reads i it scan t n) (hvalid : scan.Valid) (hfits : scan.Fits t)
    {answer : Pull StoreError} {c : Cursor}
    (hpull : scan.pull (.ok t) (h.cursor i it) = (answer, c)) :
    (h.pull it).1 = answer ∧ (h.pull it).2.cursor i it = c := by
  have hopen : (h.scanner (h.iteration it).scanner).isClosed = false := by
    rw [hr.isIteration]; exact hr.shows_.1
  have hscan : h.scanPull it = (answer, c) := by
    rw [scanPull_of_shows hr.isScan hr.shows_ hr.isIteration, ← hpull]
    exact pull_of_fits hvalid hfits hr.stands.inside
  have hit := lt_of_iteration_scanner hr.isScanner hr.isIteration
  have hscanner : ((h.pull it).2.scanner i).metrics = c.metrics := by
    have hset := pull_scanners h it hopen
    rw [hr.isIteration] at hset
    simp [scanner, hset, hr.isScanner, hscan]
  have hprogress : ((h.pull it).2.iteration it).progress = c.progress := by
    rw [pull_iteration_self h hit, pullProgress, hopen, hscan]
    rfl
  refine ⟨by rw [pull_answer h it hopen, hscan], ?_⟩
  rw [cursor, hprogress, pull_spent h it hopen, hscan, hscanner]

/-- A pull hands over the next row of the window. -/
theorem paid_row (hp : h.Paid log i it scan t n false) (hvalid : scan.Valid)
    (hfits : scan.Fits t) (hn : n < (scan.window t none).length) :
    ∃ h', h.pull it = (.row (scan.window t none)[n], h') ∧
      h'.Paid log i it scan t (n + 1) false := by
  obtain ⟨hreads, hreached⟩ := hp.reads rfl
  obtain ⟨c, hpull, -, hnext⟩ := Scan.reached_pull hvalid.positive hreached hn
  obtain ⟨hanswer, hcursor⟩ := pull_of_reads hreads hvalid hfits hpull
  rw [← hcursor] at hnext
  have hstill := (reads_pull hreads hvalid hfits).2
  exact ⟨(h.pull it).2, Prod.ext hanswer rfl, hstill.toReady, by rw [pull_log, hp.log_eq],
    hnext.metrics, fun _ => ⟨hstill, hnext⟩⟩

/-- At the end of the window a pull ends. -/
theorem paid_end (hp : h.Paid log i it scan t (scan.window t none).length false)
    (hvalid : scan.Valid) (hfits : scan.Fits t) :
    ∃ h', h.pull it = (.ended, h') ∧
      h'.Paid log i it scan t (scan.window t none).length true := by
  obtain ⟨hreads, hreached⟩ := hp.reads rfl
  obtain ⟨c, hpull, -, hmetrics⟩ := Scan.ended_pull hvalid.positive hreached rfl
  obtain ⟨hanswer, hcursor⟩ := pull_of_reads hreads hvalid hfits hpull
  refine ⟨(h.pull it).2, Prod.ext hanswer rfl, (reads_pull hreads hvalid hfits).2.toReady,
    by rw [pull_log, hp.log_eq], ?_, nofun⟩
  rw [List.take_length, if_pos rfl, ← hmetrics]
  exact congrArg Cursor.metrics hcursor

/-- A worker who sees a table can open a scanner whose filter lets its window through. -/
theorem source_paid {w : Worker} {s : StoreId} (hsees : h.Sees w s t) (hfresh : scan.Fresh h.spent)
    (hpos : 0 < scan.batchSize) (hthrough : scan.LetsThrough t h.spent) :
    ∃ i it h', (source w s).openScanner scan h = (.ok (i, it), h') ∧
      h'.Paid h.log i it scan t 0 false ∧
      (source w s).bound (i, it) h' = t.entries.length := by
  obtain ⟨i, before, hopen, hready⟩ := ready_openScanner hsees hfresh
  obtain ⟨hreads, hbound⟩ := reads_iterate hready
  obtain ⟨hspent, hlog, hmetrics⟩ := openScanner_new hopen
  have hcursor : (before.iterate i).2.cursor i (before.iterate i).1 = ⟨.fresh, h.spent, {}⟩ := by
    have hiteration : (before.iterate i).2.iteration (before.iterate i).1 = { scanner := i } := by
      simp [iterate, iteration]
    rw [cursor, hiteration, ← hspent, ← hmetrics]
    rfl
  have hreached := Scan.reached_fresh hpos hthrough
  rw [← hcursor] at hreached
  exact ⟨i, (before.iterate i).1, (before.iterate i).2, by simp only [source, hopen],
    ⟨hreads.toReady, hlog, hreached.metrics, fun _ => ⟨hreads, hreached⟩⟩, hbound⟩

end

end Host

namespace Query

/-! ## What is logged -/

/-- What the scan of a query costs that pulls these rows in batches of `b`: the rows that it pulls,
and the batches that they are in. Meeting the end counts as one row more. -/
def bill (b limit : Nat) (rows : List Row) : Metrics :=
  .ofRows (rows.take (pulls limit rows).1)
    (trips b (if (pulls limit rows).2 then (pulls limit rows).1 + 1 else (pulls limit rows).1))

section

variable {h : Host} {w : Worker} {s : StoreId} {t : Table}

/-- A plan that is carried out on a store logs what it does, and what that has cost. -/
theorem run_log (hsees : h.Sees w s t) (hunused : h.nextFilter ∉ h.spent) (cluster : Text)
    {plan : Plan} (hsized : plan.Sized)
    (hfetch : Fetchable plan.batchSize (below plan.stem (t.rows statsColumns)).length) :
    (run (Host.source w s) cluster plan h).2.log =
      finishedEntry cluster (succeeded (run (Host.source w s) cluster plan h).1)
        (bill plan.batchSize.toNat plan.limit (below plan.stem (t.rows statsColumns))) ::
      plannedEntry plan :: h.log := by
  have hfilter := newFilter_planned w s plan h
  have hvalid := valid_scan hsized h.nextFilter
  have hfits : (plan.scan h.nextFilter).Fits t := fits_scan_iff.2 hfetch
  have hwindow : (plan.scan h.nextFilter).window t none = below plan.stem (t.rows statsColumns) :=
    Scan.window_startsWith rfl t
  obtain ⟨i, it, opened, hopen, hpaid, hbound⟩ := Host.source_paid
    (sees_planned_iff.2 hsees) (fresh_scan plan hunused) hsized.positive
    (Scan.letsThrough_startsWith rfl hunused t)
  have hfull : ∀ row ∈ (plan.scan h.nextFilter).window t none, row.isEmpty = false :=
    hwindow ▸ isEmpty_of_mem_below
  have hfuel : ((plan.scan h.nextFilter).window t none).length <
      (Host.source w s).bound (i, it) opened + 1 := by
    rw [hbound, hwindow]
    exact Nat.lt_succ_of_le (length_below_le plan.stem t)
  have hafter := collect_after ((Host.source w s).pull (i, it))
    (fun n ended h' => h'.Paid (planned h plan).log i it (plan.scan h.nextFilter) t n ended)
    (n := 0) hfull
    (fun k h' hk hp => by
      rw [Nat.zero_add] at hp ⊢
      exact Host.paid_row hp hvalid hfits hk)
    (fun h' hp => by
      rw [Nat.zero_add] at hp ⊢
      exact Host.paid_end hp hvalid hfits)
    hpaid hfuel (show ([] : List Record).length < plan.limit from hsized.wanted)
  have hmetrics := hafter.metrics
  rw [List.length_nil, Nat.sub_zero, Nat.zero_add, hwindow] at hmetrics
  rw [bill, run_eq hfilter hopen]
  simp only [run, hfilter, hopen]
  rw [finish_log hafter.toReady, hafter.log_eq, hmetrics]
  rfl

/-- A query logs what it does, and what the rows below its stem have cost: nothing, if its first batch
has too many of them. -/
theorem list_log (hsees : h.Sees w s t) (hunused : h.nextFilter ∉ h.spent) {service : Service}
    (hsize : service.batchSize < Cell.intBound) {request : Request} (hlimit : 0 < request.limit)
    {bucketStart : Int} (hbucket : request.time.bucket = .ok bucketStart) {stem : Bytes}
    (hstem : SnapshotKey.encode bucketStart request.cluster (request.path?.getD []) = .ok stem) :
    (service.list (Host.source w s) request h).2.log =
      finishedEntry request.cluster (succeeded (service.list (Host.source w s) request h).1)
        (if Fetchable (min request.limit service.batchSize)
            (below stem (t.rows statsColumns)).length then
          bill (min request.limit service.batchSize).toNat request.limit.toNat
            (below stem (t.rows statsColumns))
        else {}) ::
      plannedEntry ⟨bucketStart, stem, request.limit.toNat, min request.limit service.batchSize⟩ ::
      h.log := by
  split
  · next hfetch =>
    have hplan : service.plan request = _ := plan_eq_ok hlimit hbucket hstem
    rw [Service.list, hplan]
    exact run_log hsees hunused request.cluster (sized_of_plan hsize hplan) hfetch
  · next hmany =>
    obtain ⟨after, hlist, hlog⟩ := list_refused hsees hunused hsize hlimit hbucket hstem hmany
    rw [hlist]
    exact hlog

end

end Query

end HourlyUsage
