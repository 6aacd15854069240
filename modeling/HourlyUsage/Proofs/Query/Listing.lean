import HourlyUsage.Proofs.Query.History
import HourlyUsage.Proofs.Store.Reading
import HourlyUsage.Proofs.Table.Cost
/-!
# A query on any table

What a query makes of a table, whoever has written it and whatever it holds: the records of the
first rows below the stem of the query, as many as are wanted, or the failure to read the first of
them that cannot be read. If its first batch would have more rows than a statement can ask for, the
query fails as the store does.

Sources: `list_by_prefix` and `_create_from_results` of the query service, on the scanner of a store.

Hypotheses: the worker sees the table (`Host.Sees`), the query's filter has a number of its own, and
the batch size fits into eight octets.

Results:
* `sized_of_plan`: the sizes in the plan of a query.
* `fits_scan_iff`: the statements of a query are too large for a database if its first batch is.
* `run_reads`, `run_refused`: the plan of a query, carried out on a store.
* `list_reads`, `list_refused`: a query with arguments that have a plan.
-/
namespace HourlyUsage

theorem Column.refusal? (c : Column) (value : Bytes) :
    Engine.refusal? infoFamily (c.name, value) = none := by
  have hall : ∀ c ∈ Column.all, Utf8.surrogatesFrom? 0 infoFamily = none ∧
      Utf8.surrogatesFrom? 0 c.name = none := by decide +kernel
  obtain ⟨hfamily, hname⟩ := hall c (Column.mem_all c)
  rw [Engine.refusal?, hfamily, Option.none_or, hname]

namespace Query

section

variable {service : Service} {request : Request} {plan : Plan}

theorem plan_eq_ok {bucketStart : Int} {stem : Bytes}
    (hlimit : 0 < request.limit) (hbucket : request.time.bucket = .ok bucketStart)
    (hstem : SnapshotKey.encode bucketStart request.cluster (request.path?.getD []) = .ok stem) :
    service.plan request =
      .ok ⟨bucketStart, stem, request.limit.toNat, min request.limit service.batchSize⟩ := by
  rw [Service.plan, if_neg (by omega), hbucket]
  dsimp only
  rw [hstem]

theorem of_plan_eq_ok (hplan : service.plan request = .ok plan) :
    0 < request.limit ∧ request.time.bucket = .ok plan.bucketStart ∧
      SnapshotKey.encode plan.bucketStart request.cluster (request.path?.getD []) = .ok plan.stem ∧
      plan.batchSize = min request.limit service.batchSize := by
  unfold Service.plan at hplan
  split at hplan
  · cases hplan
  · next hlimit =>
    split at hplan
    · cases hplan
    · next hbucket =>
      split at hplan
      · cases hplan
      · next hstem =>
        cases hplan
        exact ⟨by omega, hbucket, hstem, rfl⟩

theorem limit_of_plan (hplan : service.plan request = .ok plan) : 0 < plan.limit := by
  obtain ⟨hlimit, hbucket, hstem, -⟩ := of_plan_eq_ok hplan
  have hsame := Except.ok.inj (hplan.symm.trans (plan_eq_ok hlimit hbucket hstem))
  have hwanted : plan.limit = request.limit.toNat := congrArg Plan.limit hsame
  omega

/-- What is known of the sizes in a plan: something is wanted, and a batch holds a row at least and
no more than a database can be asked for. -/
structure Plan.Sized (plan : Plan) : Prop where
  wanted : 0 < plan.limit
  positive : 0 < plan.batchSize
  bounded : plan.batchSize < Cell.intBound

theorem sized_of_plan (hsize : service.batchSize < Cell.intBound)
    (hplan : service.plan request = .ok plan) : plan.Sized := by
  have hpositive := service.positive
  obtain ⟨hlimit, -, -, hbatch⟩ := of_plan_eq_ok hplan
  exact ⟨limit_of_plan hplan, by omega, by omega⟩

theorem valid_scan (hsized : plan.Sized) (number : Nat) :
    (plan.scan number).Valid where
  positive := hsized.positive
  bounded := hsized.bounded
  names column hcolumn := by
    obtain ⟨c, -, rfl⟩ := List.mem_map.1 hcolumn
    have hnone := c.refusal? []
    rw [Engine.refusal?, Option.or_eq_none_iff] at hnone
    rw [Utf8.encodable_iff, Utf8.encodable_iff, ← Utf8.surrogatesFrom?_eq_none_iff 0,
      ← Utf8.surrogatesFrom?_eq_none_iff 0]
    exact hnone

end

/-- The most rows that a batch of a query can have: a statement has a variable for each of them and
two for each known column. -/
def mostAsked : Nat := Host.mostVariables - 2 * statsColumns.length

example : mostAsked = 32740 := by decide

/-- In batches of this size a query can fetch `n` rows: the first batch has no more rows than a
statement can ask for. -/
def Fetchable (batchSize : Int) (n : Nat) : Prop := min batchSize.toNat n ≤ mostAsked

instance (batchSize : Int) (n : Nat) : Decidable (Fetchable batchSize n) :=
  inferInstanceAs (Decidable (_ ≤ _))

theorem fetchable_of_le {batchSize : Int} (hsmall : batchSize ≤ mostAsked) (n : Nat) :
    Fetchable batchSize n := by
  unfold Fetchable
  omega

/-- What a query fails with whose first batch has too many rows. -/
def tooMany : Failure StoreError := .source (.unavailable .scan .tooManyVariables)

/-- The statements of a query are too large for a database only if its first batch is. -/
theorem fits_scan_iff {plan : Plan} {number : Nat} {t : Table} :
    (plan.scan number).Fits t ↔
      Fetchable plan.batchSize (below plan.stem (t.rows statsColumns)).length := by
  have hwindow : (plan.scan number).window t none = below plan.stem (t.rows statsColumns) :=
    Scan.window_startsWith rfl t
  have hcolumns : (plan.scan number).columns.length = 13 := rfl
  have hmost : mostAsked = Host.mostVariables - 2 * 13 := rfl
  rw [← hwindow, Fetchable, hmost, Host.mostVariables]
  constructor
  · rintro ⟨-, hvariables⟩
    rw [hcolumns, Host.mostVariables] at hvariables
    exact Nat.le_sub_of_add_le hvariables
  · intro hrows
    refine ⟨by rw [hcolumns]; decide, ?_⟩
    rw [hcolumns, Host.mostVariables]
    exact Nat.add_le_of_le_sub (by decide) hrows

theorem refusal_scan (plan : Plan) (number : Nat) :
    Host.refusal (plan.scan number) = .tooManyVariables := rfl

theorem fresh_scan (plan : Plan) {number : Nat} {spent : Spent} (hunused : number ∉ spent) :
    (plan.scan number).Fresh spent := by
  rintro filter hf
  obtain rfl := Option.some.inj hf
  refine ⟨by simp [RowFilter.numbers], fun n hn hmem => ?_⟩
  obtain rfl : n = number := by simpa [RowFilter.numbers] using hn
  exact hunused hmem

section

variable {h : Host} {w : Worker} {s : StoreId} {t : Table}

/-- The host after a plan was logged and its filter was numbered. -/
def planned (h : Host) (plan : Plan) : Host :=
  { h with nextFilter := h.nextFilter + 1, log := plannedEntry plan :: h.log }

theorem newFilter_planned (w : Worker) (s : StoreId) (plan : Plan) (h : Host) :
    (Host.source w s).newFilter ((Host.source w s).note (plannedEntry plan) h) =
      (h.nextFilter, planned h plan) := rfl

theorem sees_planned_iff {plan : Plan} : (planned h plan).Sees w s t ↔ h.Sees w s t :=
  ⟨fun hsees => hsees.congr rfl rfl, fun hsees => hsees.congr rfl rfl⟩

theorem isEmpty_of_mem_below {stem : Bytes} :
    ∀ row ∈ below stem (t.rows statsColumns), row.isEmpty = false :=
  fun _ hrow => Table.isEmpty_of_mem_rows (List.mem_filter.1 hrow).1

theorem length_below_le (stem : Bytes) (t : Table) :
    (below stem (t.rows statsColumns)).length ≤ t.entries.length :=
  Nat.le_trans (List.length_filter_le ..) (List.length_filterMap_le ..)

/-- A plan that is carried out on a store gives the records of the first rows below its stem. -/
theorem run_reads (hsees : h.Sees w s t) (hunused : h.nextFilter ∉ h.spent) (cluster : Text)
    {plan : Plan} (hsized : plan.Sized)
    (hfetch : Fetchable plan.batchSize (below plan.stem (t.rows statsColumns)).length) :
    (run (Host.source w s) cluster plan h).1 =
      ((below plan.stem (t.rows statsColumns)).take plan.limit).mapM recordOf := by
  obtain ⟨scanner, after, hopen, hdelivers, hbound⟩ := Host.source_delivers
    (sees_planned_iff.2 hsees) (fresh_scan plan hunused) (valid_scan hsized h.nextFilter)
    (fits_scan_iff.2 hfetch)
  have hkept : (plan.scan h.nextFilter).kept ((plan.scan h.nextFilter).above t) =
      below plan.stem (t.rows statsColumns) := Scan.kept_above_startsWith rfl t
  rw [hkept] at hdelivers
  have hlength : (below plan.stem (t.rows statsColumns)).length <
      (Host.source w s).bound scanner after + 1 := by
    rw [hbound]
    exact Nat.lt_succ_of_le (length_below_le plan.stem t)
  rw [run_eq (newFilter_planned w s plan h) hopen,
    collect_delivers hdelivers isEmpty_of_mem_below hlength hsized.wanted, List.length_nil, Nat.sub_zero]
  cases ((below plan.stem (t.rows statsColumns)).take plan.limit).mapM recordOf <;> rfl

/-- A scanner that is ready is closed without trouble, and what it has cost is logged. -/
theorem finish_log {i : ScannerId} {scan : Scan} (hr : h.Ready i scan t) (it : IterationId)
    (cluster : Text) (ok : Bool) :
    (finish (Host.source w s) cluster ok (i, it) h).log =
      finishedEntry cluster ok (h.scanner i).metrics :: h.log := by
  have hclose := Host.closeScanner_of_ready hr
  have hmetrics : ((h.setScanner i { h.scanner i with isClosed := true }).scanner i).metrics =
      (h.scanner i).metrics := by
    simp [Host.scanner, Host.setScanner, hr.isScanner]
  simp only [finish, Host.source, hclose]
  rw [hmetrics]
  rfl

/-- A plan whose first batch has too many rows fails, and what is logged is that it cost nothing. -/
theorem run_refused (hsees : h.Sees w s t) (hunused : h.nextFilter ∉ h.spent) (cluster : Text)
    {plan : Plan} (hsized : plan.Sized)
    (hmany : ¬ Fetchable plan.batchSize (below plan.stem (t.rows statsColumns)).length) :
    ∃ after, run (Host.source w s) cluster plan h = (.error tooMany, after) ∧
      after.log = finishedEntry cluster false {} :: plannedEntry plan :: h.log := by
  obtain ⟨i, it, opened, hopen, hpull, hready, hlog, hmetrics⟩ := Host.source_of_unfit
    (sees_planned_iff.2 hsees) (fresh_scan plan hunused) (valid_scan hsized h.nextFilter)
    fun hfits => hmany (fits_scan_iff.1 hfits)
  rw [refusal_scan] at hpull
  refine ⟨_, run_of_failed (newFilter_planned w s plan h) hopen hpull, ?_⟩
  refine (finish_log hready it cluster false).trans ?_
  rw [hmetrics, hlog]
  rfl

section

variable {service : Service} {request : Request} {bucketStart : Int} {stem : Bytes}

/-- What is left behind by a query whose first batch has too many rows. -/
theorem list_refused (hsees : h.Sees w s t) (hunused : h.nextFilter ∉ h.spent)
    (hsize : service.batchSize < Cell.intBound) (hlimit : 0 < request.limit)
    (hbucket : request.time.bucket = .ok bucketStart)
    (hstem : SnapshotKey.encode bucketStart request.cluster (request.path?.getD []) = .ok stem)
    (hmany : ¬ Fetchable (min request.limit service.batchSize)
      (below stem (t.rows statsColumns)).length) :
    ∃ after, service.list (Host.source w s) request h = (.error tooMany, after) ∧
      after.log = finishedEntry request.cluster false {} ::
        plannedEntry
          ⟨bucketStart, stem, request.limit.toNat, min request.limit service.batchSize⟩ ::
        h.log := by
  have hplan : service.plan request = _ := plan_eq_ok hlimit hbucket hstem
  rw [Service.list, hplan]
  exact run_refused hsees hunused request.cluster (sized_of_plan hsize hplan) hmany

/-- A query gives the records of the first rows below its stem, unless its first batch has too many
rows. -/
theorem list_reads (hsees : h.Sees w s t) (hunused : h.nextFilter ∉ h.spent)
    (hsize : service.batchSize < Cell.intBound) (hlimit : 0 < request.limit)
    (hbucket : request.time.bucket = .ok bucketStart)
    (hstem : SnapshotKey.encode bucketStart request.cluster (request.path?.getD []) = .ok stem) :
    (service.list (Host.source w s) request h).1 =
      if Fetchable (min request.limit service.batchSize) (below stem (t.rows statsColumns)).length
      then ((below stem (t.rows statsColumns)).take request.limit.toNat).mapM recordOf
      else .error tooMany := by
  split
  · next hfetch =>
    have hplan : service.plan request = _ := plan_eq_ok hlimit hbucket hstem
    rw [Service.list, hplan]
    exact run_reads hsees hunused request.cluster (sized_of_plan hsize hplan) hfetch
  · next hmany =>
    obtain ⟨after, hlist, -⟩ := list_refused hsees hunused hsize hlimit hbucket hstem hmany
    rw [hlist]

end

end

end Query

end HourlyUsage
