import HourlyUsage.Proofs.Query.Calls
import HourlyUsage.Proofs.Query.Failing
import HourlyUsage.Proofs.Table.StopKeys
/-!
# What a query checks before it asks

A query is refused for its limit, its cluster, its hour or a surrogate in one of its texts, and for
nothing else, before anything was asked of its source. Any other query asks for one scan, which has
a batch of at most as many rows as are wanted and a stop key above its start.

Sources: `list_by_prefix` up to `open_scanner`, `bucket_of`, `encode_key`, `prefix_successor`.

Hypotheses: none on the arguments, the source and its state; the instant is given in whole seconds.

Results:
* `hourOf_iff`: `bucketOf` gives the hour that contains an instant.
* `stop_of_encode`: there is a stop key for every stem of a query.
* `not_unfit_iff`: the queries that have a plan.
* `arguments_are_checked`: what a query does with its arguments.
-/
namespace HourlyUsage

/-! ## Hours -/

/-- The whole hour that contains an instant, both in seconds since the epoch. -/
def HourOf (hour seconds : Int) : Prop :=
  hour % bucketSeconds = 0 ∧ hour ≤ seconds ∧ seconds < hour + bucketSeconds

theorem hourOf_iff {hour seconds : Int} : HourOf hour seconds ↔ hour = bucketOf seconds := by
  have hlength : bucketSeconds = 3600 := rfl
  rw [HourOf, bucketOf, hlength]
  omega

/-! ## Stop keys -/

theorem lt_of_successor? {stem stop : Bytes} (hstop : successor? stem = some stop) : stem < stop :=
  ((prefix_iff_between stem stem).1 (List.prefix_refl stem)).2 stop hstop

/-- A row key holds a separator, so there is a stop key for it. -/
theorem SnapshotKey.stop_of_encode {bucketStart : Int} {cluster path : Text} {stem : Bytes}
    (hstem : encode bucketStart cluster path = .ok stem) :
    ∃ stop, successor? stem = some stop ∧ stem < stop := by
  obtain ⟨-, rfl⟩ := (encode_eq_ok_iff ..).1 hstem
  have hmem : 0x21 ∈ Utf8.points (keyText bucketStart cluster path) := by
    rw [Utf8.points, List.mem_flatMap, keyText_eq]
    exact ⟨separator, by simp, by decide⟩
  cases hstop : successor? (Utf8.points (keyText bucketStart cluster path)) with
  | none => exact absurd (successor?_eq_none_iff.1 hstop _ hmem) (by decide)
  | some stop => exact ⟨stop, rfl, lt_of_successor? hstop⟩

namespace Query

/-! ## Arguments -/

def Request.atSecond (cluster : Text) (path? : Option Text) (limit seconds : Int) : Request :=
  ⟨cluster, path?, limit, .ofSeconds seconds⟩

/-- Arguments that no query can have: nothing is wanted, the cluster is empty or holds a separator,
the hour is not one that a row key can hold, or there is a surrogate in one of the texts. -/
def Unfit (cluster path : Text) (limit seconds : Int) : Prop :=
  limit ≤ 0 ∨ cluster = [] ∨ separator ∈ cluster ∨
    (∃ hour, HourOf hour seconds ∧ (hour < 0 ∨ maxBucketStart < hour)) ∨
    ∃ c, (c ∈ cluster ∨ c ∈ path) ∧ c.isSurrogate = true

/-- The scan is the one that the arguments ask for. -/
structure AskedBy (cluster path : Text) (limit seconds batchSize : Int) (scan : Scan) : Prop where
  start : ∃ hour, HourOf hour seconds ∧ SnapshotKey.encode hour cluster path = .ok scan.start
  columns : scan.columns = statsColumns
  batch : scan.batchSize = min limit batchSize
  rows : 1 ≤ scan.batchSize ∧ scan.batchSize ≤ limit
  filter : ∃ number, scan.filter = some (.whileMatch number (.startsWith scan.start))
  stop : ∃ stop, scan.stop? = some stop ∧ scan.start < stop

def SaysInvalid {ε : Type} (answer : Except (Failure ε) (List Record)) : Prop :=
  ∃ refusal f, answer = .error (.refused refusal) ∧ refusal.known? = some f ∧ f.kind = .invalidInput

section

variable {cluster path : Text} {path? : Option Text} {limit seconds : Int}

theorem not_unfit_iff : ¬ Unfit cluster path limit seconds ↔
    0 < limit ∧ SnapshotKey.Valid ⟨bucketOf seconds, cluster, path⟩ := by
  have hhour : (∃ hour, HourOf hour seconds ∧ (hour < 0 ∨ maxBucketStart < hour)) ↔
      bucketOf seconds < 0 ∨ maxBucketStart < bucketOf seconds := by
    simp only [hourOf_iff, exists_eq_left]
  have htexts : (∃ c, (c ∈ cluster ∨ c ∈ path) ∧ c.isSurrogate = true) ↔
      ¬ (Utf8.Encodable cluster ∧ Utf8.Encodable path) := by
    rw [Utf8.encodable_iff, Utf8.encodable_iff, ← List.forall_mem_append]
    simp
  rw [Unfit, hhour, htexts]
  constructor
  · intro hfit
    simp only [not_or, Decidable.not_not] at hfit
    obtain ⟨hlimit, hnonempty, hwhole, ⟨hlow, hhigh⟩, hcluster, hpath⟩ := hfit
    exact ⟨by omega, ⟨by dsimp only; omega, by dsimp only; omega⟩, hnonempty, hwhole, hcluster,
      hpath⟩
  · rintro ⟨hlimit, hvalid⟩ (hnone | hempty | hseparator | hhour | hsurrogate)
    · omega
    · exact hvalid.nonempty hempty
    · exact hvalid.whole hseparator
    · have hbucket := hvalid.bucket
      dsimp only at hbucket
      omega
    · exact hsurrogate ⟨hvalid.cluster, hvalid.path⟩

theorem kind_of_known? {refusal : Refusal} {f : KnownFailure} (hknown : refusal.known? = some f) :
    f.kind = .invalidInput := by
  cases refusal with
  | limitNotPositive limit => cases hknown; rfl
  | noInstant fault => cases hknown
  | noKey e => cases hknown; rfl

theorem plan_of_unfit (service : Service)
    (hunfit : Unfit cluster (path?.getD []) limit seconds) :
    ∃ refusal f, service.plan (.atSecond cluster path? limit seconds) = .error refusal ∧
      refusal.known? = some f ∧ f.kind = .invalidInput := by
  cases hplan : service.plan (.atSecond cluster path? limit seconds) with
  | ok plan =>
    obtain ⟨hlimit, hbucket, hstem, -⟩ := of_plan_eq_ok hplan
    have hvalid := ((SnapshotKey.encode_eq_ok_iff ..).1 hstem).1
    have hhour : bucketOf seconds = plan.bucketStart := Except.ok.inj hbucket
    rw [← hhour] at hvalid
    exact absurd hunfit (not_unfit_iff.2 ⟨hlimit, hvalid⟩)
  | error refusal =>
    obtain ⟨f, hknown⟩ := known?_of_plan rfl hplan
    exact ⟨refusal, f, rfl, hknown, kind_of_known? hknown⟩

theorem plan_of_fit (service : Service)
    (hfit : ¬ Unfit cluster (path?.getD []) limit seconds) :
    ∃ plan, service.plan (.atSecond cluster path? limit seconds) = .ok plan ∧
      ∀ number, AskedBy cluster (path?.getD []) limit seconds service.batchSize
        (plan.scan number) := by
  obtain ⟨hlimit, hvalid⟩ := not_unfit_iff.1 hfit
  obtain ⟨stem, hstem⟩ : ∃ stem, SnapshotKey.encode (bucketOf seconds) cluster (path?.getD []) =
      .ok stem := ⟨_, (SnapshotKey.encode_eq_ok_iff ..).2 ⟨hvalid, rfl⟩⟩
  have hplan : service.plan (.atSecond cluster path? limit seconds) =
      .ok ⟨bucketOf seconds, stem, limit.toNat, min limit service.batchSize⟩ :=
    plan_eq_ok hlimit rfl hstem
  have hpositive := service.positive
  refine ⟨_, hplan, fun number => ?_⟩
  exact {
    start := ⟨_, hourOf_iff.2 rfl, hstem⟩
    columns := rfl
    batch := rfl
    rows := by
      dsimp only [Plan.scan]
      omega
    filter := ⟨number, rfl⟩
    stop := SnapshotKey.stop_of_encode hstem }

end

section

variable {σ κ ε : Type}

theorem recordOf_not_refused (row : Row) (refusal : Refusal) :
    recordOf (ε := ε) row ≠ .error (.refused refusal) := by
  intro hrefused
  unfold recordOf at hrefused
  split at hrefused
  · cases hrefused
  · split at hrefused <;> cases hrefused

theorem collect_not_refused (pull : σ → Pull ε × σ) (limit fuel : Nat) (acc : List Record) (s : σ)
    (refusal : Refusal) : (collect pull limit fuel acc s).1 ≠ .error (.refused refusal) := by
  intro hrefused
  induction fuel generalizing acc s with
  | zero => cases hrefused
  | succ fuel ih =>
    rw [collect] at hrefused
    generalize pull s = pulled at hrefused
    obtain ⟨outcome, after⟩ := pulled
    cases outcome with
    | ended => cases hrefused
    | failed e => cases hrefused
    | row row =>
      dsimp only at hrefused
      split at hrefused
      · exact ih _ _ hrefused
      · split at hrefused
        · next e hrecord =>
          cases hrefused
          exact recordOf_not_refused row refusal hrecord
        · split at hrefused
          · cases hrefused
          · exact ih _ _ hrefused

theorem run_not_refused (source : Source σ κ ε) (cluster : Text) (plan : Plan) (s : σ)
    (refusal : Refusal) : (run source cluster plan s).1 ≠ .error (.refused refusal) := by
  rcases hopen : source.opens plan s with ⟨e | scanner, after⟩
  · rw [run_of_refused hopen]
    intro hrefused
    cases hrefused
  · rw [run_of_opened hopen]
    exact collect_not_refused _ _ _ _ _ _

/-- **Arguments are checked before anything is asked for.** A query for the hour of a whole second
is answered by an invalid argument exactly if its arguments are unfit. It then asks its source for
nothing and logs nothing. Any other query asks for one scan: it starts at the row key of the hour,
the cluster and the path, lets through what starts with it, wants all columns in batches of at most
as many rows as are wanted, and has a stop key above its start. -/
theorem arguments_are_checked (service : Service) (source : Source σ κ ε) (cluster : Text)
    (path? : Option Text) (limit seconds : Int) (s : σ) :
    ∃ calls : List (Call κ ε),
      service.list source.recorded (.atSecond cluster path? limit seconds) (s, []) =
        ((service.list source (.atSecond cluster path? limit seconds) s).1,
          (service.list source (.atSecond cluster path? limit seconds) s).2, calls) ∧
      (SaysInvalid (service.list source (.atSecond cluster path? limit seconds) s).1 ↔
        Unfit cluster (path?.getD []) limit seconds) ∧
      (Unfit cluster (path?.getD []) limit seconds →
        calls = [] ∧ (service.list source (.atSecond cluster path? limit seconds) s).2 = s) ∧
      (¬ Unfit cluster (path?.getD []) limit seconds →
        ∃ scan, Call.scans calls = [scan] ∧
          AskedBy cluster (path?.getD []) limit seconds service.batchSize scan) := by
  by_cases hunfit : Unfit cluster (path?.getD []) limit seconds
  · obtain ⟨refusal, f, hplan, hknown, hkind⟩ := plan_of_unfit service hunfit
    have hlist : ∀ {τ : Type} (source : Source τ κ ε) (s : τ),
        service.list source (.atSecond cluster path? limit seconds) s =
          (.error (.refused refusal), s) := by
      intro τ source s
      rw [Service.list, hplan]
    rw [hlist, hlist]
    exact ⟨[], rfl, iff_of_true ⟨refusal, f, rfl, hknown, hkind⟩ hunfit, fun _ => ⟨rfl, rfl⟩,
      absurd hunfit⟩
  · obtain ⟨plan, hplan, hasked⟩ := plan_of_fit service hunfit
    have hlist : ∀ {τ : Type} (source : Source τ κ ε) (s : τ),
        service.list source (.atSecond cluster path? limit seconds) s =
          run source cluster plan s := by
      intro τ source s
      rw [Service.list, hplan]
      rfl
    obtain ⟨calls, hrun, hscans⟩ := run_opens source cluster plan s []
    rw [hlist, hlist]
    refine ⟨calls, hrun, iff_of_false ?_ hunfit, (absurd · hunfit), fun _ => ⟨_, hscans, hasked _⟩⟩
    rintro ⟨refusal, f, hrefused, -⟩
    exact run_not_refused source cluster plan s refusal hrefused

end

end Query

end HourlyUsage
