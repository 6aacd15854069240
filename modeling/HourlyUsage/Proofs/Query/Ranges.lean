import HourlyUsage.Proofs.Query.Arguments
import HourlyUsage.Proofs.Table.Paging
/-!
# The ranges of queries

The scan of a query walks the keys from the stem of the query up to its stop key. These are the keys
that begin with the stem, so two queries meet only where one of their stems begins the other; and a
stem begins another one only where the first query asks for all that the second one does.

Sources: the scan that `list_by_prefix` makes, `bucket_of`, `encode_key`, `prefix_successor`.

Hypotheses: both queries have plans, and their instants whole seconds.

Results:
* `bucketOf_eq_iff`: instants of one hour have one bucket.
* `inRange_scan_iff`: which keys the scan of a plan walks.
* `stem_prefix_iff_of_plan`: when a stem begins another one, in words of the arguments.
* `ranges_nest_or_part`: the ranges of two queries.
-/
namespace HourlyUsage

/-- Instants have the same bucket if they lie in the same hour since the epoch. -/
theorem bucketOf_eq_iff {t t' : Int} :
    bucketOf t = bucketOf t' ↔ t / bucketSeconds = t' / bucketSeconds := by
  have hlength : bucketSeconds = 3600 := rfl
  rw [bucketOf, bucketOf, hlength]
  omega

namespace Query

/-- The scan of a plan walks the keys that begin with the stem. -/
theorem inRange_scan_iff (plan : Plan) (number : Nat) (key : Bytes) :
    (plan.scan number).inRange none key = true ↔ plan.stem <+: key := by
  rw [Scan.inRange_none_iff, prefix_iff_between]
  rfl

section

variable {service service' : Service} {request request' : Request} {plan plan' : Plan} {t t' : Int}

theorem bucketStart_of_plan (hplan : service.plan request = .ok plan)
    (htime : request.time.seconds = .ok t) : plan.bucketStart = bucketOf t := by
  obtain ⟨-, hbucket, -, -⟩ := of_plan_eq_ok hplan
  rw [Instant.bucket, htime] at hbucket
  exact (Except.ok.inj hbucket).symm

/-- A stem begins another one if the hour and the cluster are the same and the path begins the other
path. -/
theorem stem_prefix_iff_of_plan (hplan : service.plan request = .ok plan)
    (hplan' : service'.plan request' = .ok plan') (htime : request.time.seconds = .ok t)
    (htime' : request'.time.seconds = .ok t') :
    plan.stem <+: plan'.stem ↔ t / bucketSeconds = t' / bucketSeconds ∧
      request.cluster = request'.cluster ∧ request.path?.getD [] <+: request'.path?.getD [] := by
  obtain ⟨-, -, hstem, -⟩ := of_plan_eq_ok hplan
  obtain ⟨-, -, hstem', -⟩ := of_plan_eq_ok hplan'
  rw [SnapshotKey.stem_prefix_iff hstem hstem', bucketStart_of_plan hplan htime,
    bucketStart_of_plan hplan' htime', bucketOf_eq_iff]

/-- **Ranges nest or part.** The stem of a query begins that of another one exactly if the instants
lie in the same hour, the clusters are equal and the first path begins the second one, character by
character; then the range of the first query holds that of the second one. Where neither stem begins
the other, no key at all lies in both ranges. -/
theorem ranges_nest_or_part (hplan : service.plan request = .ok plan)
    (hplan' : service'.plan request' = .ok plan') (htime : request.time.seconds = .ok t)
    (htime' : request'.time.seconds = .ok t') :
    (plan.stem <+: plan'.stem ↔ t / bucketSeconds = t' / bucketSeconds ∧
      request.cluster = request'.cluster ∧ request.path?.getD [] <+: request'.path?.getD []) ∧
    (plan.stem <+: plan'.stem → ∀ number number' key,
      (plan'.scan number').inRange none key = true →
        (plan.scan number).inRange none key = true) ∧
    (¬ plan.stem <+: plan'.stem → ¬ plan'.stem <+: plan.stem → ∀ number number' key,
      ¬ ((plan.scan number).inRange none key = true ∧
        (plan'.scan number').inRange none key = true)) := by
  simp only [inRange_scan_iff]
  refine ⟨stem_prefix_iff_of_plan hplan hplan' htime htime', ?_, ?_⟩
  · intro hnested _ _ key hkey
    exact hnested.trans hkey
  · rintro hnot hnot' _ _ key ⟨hkey, hkey'⟩
    exact (List.prefix_or_prefix_of_prefix hkey hkey').elim hnot hnot'

end

theorem rangeBatch_pos : (0 : Int) < 10 := by decide

def rangeService : Service := ⟨10, rangeBatch_pos⟩

/-- A query for a second of the first hour but one. -/
def rangeRequest (cluster path : Text) (seconds : Int) : Request :=
  .atSecond cluster (some path) 1 seconds

def rangePlan (cluster path : Text) : Plan :=
  ⟨3600, Utf8.points (SnapshotKey.keyText 3600 cluster path), 1, 1⟩

/-- A path that goes on with a separator is below the shorter one, another second of the hour or
not; a cluster whose name goes on is not. -/
theorem longer_names_nest_or_part :
    (∀ key, ((rangePlan (text "c1") (text "/a!b")).scan 1).inRange none key = true →
      ((rangePlan (text "c1") (text "/a")).scan 0).inRange none key = true) ∧
    ∀ key, ¬ (((rangePlan (text "c1") []).scan 0).inRange none key = true ∧
      ((rangePlan (text "c10") []).scan 1).inRange none key = true) := by
  have hpath : rangeService.plan (rangeRequest (text "c1") (text "/a") 3600) =
      .ok (rangePlan (text "c1") (text "/a")) := rfl
  have hlonger : rangeService.plan (rangeRequest (text "c1") (text "/a!b") 7199) =
      .ok (rangePlan (text "c1") (text "/a!b")) := rfl
  have hcluster : rangeService.plan (rangeRequest (text "c1") [] 3600) =
      .ok (rangePlan (text "c1") []) := rfl
  have hother : rangeService.plan (rangeRequest (text "c10") [] 3600) =
      .ok (rangePlan (text "c10") []) := rfl
  obtain ⟨hnested, hinside, -⟩ := ranges_nest_or_part hpath hlonger rfl rfl
  obtain ⟨hiff, -, hapart⟩ := ranges_nest_or_part hcluster hother rfl rfl
  have hnot : ¬ (rangePlan (text "c1") []).stem <+: (rangePlan (text "c10") []).stem := by
    rw [hiff]
    exact fun h => absurd h.2.1 (by decide)
  have hnot' : ¬ (rangePlan (text "c10") []).stem <+: (rangePlan (text "c1") []).stem := by decide
  exact ⟨hinside (hnested.2 ⟨by decide, rfl, by decide⟩) 0 1, hapart hnot hnot' 0 1⟩

end Query

end HourlyUsage
