import HourlyUsage.Proofs.Snapshot.Key
import HourlyUsage.Proofs.Table.StopKeys
/-!
# The order of row keys

A scan that walks row keys upwards meets the newest bucket first, and in one bucket and one cluster
the paths in their order, with no other row between them. For this the inverted bucket start is
written with a fixed count of digits, and the parts in front of the path end with a separator.

Sources: `encode_key`, `invert_timestamp`.

Hypotheses: the snapshots are valid.

Results:
* `fixed_lt_iff`: numbers written with enough digits compare as the numbers do.
* `key_lt_of_bucket`: a later bucket has the lesser key.
* `same_cluster_of_between`: between two keys of one bucket and cluster there are only such keys.
* `keys_sort_newest_first`: the three together.
-/
namespace HourlyUsage

theorem append_lt_append_iff {α : Type} [LT α] {a b : List α} (h : a.length = b.length)
    (c d : List α) : a ++ c < b ++ d ↔ a < b ∨ a = b ∧ c < d := by
  induction a generalizing b with
  | nil =>
    obtain rfl : b = [] := List.length_eq_zero_iff.1 h.symm
    simp
  | cons x a ih =>
    cases b with
    | nil => cases h
    | cons y b =>
      rw [List.cons_append, List.cons_append, List.cons_lt_cons_iff, List.cons_lt_cons_iff,
        List.cons.injEq, ih (Nat.succ.inj h)]
      by_cases hxy : x = y <;> simp [hxy, or_assoc]

namespace Numeral

theorem ofDigit_lt_iff (m n : Nat) :
    CodePoint.ofDigit m < CodePoint.ofDigit n ↔ m % 10 < n % 10 := by
  rw [Fin.lt_def, ofDigit_val, ofDigit_val]
  omega

/-- Numbers written with enough digits compare as the numbers do. -/
theorem fixed_lt_iff {width m n : Nat} (hm : m < 10 ^ width) (hn : n < 10 ^ width) :
    fixed width m < fixed width n ↔ m < n := by
  induction width generalizing m n with
  | zero =>
    have hzero : m = 0 ∧ n = 0 := by
      rw [Nat.pow_zero] at hm hn
      omega
    simp [hzero.1, hzero.2]
  | succ width ih =>
    rw [Nat.pow_succ] at hm hn
    have hm' : m / 10 < 10 ^ width := by omega
    have hn' : n / 10 < 10 ^ width := by omega
    have hsame : fixed width (m / 10) = fixed width (n / 10) ↔ m / 10 = n / 10 :=
      ⟨fixed_inj hm' hn', congrArg _⟩
    rw [fixed, fixed, append_lt_append_iff (by rw [length_fixed, length_fixed]), ih hm' hn', hsame,
      List.cons_lt_cons_iff, ofDigit_lt_iff]
    simp only [List.not_lt_nil, and_false, or_false]
    omega

end Numeral

theorem prefix_of_between {stem x y z : Bytes} (hx : stem <+: x) (hz : stem <+: z) (hxy : x < y)
    (hyz : y < z) : stem <+: y := by
  rw [prefix_iff_between] at hx hz ⊢
  exact ⟨fun hlt => hx.1 (List.lt_trans hxy hlt), fun stop hstop =>
    List.lt_trans hyz (hz.2 stop hstop)⟩

namespace SnapshotKey

variable {a b c : SnapshotKey} {x y z : Bytes}

theorem valid_of_toBytes (h : a.toBytes = .ok x) : a.Valid := ((encode_eq_ok_iff ..).1 h).1

/-- A later bucket has the lesser key, whatever the cluster and the path are. -/
theorem key_lt_of_bucket (ha : a.toBytes = .ok x) (hb : b.toBytes = .ok y)
    (hbucket : b.bucketStart < a.bucketStart) : x < y := by
  obtain ⟨hvalid, rfl⟩ := (encode_eq_ok_iff ..).1 ha
  obtain ⟨hvalid', rfl⟩ := (encode_eq_ok_iff ..).1 hb
  rw [Utf8.points_lt_iff, keyText_eq, keyText_eq,
    append_lt_append_iff (by rw [Numeral.length_fixed, Numeral.length_fixed]),
    Numeral.fixed_lt_iff (invert_lt hvalid) (invert_lt hvalid')]
  left
  have hrange := hvalid.bucket
  simp only [invert] at hrange ⊢
  omega

/-- The stem of a bucket and a cluster is the beginning of their keys, and of no other ones. -/
theorem exists_stem (ha : a.toBytes = .ok x) :
    ∃ stem, ∀ k bytes, SnapshotKey.toBytes k = .ok bytes →
      (stem <+: bytes ↔ a.bucketStart = k.bucketStart ∧ a.cluster = k.cluster) := by
  have hvalid := valid_of_toBytes ha
  obtain ⟨stem, hstem⟩ : ∃ stem, encode a.bucketStart a.cluster [] = .ok stem :=
    ⟨_, (encode_eq_ok_iff ..).2
      ⟨⟨hvalid.bucket, hvalid.nonempty, hvalid.whole, hvalid.cluster, ⟨[], rfl⟩⟩, rfl⟩⟩
  refine ⟨stem, fun k bytes hk => ?_⟩
  rw [stem_prefix_iff hstem hk]
  simp

/-- Between two keys of one bucket and one cluster there are only keys of these. -/
theorem same_cluster_of_between (ha : a.toBytes = .ok x) (hb : b.toBytes = .ok y)
    (hbucket : a.bucketStart = b.bucketStart) (hcluster : a.cluster = b.cluster)
    (hc : c.toBytes = .ok z) (hxz : x < z) (hzy : z < y) :
    c.bucketStart = a.bucketStart ∧ c.cluster = a.cluster := by
  obtain ⟨stem, hstem⟩ := exists_stem ha
  have hx := (hstem a x ha).2 ⟨rfl, rfl⟩
  have hy := (hstem b y hb).2 ⟨hbucket, hcluster⟩
  obtain ⟨hbucket', hcluster'⟩ := (hstem c z hc).1 (prefix_of_between hx hy hxz hzy)
  exact ⟨hbucket'.symm, hcluster'.symm⟩

/-- **Row keys sort newest first, and by path in one cluster.** Of two valid snapshots the one in
the later bucket has the lesser key. In one bucket and one cluster keys compare as paths do, and no
valid snapshot of another bucket or another cluster has a key between two of them. -/
theorem keys_sort_newest_first (ha : a.Valid) (hb : b.Valid) :
    ∃ x y, a.toBytes = .ok x ∧ b.toBytes = .ok y ∧
      (b.bucketStart < a.bucketStart → x < y) ∧
      (a.bucketStart = b.bucketStart → a.cluster = b.cluster →
        (x < y ↔ a.path < b.path) ∧
        ∀ c : SnapshotKey, c.Valid → ∀ z, c.toBytes = .ok z → x < z → z < y →
          c.bucketStart = a.bucketStart ∧ c.cluster = a.cluster) := by
  obtain ⟨x, hx⟩ : ∃ x, a.toBytes = .ok x := ⟨_, (encode_eq_ok_iff ..).2 ⟨ha, rfl⟩⟩
  obtain ⟨y, hy⟩ : ∃ y, b.toBytes = .ok y := ⟨_, (encode_eq_ok_iff ..).2 ⟨hb, rfl⟩⟩
  refine ⟨x, y, hx, hy, key_lt_of_bucket hx hy, ?_⟩
  intro hbucket hcluster
  constructor
  · unfold toBytes at hx hy
    rw [← hbucket, ← hcluster] at hy
    exact key_lt_iff hx hy
  · intro c _ z hz hxz hzy
    exact same_cluster_of_between hx hy hbucket hcluster hz hxz hzy

/-- A cluster with a space, which is below the separator, in the first bucket of all. -/
def spacedKey (path : Text) : SnapshotKey := ⟨0, text "c 1", path⟩

theorem valid_spacedKey {path : Text} (hpath : Utf8.Encodable path) : (spacedKey path).Valid where
  bucket := ⟨Int.le_refl 0, Int.zero_le_ofNat _⟩
  nonempty := (by decide : text "c 1" ≠ [])
  whole := (by decide : separator ∉ text "c 1")
  cluster := (by decide : Utf8.Encodable (text "c 1"))
  path := hpath

/-- The path is before its continuation, and only rows of the cluster are between the two. -/
theorem spacedKey_sorts_by_path :
    ∃ x y, (spacedKey (text "/a")).toBytes = .ok x ∧ (spacedKey (text "/a!b")).toBytes = .ok y ∧
      x < y ∧ ∀ c : SnapshotKey, c.Valid → ∀ z, c.toBytes = .ok z → x < z → z < y →
        c.cluster = text "c 1" := by
  obtain ⟨x, y, hx, hy, -, hsame⟩ := keys_sort_newest_first (a := spacedKey (text "/a"))
    (b := spacedKey (text "/a!b")) (valid_spacedKey (by decide)) (valid_spacedKey (by decide))
  obtain ⟨horder, hbetween⟩ := hsame rfl rfl
  refine ⟨x, y, hx, hy, horder.2 (by decide), ?_⟩
  intro c hc z hz hxz hzy
  exact (hbetween c hc z hz hxz hzy).2

end SnapshotKey

end HourlyUsage
