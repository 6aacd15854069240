import HourlyUsage.Proofs.Snapshot.KeyOrder
/-!
# The order of clusters in one bucket

In one bucket row keys sort by cluster wherever two names differ inside both of them. Where one name
is the beginning of the other, the separator behind the shorter one is compared with the code point
that the longer one goes on with: below the separator there are the controls and the space, and with
one of these the longer name comes first, against the order of the names.

Sources: `encode_key`.

Hypotheses: both snapshots are valid and of one bucket.

Results:
* `append_separator_lt_iff`: how names with a separator behind them compare.
* `key_lt_of_cluster_iff`: when keys of one bucket sort by cluster.
* `clusters_not_sorted`: not all of them do.
-/
namespace HourlyUsage

namespace Text

variable {separator : CodePoint} {a b : Text}

/-- The name is the beginning of the other one, which goes on below the separator. -/
def GoesOnBelow (separator : CodePoint) (a b : Text) : Prop :=
  ∃ c rest, b = a ++ c :: rest ∧ c < separator

theorem goesOnBelow_cons (separator c : CodePoint) (a b : Text) :
    GoesOnBelow separator (c :: a) (c :: b) ↔ GoesOnBelow separator a b := by
  simp [GoesOnBelow]

/-- Names in ascending order stay so with a separator behind each, whatever follows it, unless the
lesser one is the beginning of the other one and that goes on below the separator. -/
theorem append_separator_lt_iff (hwhole : separator ∉ b) (hlt : a < b) (rest rest' : Text) :
    a ++ separator :: rest < b ++ separator :: rest' ↔ ¬ GoesOnBelow separator a b := by
  induction a generalizing b with
  | nil =>
    cases b with
    | nil => exact absurd hlt (List.lt_irrefl [])
    | cons d b =>
      have hne : separator ≠ d := fun h => hwhole (h ▸ List.mem_cons_self ..)
      have hbelow : GoesOnBelow separator [] (d :: b) ↔ d < separator := by
        simp [GoesOnBelow]
      rw [hbelow, List.nil_append, List.cons_append, List.cons_lt_cons_iff]
      simp only [hne, false_and, or_false]
      have hval : separator.val ≠ d.val := fun h => hne (Fin.ext h)
      rw [Fin.lt_def, Fin.lt_def]
      omega
  | cons c a ih =>
    cases b with
    | nil => cases hlt
    | cons d b =>
      rw [List.cons_append, List.cons_append, List.cons_lt_cons_iff]
      rcases List.cons_lt_cons_iff.1 hlt with hcd | ⟨rfl, hab⟩
      · -- The names differ here, so neither is the beginning of the other.
        have hnot : ¬ GoesOnBelow separator (c :: a) (d :: b) := by
          rintro ⟨x, more, heq, -⟩
          exact Fin.ne_of_lt hcd (List.cons.inj heq).1.symm
        exact iff_of_true (.inl hcd) hnot
      · rw [goesOnBelow_cons, ← ih (fun h => hwhole (List.mem_cons_of_mem _ h)) hab]
        simp

end Text

namespace SnapshotKey

variable {a b : SnapshotKey}

/-- **When clusters sort.** Of two valid snapshots in one bucket the one with the lesser cluster has
the lesser key, whatever the paths are, unless its cluster is the beginning of the other one and
that goes on below the separator; then it has the greater key. -/
theorem key_lt_of_cluster_iff (ha : a.Valid) (hb : b.Valid)
    (hbucket : a.bucketStart = b.bucketStart) (hcluster : a.cluster < b.cluster) :
    ∃ x y, a.toBytes = .ok x ∧ b.toBytes = .ok y ∧
      (x < y ↔ ¬ Text.GoesOnBelow separator a.cluster b.cluster) ∧
      (y < x ↔ Text.GoesOnBelow separator a.cluster b.cluster) := by
  obtain ⟨x, hx⟩ : ∃ x, a.toBytes = .ok x := ⟨_, (encode_eq_ok_iff ..).2 ⟨ha, rfl⟩⟩
  obtain ⟨y, hy⟩ : ∃ y, b.toBytes = .ok y := ⟨_, (encode_eq_ok_iff ..).2 ⟨hb, rfl⟩⟩
  have horder : x < y ↔ ¬ Text.GoesOnBelow separator a.cluster b.cluster := by
    obtain ⟨-, rfl⟩ := (encode_eq_ok_iff ..).1 hx
    obtain ⟨-, rfl⟩ := (encode_eq_ok_iff ..).1 hy
    rw [Utf8.points_lt_iff, keyText_eq, keyText_eq, hbucket, append_lt_append_iff rfl,
      ← Text.append_separator_lt_iff hb.whole hcluster a.path b.path, List.cons_lt_cons_iff,
      or_iff_right (List.lt_irrefl _)]
    simp
  have hne : x ≠ y := by
    rintro rfl
    have hsame := (decode_of_encode hx).symm.trans (decode_of_encode hy)
    rw [congrArg SnapshotKey.cluster (Except.ok.inj hsame)] at hcluster
    exact List.lt_irrefl _ hcluster
  have hturned : y < x ↔ ¬ x < y :=
    ⟨List.lt_asymm, fun hnot => Std.lt_of_le_of_ne (Std.not_lt.1 hnot) hne.symm⟩
  exact ⟨x, y, hx, hy, horder, by rw [hturned, horder, Classical.not_not]⟩

/-- A snapshot of the first bucket of all with the empty path. -/
def clusterKey (cluster : Text) : SnapshotKey := ⟨0, cluster, []⟩

theorem valid_clusterKey (cluster : Text) (hnonempty : cluster ≠ [])
    (hwhole : separator ∉ cluster) (hcluster : Utf8.Encodable cluster) :
    (clusterKey cluster).Valid where
  bucket := ⟨Int.le_refl 0, Int.zero_le_ofNat _⟩
  nonempty := hnonempty
  whole := hwhole
  cluster := hcluster
  path := ⟨[], rfl⟩

/-- A name that goes on with a space comes before its beginning, one that goes on with a digit
behind it. -/
theorem spaced_cluster_comes_first :
    (∃ x y, (clusterKey (text "c")).toBytes = .ok x ∧ (clusterKey (text "c 1")).toBytes = .ok y ∧
      y < x) ∧
    ∃ x y, (clusterKey (text "c")).toBytes = .ok x ∧ (clusterKey (text "c1")).toBytes = .ok y ∧
      x < y := by
  have hvalid := valid_clusterKey (text "c") (by decide) (by decide) (by decide)
  constructor
  · obtain ⟨x, y, hx, hy, -, hgreater⟩ := key_lt_of_cluster_iff hvalid
      (valid_clusterKey (text "c 1") (by decide) (by decide) (by decide)) rfl
      (by decide)
    exact ⟨x, y, hx, hy, hgreater.2 ⟨0x20, text "1", by decide, by decide⟩⟩
  · obtain ⟨x, y, hx, hy, hless, -⟩ := key_lt_of_cluster_iff hvalid
      (valid_clusterKey (text "c1") (by decide) (by decide) (by decide)) rfl
      (by decide)
    refine ⟨x, y, hx, hy, hless.2 ?_⟩
    rintro ⟨c, rest, heq, hlt⟩
    obtain rfl : 0x31 = c := (List.cons.inj (List.cons.inj heq).2).1
    exact absurd hlt (by decide)

/-- Keys of one bucket do not always sort by cluster. -/
theorem clusters_not_sorted :
    ¬ ∀ a b : SnapshotKey, a.Valid → b.Valid → a.bucketStart = b.bucketStart →
      a.cluster < b.cluster → ∀ x y, a.toBytes = .ok x → b.toBytes = .ok y → x < y := by
  intro hsorted
  have hvalid := valid_clusterKey (text "c") (by decide) (by decide) (by decide)
  have hvalid' := valid_clusterKey (text "c 1") (by decide) (by decide) (by decide)
  obtain ⟨x, hx⟩ : ∃ x, (clusterKey (text "c")).toBytes = .ok x :=
    ⟨_, (encode_eq_ok_iff ..).2 ⟨hvalid, rfl⟩⟩
  obtain ⟨y, hy⟩ : ∃ y, (clusterKey (text "c 1")).toBytes = .ok y :=
    ⟨_, (encode_eq_ok_iff ..).2 ⟨hvalid', rfl⟩⟩
  have hlt := hsorted _ _ hvalid hvalid' rfl (by decide) x y hx hy
  obtain ⟨-, rfl⟩ := (encode_eq_ok_iff ..).1 hx
  obtain ⟨-, rfl⟩ := (encode_eq_ok_iff ..).1 hy
  rw [Utf8.points_lt_iff] at hlt
  exact absurd hlt (by decide)

end SnapshotKey

end HourlyUsage
