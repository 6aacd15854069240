import HourlyUsage.Proofs.Text.Utf8
import HourlyUsage.Snapshot.Key
/-!
# Row keys and paths

What a query relies on when it looks for paths among row keys: a key is read back as it was
written, the stem of a query is the beginning of exactly the keys that are asked for, and among
these the order of the keys is the order of the paths.

Sources: `encode_key`, `decode_key`, `invert_timestamp`, `StatsKey`.

Hypotheses: the bucket is in range, the cluster is not empty and has no separator, and no text holds
a surrogate (`SnapshotKey.Valid`).

Results:
* `value_fixed`: a bucket start written with enough digits is read back.
* `encode_eq_ok_iff`: which snapshots have a row key, and which key it is.
* `decode_of_encode`: reading gives back what was written.
* `stem_prefix_iff`: a stem is the beginning of the keys with its bucket, its cluster and a path
  that starts with its path.
* `key_lt_iff`: keys of one bucket and cluster compare as their paths do.
* `row_key_is_read_back`: every valid snapshot has a row key of its own, and is read back from it.
-/
namespace HourlyUsage

/-! ## Numbers with a fixed count of digits -/

namespace Numeral

theorem ofDigit_val (n : Nat) : (CodePoint.ofDigit n).val = 0x30 + n % 10 := by
  have hlt : 0x30 + n % 10 < 0x110000 := by omega
  rw [CodePoint.ofDigit, CodePoint.ofNat, dif_pos hlt]

theorem asciiDigit?_ofDigit (n : Nat) : (CodePoint.ofDigit n).asciiDigit? = some (n % 10) := by
  have hval := ofDigit_val n
  have h : 0x30 ≤ (CodePoint.ofDigit n).val ∧ (CodePoint.ofDigit n).val ≤ 0x39 := by omega
  rw [CodePoint.asciiDigit?, if_pos (by simpa using h), hval, Nat.add_sub_cancel_left]

/-- The last decimal digits of a number, most significant first. -/
def lastDigits : Nat → Nat → List Nat
  | 0, _ => []
  | width + 1, n => lastDigits width (n / 10) ++ [n % 10]

theorem length_lastDigits (width n : Nat) : (lastDigits width n).length = width := by
  induction width generalizing n with
  | zero => rfl
  | succ width ih => rw [lastDigits, List.length_append, ih]; rfl

@[simp] theorem length_fixed (width n : Nat) : (fixed width n).length = width := by
  induction width generalizing n with
  | zero => rfl
  | succ width ih => rw [fixed, List.length_append, ih]; rfl

theorem digits?_fixed (width n : Nat) : digits? (fixed width n) = some (lastDigits width n) := by
  induction width generalizing n with
  | zero => rfl
  | succ width ih =>
    have hrest := ih (n / 10)
    unfold digits? at hrest ⊢
    rw [fixed, List.mapM_append, hrest]
    simp [asciiDigit?_ofDigit, lastDigits]

/-- A number is what its digits spell, if they are enough. -/
theorem value_fixed {width n : Nat} (h : n < 10 ^ width) : value (lastDigits width n) = n := by
  induction width generalizing n with
  | zero =>
    have : n = 0 := by simpa using h
    rw [this]; rfl
  | succ width ih =>
    have hrest : n / 10 < 10 ^ width := by
      rw [Nat.pow_succ] at h
      omega
    have hstep : value (lastDigits width (n / 10) ++ [n % 10]) =
        10 * value (lastDigits width (n / 10)) + n % 10 := by
      rw [value, List.foldl_append]; rfl
    rw [lastDigits, hstep, ih hrest]
    omega

theorem fixed_inj {width m n : Nat} (hm : m < 10 ^ width) (hn : n < 10 ^ width)
    (h : fixed width m = fixed width n) : m = n := by
  have hdigits : lastDigits width m = lastDigits width n := by
    have := congrArg digits? h
    rwa [digits?_fixed, digits?_fixed, Option.some.injEq] at this
  rw [← value_fixed hm, ← value_fixed hn, hdigits]

theorem mem_fixed {width n : Nat} {c : CodePoint} (h : c ∈ fixed width n) :
    0x30 ≤ c.val ∧ c.val ≤ 0x39 := by
  induction width generalizing n with
  | zero => cases h
  | succ width ih =>
    rcases List.mem_append.1 h with h | h
    · exact ih h
    · rw [List.mem_singleton.1 h, ofDigit_val]; omega

end Numeral

/-! ## Texts cut at a separator -/

namespace Text

theorem cut?_append {c : CodePoint} {front : Text} (h : c ∉ front) (rest : Text) :
    cut? c (front ++ c :: rest) = some (front, rest) := by
  induction front with
  | nil => simp [cut?]
  | cons x front ih =>
    rw [List.mem_cons, not_or] at h
    rw [List.cons_append, cut?, if_neg (Ne.symm h.1), ih h.2]
    rfl

/-- Texts that are alike up to a separator are alike before it and behind it. -/
theorem cut_prefix_iff {c : CodePoint} {front front' : Text} (h : c ∉ front) (h' : c ∉ front')
    (rest rest' : Text) :
    front ++ c :: rest <+: front' ++ c :: rest' ↔ front = front' ∧ rest <+: rest' := by
  constructor
  · rintro ⟨more, hmore⟩
    rw [List.append_assoc, List.cons_append] at hmore
    have hcut := congrArg (cut? c) hmore
    rw [cut?_append h, cut?_append h'] at hcut
    cases hcut
    exact ⟨rfl, more, rfl⟩
  · rintro ⟨rfl, hrest⟩
    rw [List.prefix_append_right_inj, List.cons_prefix_cons]
    exact ⟨rfl, hrest⟩

end Text

/-! ## Row keys -/

namespace SnapshotKey

/-- What can be looked up: the bucket start is in range, the cluster is not empty and holds no
separator, and both texts can be written. -/
structure Valid (k : SnapshotKey) : Prop where
  bucket : 0 ≤ k.bucketStart ∧ k.bucketStart ≤ maxBucketStart
  nonempty : k.cluster ≠ []
  whole : separator ∉ k.cluster
  cluster : Utf8.Encodable k.cluster
  path : Utf8.Encodable k.path

theorem keyText_eq (bucketStart : Int) (cluster path : Text) :
    keyText bucketStart cluster path =
      Numeral.fixed invertedWidth (invert bucketStart).toNat ++
        separator :: (cluster ++ separator :: path) := by
  simp [keyText, Text.concat]

theorem separator_not_mem_fixed (width n : Nat) : separator ∉ Numeral.fixed width n := by
  intro h
  have hval := (Numeral.mem_fixed h).1
  have hseparator : separator.val = 0x21 := rfl
  omega

theorem encodable_keyText (bucketStart : Int) (cluster path : Text) :
    Utf8.Encodable (keyText bucketStart cluster path) ↔
      Utf8.Encodable cluster ∧ Utf8.Encodable path := by
  have hfixed : Utf8.Encodable (Numeral.fixed invertedWidth (invert bucketStart).toNat) := by
    rw [Utf8.encodable_iff]
    intro c hc
    have hval := Numeral.mem_fixed hc
    rw [CodePoint.isSurrogate, Bool.and_eq_false_iff]
    exact .inl (decide_eq_false (by omega))
  have hseparator : Utf8.Encodable [separator] := ⟨[0x21], rfl⟩
  rw [keyText, Text.concat]
  simp only [List.flatten_cons, List.flatten_nil, Utf8.encodable_append, List.append_nil, hfixed,
    hseparator, true_and]

/-- There is a row key for the valid snapshots and no others. -/
theorem encode_eq_ok_iff (bucketStart : Int) (cluster path : Text) (bytes : Bytes) :
    encode bucketStart cluster path = .ok bytes ↔
      Valid ⟨bucketStart, cluster, path⟩ ∧
        Utf8.points (keyText bucketStart cluster path) = bytes := by
  have hkey := encodable_keyText bucketStart cluster path
  constructor
  · intro h
    unfold encode at h
    split at h
    · cases h
    · next hne =>
      split at h
      · cases h
      · next hwhole =>
        split at h
        · cases h
        · next hrange =>
          split at h
          · next bytes' henc =>
            cases h
            obtain ⟨hcluster, hpath⟩ := hkey.1 ⟨_, henc⟩
            refine ⟨⟨by dsimp only; omega, ?_, hwhole, hcluster, hpath⟩, ?_⟩
            · rintro rfl; exact hne rfl
            · exact ((Utf8.encode_eq_ok_iff _ _).1 henc).2.symm
          · cases h
  · rintro ⟨hvalid, rfl⟩
    have hbucket := hvalid.bucket
    have hne : ¬ cluster.isEmpty = true := by
      rw [List.isEmpty_iff]; exact hvalid.nonempty
    rw [encode, if_neg hne, if_neg hvalid.whole, if_neg (by dsimp only at hbucket; omega),
      Utf8.encode_of_encodable (hkey.2 ⟨hvalid.cluster, hvalid.path⟩)]

section

variable {bucketStart bucketStart' : Int} {cluster cluster' path path' : Text}
  {bytes bytes' : Bytes}

theorem invert_lt (h : Valid ⟨bucketStart, cluster, path⟩) :
    (invert bucketStart).toNat < 10 ^ invertedWidth := by
  have hbucket := h.bucket
  have hmax : maxBucketStart < (10 ^ invertedWidth : Nat) := by decide
  have hinvert : invert bucketStart = maxBucketStart - bucketStart := rfl
  dsimp only at hbucket
  omega

theorem fixed_invert_inj (h : Valid ⟨bucketStart, cluster, path⟩)
    (h' : Valid ⟨bucketStart', cluster', path'⟩) :
    Numeral.fixed invertedWidth (invert bucketStart).toNat =
      Numeral.fixed invertedWidth (invert bucketStart').toNat ↔ bucketStart = bucketStart' := by
  refine ⟨?_, fun heq => by rw [heq]⟩
  intro heq
  have hnat := Numeral.fixed_inj (invert_lt h) (invert_lt h') heq
  have hb := h.bucket
  have hb' := h'.bucket
  simp only [invert] at hnat hb hb'
  omega

/-- Reading a row key gives back what was written. -/
theorem decode_of_encode (h : encode bucketStart cluster path = .ok bytes) :
    decode bytes = .ok ⟨bucketStart, cluster, path⟩ := by
  obtain ⟨hvalid, rfl⟩ := (encode_eq_ok_iff _ _ _ _).1 h
  have henc := (encodable_keyText bucketStart cluster path).2 ⟨hvalid.cluster, hvalid.path⟩
  have hparts : parts (keyText bucketStart cluster path) =
      .ok (Numeral.fixed invertedWidth (invert bucketStart).toNat, cluster, path) := by
    rw [keyText_eq, parts, Text.cut?_append (separator_not_mem_fixed _ _)]
    dsimp only
    rw [Text.cut?_append hvalid.whole]
  have hdigits := Numeral.digits?_fixed invertedWidth (invert bucketStart).toNat
  have hlength := Numeral.length_lastDigits invertedWidth (invert bucketStart).toNat
  have hvalue := Numeral.value_fixed (invert_lt hvalid)
  have hb := hvalid.bucket
  dsimp only at hb
  generalize hd : Numeral.lastDigits invertedWidth (invert bucketStart).toNat = digits at *
  rw [decode, Utf8.decode_encode (Utf8.encode_of_encodable henc)]
  dsimp only
  rw [hparts]
  dsimp only
  rw [hdigits]
  cases digits with
  | nil => cases hlength
  | cons d rest =>
    have hlong : ¬ Numeral.maxDigits < (d :: rest).length := by rw [hlength]; decide
    have hsmall : ¬ maxBucketStart < ((invert bucketStart).toNat : Int) := by
      rw [invert]; omega
    have hback : invert ((invert bucketStart).toNat : Int) = bucketStart := by
      simp only [invert] at hb ⊢; omega
    dsimp only
    rw [if_neg hlong, hvalue, if_neg hsmall, hback]

/-- The stem of a query is the beginning of exactly the keys that are asked for. -/
theorem stem_prefix_iff (h : encode bucketStart cluster path = .ok bytes)
    (h' : encode bucketStart' cluster' path' = .ok bytes') :
    bytes <+: bytes' ↔ bucketStart = bucketStart' ∧ cluster = cluster' ∧ path <+: path' := by
  obtain ⟨hvalid, rfl⟩ := (encode_eq_ok_iff _ _ _ _).1 h
  obtain ⟨hvalid', rfl⟩ := (encode_eq_ok_iff _ _ _ _).1 h'
  rw [Utf8.points_prefix_iff, keyText_eq, keyText_eq,
    Text.cut_prefix_iff (separator_not_mem_fixed _ _) (separator_not_mem_fixed _ _),
    Text.cut_prefix_iff hvalid.whole hvalid'.whole, fixed_invert_inj hvalid hvalid']

/-- Keys of one bucket and cluster compare as their paths do. -/
theorem key_lt_iff (h : encode bucketStart cluster path = .ok bytes)
    (h' : encode bucketStart cluster path' = .ok bytes') : bytes < bytes' ↔ path < path' := by
  obtain ⟨-, rfl⟩ := (encode_eq_ok_iff _ _ _ _).1 h
  obtain ⟨-, rfl⟩ := (encode_eq_ok_iff _ _ _ _).1 h'
  rw [Utf8.points_lt_iff, keyText_eq, keyText_eq]
  have hfront : ∀ front : Text, front ++ path < front ++ path' ↔ path < path' := by
    intro front
    induction front with
    | nil => rfl
    | cons c front ih =>
      rw [List.cons_append, List.cons_append, List.cons_lt_cons_iff]
      simp [ih]
  have h := hfront (Numeral.fixed invertedWidth (invert bucketStart).toNat ++
    separator :: (cluster ++ [separator]))
  simpa using h

end

/-- **A row key can be read back.** A snapshot whose bucket start is in range, whose cluster is not
empty and holds no separator, and whose texts hold no surrogates has a row key. What is read from
the row key is the snapshot, and no other snapshot has the same row key. -/
theorem row_key_is_read_back (k : SnapshotKey)
    (hbucket : 0 ≤ k.bucketStart ∧ k.bucketStart ≤ maxBucketStart) (hnonempty : k.cluster ≠ [])
    (hwhole : separator ∉ k.cluster) (hcluster : ∀ c ∈ k.cluster, c.isSurrogate = false)
    (hpath : ∀ c ∈ k.path, c.isSurrogate = false) :
    ∃ bytes, encode k.bucketStart k.cluster k.path = .ok bytes ∧ k.toBytes = .ok bytes ∧
      decode bytes = .ok k ∧ ∀ other : SnapshotKey, other.toBytes = k.toBytes → other = k := by
  have hvalid : Valid ⟨k.bucketStart, k.cluster, k.path⟩ :=
    ⟨hbucket, hnonempty, hwhole, (Utf8.encodable_iff _).2 hcluster, (Utf8.encodable_iff _).2 hpath⟩
  obtain ⟨bytes, hbytes⟩ : ∃ bytes, encode k.bucketStart k.cluster k.path = .ok bytes :=
    ⟨_, (encode_eq_ok_iff ..).2 ⟨hvalid, rfl⟩⟩
  have hback := decode_of_encode hbytes
  refine ⟨bytes, hbytes, hbytes, hback, ?_⟩
  intro other hother
  have hbytes' : encode other.bucketStart other.cluster other.path = .ok bytes :=
    hother.trans hbytes
  exact Except.ok.inj ((decode_of_encode hbytes').symm.trans hback)

/-- The last second's bucket, with a path that starts with a separator and goes on with code points
of two, three and four octets. -/
def slashedKey : SnapshotKey := ⟨maxBucketStart, text "c 1", [0x21, 0x21, 0xE9, 0xFFFF, 0x1F600]⟩

theorem slashedKey_is_read_back :
    ∃ bytes, slashedKey.toBytes = .ok bytes ∧ decode bytes = .ok slashedKey := by
  have hcluster : slashedKey.cluster.all (!·.isSurrogate) := by decide
  have hpath : slashedKey.path.all (!·.isSurrogate) := by decide
  obtain ⟨bytes, -, hbytes, hback, -⟩ := row_key_is_read_back slashedKey (by decide) (by decide)
    (by decide) (by simpa using hcluster) (by simpa using hpath)
  exact ⟨bytes, hbytes, hback⟩

end SnapshotKey

end HourlyUsage
