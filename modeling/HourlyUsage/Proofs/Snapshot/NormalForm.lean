import HourlyUsage.Proofs.Snapshot.Grammar
/-!
# Row keys in normal form

The reader takes numerals of any width, the writer gives nineteen digits. So writing a snapshot that
was read changes the width of the numeral and nothing else, and what two row keys with one snapshot
can differ in is zeros in front.

Sources: `decode_key`, `encode_key`.

Hypotheses: the octets are read as a snapshot.

Results:
* `fixed_number`: a numeral is the digits of its number.
* `number_eq_iff`: numerals stand for one number if they differ in zeros in front.
* `toBytes_of_spells`: what is written for a snapshot that was read.
* `key_is_normalised`: the same in octets, and which row keys are read as one snapshot.
-/
namespace HourlyUsage

/-! ## Numerals and their numbers -/

namespace Numeral

theorem number_concat (t : Text) (c : CodePoint) :
    number (t ++ [c]) = 10 * number t + (c.val - 0x30) := by
  rw [number, List.map_append, value, List.foldl_append]
  rfl

theorem isNumeral_fixed {width : Nat} (hpos : 0 < width) (n : Nat) : IsNumeral (fixed width n) :=
  ⟨List.ne_nil_of_length_pos ((length_fixed width n).symm ▸ hpos), fun _ hc => mem_fixed hc⟩

/-- A number that is written with enough digits is the number of its numeral. -/
theorem number_fixed {width n : Nat} (hlt : n < 10 ^ width) : number (fixed width n) = n := by
  rw [number, (digits?_eq_some_iff.1 (digits?_fixed width n)).2, value_fixed hlt]

/-- A text of digits is the digits of its number. -/
theorem fixed_number {t : Text} (h : ∀ c ∈ t, 0x30 ≤ c.val ∧ c.val ≤ 0x39) :
    fixed t.length (number t) = t := by
  -- The last digit is the one that is split off, so the induction is on the reversed text.
  obtain ⟨s, rfl⟩ : ∃ s : Text, t = s.reverse := ⟨t.reverse, t.reverse_reverse.symm⟩
  induction s with
  | nil => rfl
  | cons c front ih =>
    rw [List.reverse_cons, List.forall_mem_append] at h
    obtain ⟨hfront, hlast⟩ := h
    have hc := hlast c (List.mem_singleton_self c)
    have hdiv : (10 * number front.reverse + (c.val - 0x30)) / 10 = number front.reverse := by omega
    have hdigit : CodePoint.ofDigit (10 * number front.reverse + (c.val - 0x30)) = c := by
      apply Fin.ext
      rw [ofDigit_val]
      omega
    rw [List.reverse_cons, number_concat, List.length_append, List.length_singleton, fixed, hdiv,
      hdigit, ih hfront]

theorem number_fill (zeros : Nat) (t : Text) : number (Text.fill zeros 0x30 ++ t) = number t := by
  induction zeros with
  | zero => rfl
  | succ zeros ih => exact ih

theorem IsNumeral.fill {t : Text} (h : IsNumeral t) (zeros : Nat) :
    IsNumeral (Text.fill zeros 0x30 ++ t) := by
  refine ⟨List.append_ne_nil_of_right_ne_nil _ h.1, fun c hc => ?_⟩
  rcases List.mem_append.1 hc with hc | hc
  · rw [List.eq_of_mem_replicate hc]
    decide
  · exact h.2 c hc

/-- Numerals stand for one number exactly if the longer one is the shorter one with zeros in
front. -/
theorem number_eq_iff {t u : Text} (ht : IsNumeral t) (hu : IsNumeral u)
    (hle : t.length ≤ u.length) :
    number t = number u ↔ u = Text.fill (u.length - t.length) 0x30 ++ t := by
  constructor
  · intro hnumber
    have hwide := fixed_number (ht.fill (u.length - t.length)).2
    have hlength : (Text.fill (u.length - t.length) 0x30 ++ t).length = u.length := by
      rw [List.length_append, Text.fill, List.length_replicate, Nat.sub_add_cancel hle]
    rw [hlength, number_fill, hnumber, fixed_number hu.2] at hwide
    exact hwide
  · intro hpadded
    rw [hpadded, number_fill]

end Numeral

/-! ## Row keys -/

namespace SnapshotKey

variable {data data' : Bytes} {k k' : SnapshotKey} {numeral cluster path : Text}

theorem Spells.octets (h : Spells data numeral cluster path) :
    data = Utf8.points numeral ++ 0x21 :: Utf8.points (cluster ++ separator :: path) := by
  rw [((Utf8.encode_eq_ok_iff ..).1 h.written).2, Utf8.points, List.flatMap_append]
  rfl

theorem Spells.encodable (h : Spells data numeral cluster path) :
    Utf8.Encodable cluster ∧ Utf8.Encodable path := by
  have hall := (Utf8.encodable_iff _).1 ⟨data, h.written⟩
  refine ⟨(Utf8.encodable_iff _).2 fun c hc => hall c ?_, (Utf8.encodable_iff _).2 fun c hc =>
    hall c ?_⟩ <;> simp [hc]

/-- What is written for a snapshot that was read: the same cluster and path behind the same number,
in nineteen digits. -/
theorem toBytes_of_spells (h : Spells data numeral k.cluster k.path)
    (hin : (Numeral.number numeral : Int) ≤ maxBucketStart)
    (hbucket : k.bucketStart = maxBucketStart - Numeral.number numeral)
    (hcluster : k.cluster ≠ []) :
    k.toBytes = .ok (Utf8.points (Numeral.fixed invertedWidth (Numeral.number numeral)) ++
      0x21 :: Utf8.points (k.cluster ++ separator :: k.path)) := by
  have hinvert : (invert k.bucketStart).toNat = Numeral.number numeral := by
    rw [invert, hbucket]
    omega
  refine (encode_eq_ok_iff ..).2 ⟨⟨?_, hcluster, h.whole, h.encodable.1, h.encodable.2⟩, ?_⟩
  · dsimp only
    omega
  · rw [keyText_eq, hinvert, Utf8.points, List.flatMap_append]
    rfl

theorem toBytes_eq_self_iff (h : Spells data numeral k.cluster k.path)
    (hin : (Numeral.number numeral : Int) ≤ maxBucketStart)
    (hbucket : k.bucketStart = maxBucketStart - Numeral.number numeral)
    (hcluster : k.cluster ≠ []) :
    k.toBytes = .ok data ↔ numeral.length = invertedWidth := by
  rw [toBytes_of_spells h hin hbucket hcluster, h.octets, Except.ok.injEq,
    List.append_cancel_right_eq, Utf8.points_inj]
  constructor
  · intro hsame
    rw [← hsame, Numeral.length_fixed]
  · intro hwidth
    rw [← hwidth, Numeral.fixed_number h.isNumeral.2]

theorem Spells.padded (h : Spells data numeral cluster path) (zeros : Nat) :
    Spells (List.replicate zeros 0x30 ++ data) (Text.fill zeros 0x30 ++ numeral) cluster path where
  written := by
    obtain ⟨hsurrogates, hdata⟩ := (Utf8.encode_eq_ok_iff ..).1 h.written
    refine (Utf8.encode_eq_ok_iff ..).2 ⟨fun c hc => ?_, ?_⟩
    · rw [List.append_assoc] at hc
      rcases List.mem_append.1 hc with hc | hc
      · rw [List.eq_of_mem_replicate hc]
        rfl
      · exact hsurrogates c hc
    · rw [List.append_assoc, Utf8.points, List.flatMap_append, ← Utf8.points, ← Utf8.points,
        points_zeros, hdata]
  isNumeral := h.isNumeral.fill zeros
  whole := h.whole

theorem eq_of_padded (hread : decode data = .ok k) {zeros : Nat}
    (hread' : decode (List.replicate zeros 0x30 ++ data) = .ok k') : k' = k := by
  obtain ⟨numeral, hspells, -, hin, hbucket⟩ := decode_eq_ok_iff.1 hread
  rw [decode_of_spells (hspells.padded zeros), Numeral.number_fill] at hread'
  split at hread'
  · cases hread'
  · rw [if_neg (Int.not_lt.2 hin)] at hread'
    rw [← Except.ok.inj hread', invert, ← hbucket]

/-- Of two row keys of one snapshot the one with the longer numeral is the other one with zeros in
front. -/
theorem padded_of_spells {numeral' : Text} (h : Spells data numeral cluster path)
    (h' : Spells data' numeral' cluster path)
    (hnumber : Numeral.number numeral = Numeral.number numeral')
    (hle : numeral.length ≤ numeral'.length) :
    data' = List.replicate (numeral'.length - numeral.length) 0x30 ++ data := by
  have hpadded := h.padded (numeral'.length - numeral.length)
  rw [← (Numeral.number_eq_iff h.isNumeral h'.isNumeral hle).1 hnumber] at hpadded
  rw [hpadded.octets, h'.octets]

/-- Two row keys are read as one snapshot exactly if one is the other with zeros in front. -/
theorem eq_iff_padded (hread : decode data = .ok k) (hread' : decode data' = .ok k') :
    k' = k ↔ ∃ zeros, data' = List.replicate zeros 0x30 ++ data ∨
      data = List.replicate zeros 0x30 ++ data' := by
  constructor
  · rintro rfl
    obtain ⟨numeral, hspells, -, -, hbucket⟩ := decode_eq_ok_iff.1 hread
    obtain ⟨numeral', hspells', -, -, hbucket'⟩ := decode_eq_ok_iff.1 hread'
    have hnumber : Numeral.number numeral = Numeral.number numeral' := by omega
    rcases Nat.le_total numeral.length numeral'.length with hle | hle
    · exact ⟨_, .inl (padded_of_spells hspells hspells' hnumber hle)⟩
    · exact ⟨_, .inr (padded_of_spells hspells' hspells hnumber.symm hle)⟩
  · rintro ⟨zeros, rfl | rfl⟩
    · exact eq_of_padded hread hread'
    · exact (eq_of_padded hread' hread).symm

/-- **Row keys are normalised.** A snapshot that was read has a bucket start in range and a cluster
without separators. With an empty cluster it has no row key. Otherwise its row key is what was read
with the numeral in front written in nineteen digits, and equals what was read exactly if that
numeral had nineteen digits. Two row keys that can be read are of one snapshot exactly if they
differ at most in zeros in front. -/
theorem key_is_normalised (hread : decode data = .ok k) :
    (0 ≤ k.bucketStart ∧ k.bucketStart ≤ maxBucketStart ∧ separator ∉ k.cluster) ∧
    (k.cluster = [] → k.toBytes = .error .emptyCluster) ∧
    (k.cluster ≠ [] → ∃ numeral wide rest,
      Numeral.IsNumeral numeral ∧ data = Utf8.points numeral ++ 0x21 :: rest ∧
      Numeral.IsNumeral wide ∧ wide.length = 19 ∧ Numeral.number wide = Numeral.number numeral ∧
      k.toBytes = .ok (Utf8.points wide ++ 0x21 :: rest) ∧
      (k.toBytes = .ok data ↔ numeral.length = 19)) ∧
    ∀ data' k', decode data' = .ok k' →
      (k' = k ↔ ∃ zeros, data' = List.replicate zeros 0x30 ++ data ∨
        data = List.replicate zeros 0x30 ++ data') := by
  obtain ⟨numeral, hspells, -, hin, hbucket⟩ := decode_eq_ok_iff.1 hread
  refine ⟨⟨by omega, by omega, hspells.whole⟩, fun hempty => ?_, fun hcluster => ?_,
    fun data' k' hread' => eq_iff_padded hread hread'⟩
  · rw [toBytes, encode, hempty]
    rfl
  · have hlt : Numeral.number numeral < 10 ^ invertedWidth := by
      have hmax : maxBucketStart < (10 ^ invertedWidth : Nat) := by decide
      omega
    exact ⟨numeral, Numeral.fixed invertedWidth (Numeral.number numeral), _, hspells.isNumeral,
      hspells.octets, Numeral.isNumeral_fixed (by decide) _, Numeral.length_fixed _ _,
      Numeral.number_fixed hlt, toBytes_of_spells hspells hin hbucket hcluster,
      toBytes_eq_self_iff hspells hin hbucket hcluster⟩

/-- A row key whose numeral has one digit and whose path holds a separator. -/
def shortKey : Bytes := Utf8.points (text "7!c1!/a!b")

def shortSnapshot : SnapshotKey := ⟨maxBucketStart - 7, text "c1", text "/a!b"⟩

theorem short_key_is_normalised :
    decode shortKey = .ok shortSnapshot ∧
    (∃ wide rest, wide.length = 19 ∧
      shortSnapshot.toBytes = .ok (Utf8.points wide ++ 0x21 :: rest)) ∧
    ∃ k, decode (List.replicate 2 0x30 ++ shortKey) = .ok k ∧ k = shortSnapshot := by
  have hread : decode shortKey = .ok shortSnapshot := by rfl
  have hpadded : decode (List.replicate 2 0x30 ++ shortKey) = .ok shortSnapshot := by rfl
  obtain ⟨-, -, hwritten, hsame⟩ := key_is_normalised hread
  obtain ⟨_, wide, rest, -, -, -, hlength, -, hbytes, -⟩ := hwritten (by decide)
  exact ⟨hread, ⟨wide, rest, hlength, hbytes⟩, _, hpadded, (hsame _ _ hpadded).2 ⟨2, .inl rfl⟩⟩

end SnapshotKey

end HourlyUsage
