import HourlyUsage.Proofs.Numeral
import HourlyUsage.Proofs.Snapshot.Key
import HourlyUsage.Proofs.Text.Reading
/-!
# Which row keys can be read

A row key spells a numeral, a cluster and a path, with separators between them: `Spells` is that
grammar, said with the writer of texts and not with the reader. Octets that spell nothing are
malformed. Of those that do, a numeral past the greatest bucket start is malformed too. One kind of
octets is neither read nor malformed: a numeral of more than 4300 digits, which nothing reads as a
number, however many of its digits are zeros in front.

Sources: `decode_key`.

Hypotheses: none on the octets.

Results:
* `decode_of_spells`, `decode_of_not_spells`: what the reader makes of any octets.
* `decode_eq_ok_iff`, `decode_eq_tooLong_iff`, `decode_malformed_iff`: its three answers.
* `key_is_read_iff`: which octets are read, and which are left neither read nor malformed.
* `padded_key_is_not_read`: a numeral for the last bucket of all that is not read.
-/
namespace HourlyUsage

namespace Numeral

/-- The text is a run of ASCII digits, at least one. -/
def IsNumeral (t : Text) : Prop := t ≠ [] ∧ ∀ c ∈ t, 0x30 ≤ c.val ∧ c.val ≤ 0x39

def number (t : Text) : Nat := value (t.map fun c => c.val - 0x30)

theorem asciiDigit?_eq_some_iff {c : CodePoint} {d : Nat} :
    c.asciiDigit? = some d ↔ (0x30 ≤ c.val ∧ c.val ≤ 0x39) ∧ c.val - 0x30 = d := by
  unfold CodePoint.asciiDigit?
  split
  · next h =>
    have hdigit : 0x30 ≤ c.val ∧ c.val ≤ 0x39 := by simpa using h
    rw [Option.some.injEq]
    exact ⟨fun hd => ⟨hdigit, hd⟩, And.right⟩
  · next h =>
    refine ⟨nofun, fun hd => absurd ?_ h⟩
    simpa using hd.1

theorem digits?_eq_some_iff {t : Text} {ds : List Nat} :
    digits? t = some ds ↔
      (∀ c ∈ t, 0x30 ≤ c.val ∧ c.val ≤ 0x39) ∧ (t.map fun c => c.val - 0x30) = ds := by
  induction t generalizing ds with
  | nil => simp [digits?]
  | cons c rest ih =>
    rw [digits?, List.mapM_cons, ← digits?]
    constructor
    · intro h
      obtain ⟨d, hd, hmore⟩ := Option.bind_eq_some_iff.1 h
      obtain ⟨more, hrest, hds⟩ := Option.bind_eq_some_iff.1 hmore
      obtain rfl := Option.some.inj hds
      obtain ⟨hdigit, rfl⟩ := asciiDigit?_eq_some_iff.1 hd
      obtain ⟨hall, rfl⟩ := ih.1 hrest
      exact ⟨List.forall_mem_cons.2 ⟨hdigit, hall⟩, rfl⟩
    · rintro ⟨hall, rfl⟩
      obtain ⟨hdigit, hrest⟩ := List.forall_mem_cons.1 hall
      rw [asciiDigit?_eq_some_iff.2 ⟨hdigit, rfl⟩, ih.2 ⟨hrest, rfl⟩]
      rfl

theorem IsNumeral.digits? {t : Text} (h : IsNumeral t) :
    Numeral.digits? t = some (t.map fun c => c.val - 0x30) := digits?_eq_some_iff.2 ⟨h.2, rfl⟩

theorem IsNumeral.separator_not_mem {t : Text} (h : IsNumeral t) : separator ∉ t := by
  intro hmem
  have hdigit := (h.2 _ hmem).1
  have hseparator : separator.val = 0x21 := rfl
  omega

end Numeral

namespace Text

theorem cut?_eq_some_iff {c : CodePoint} {t front rest : Text} :
    cut? c t = some (front, rest) ↔ c ∉ front ∧ t = front ++ c :: rest := by
  constructor
  · intro h
    induction t generalizing front with
    | nil => cases h
    | cons x t ih =>
      rw [cut?] at h
      split at h
      · next hx =>
        obtain ⟨rfl, rfl⟩ := Prod.mk.inj (Option.some.inj h)
        exact ⟨List.not_mem_nil, by rw [hx]; rfl⟩
      · next hx =>
        obtain ⟨⟨front', rest'⟩, hcut, heq⟩ := Option.map_eq_some_iff.1 h
        obtain ⟨rfl, rfl⟩ := Prod.mk.inj heq
        obtain ⟨hnot, rfl⟩ := ih hcut
        refine ⟨?_, rfl⟩
        rw [List.mem_cons, not_or]
        exact ⟨Ne.symm hx, hnot⟩
  · rintro ⟨hnot, rfl⟩
    exact cut?_append hnot rest

end Text

namespace SnapshotKey

theorem parts_eq_ok_iff {t inverted cluster path : Text} :
    parts t = .ok (inverted, cluster, path) ↔
      separator ∉ inverted ∧ separator ∉ cluster ∧
        t = inverted ++ separator :: (cluster ++ separator :: path) := by
  unfold parts
  constructor
  · intro h
    split at h
    · cases h
    · next first rest hfirst =>
      split at h
      · cases h
      · next hrest =>
        cases h
        obtain ⟨hinverted, rfl⟩ := Text.cut?_eq_some_iff.1 hfirst
        obtain ⟨hcluster, rfl⟩ := Text.cut?_eq_some_iff.1 hrest
        exact ⟨hinverted, hcluster, rfl⟩
  · rintro ⟨hinverted, hcluster, rfl⟩
    rw [Text.cut?_append hinverted]
    dsimp only
    rw [Text.cut?_append hcluster]

/-- The octets are those of a text that starts with a numeral and a cluster, each with a separator
behind it; what is left is the path. -/
structure Spells (data : Bytes) (numeral cluster path : Text) : Prop where
  written : Utf8.encode (numeral ++ separator :: (cluster ++ separator :: path)) = .ok data
  isNumeral : Numeral.IsNumeral numeral
  whole : separator ∉ cluster

variable {data : Bytes}

/-- What the reader makes of octets that spell a row key. -/
theorem decode_of_spells {numeral cluster path : Text} (h : Spells data numeral cluster path) :
    decode data =
      if Numeral.maxDigits < numeral.length then .error (.numeralTooLong numeral.length)
      else if maxBucketStart < Numeral.number numeral then
        .error (.malformed data .bucketOutOfRange)
      else .ok ⟨invert (Numeral.number numeral), cluster, path⟩ := by
  have hparts : parts (numeral ++ separator :: (cluster ++ separator :: path)) =
      .ok (numeral, cluster, path) :=
    parts_eq_ok_iff.2 ⟨h.isNumeral.separator_not_mem, h.whole, rfl⟩
  have hdigits := h.isNumeral.digits?
  have hlength : (numeral.map fun c => c.val - 0x30).length = numeral.length := List.length_map ..
  have hnonempty : (numeral.map fun c => c.val - 0x30) ≠ [] :=
    fun hnil => h.isNumeral.1 (List.map_eq_nil_iff.1 hnil)
  rw [decode, Utf8.decode_encode h.written]
  dsimp only
  rw [hparts]
  dsimp only
  rw [hdigits, Numeral.number, ← hlength]
  cases hds : numeral.map fun c => c.val - 0x30 with
  | nil => exact absurd hds hnonempty
  | cons d rest => rfl

/-- Octets that spell no row key are malformed. -/
theorem decode_of_not_spells (h : ∀ numeral cluster path, ¬ Spells data numeral cluster path) :
    ∃ flaw, decode data = .error (.malformed data flaw) := by
  unfold decode
  split
  · next e _ => exact ⟨.notText e, rfl⟩
  · next t ht =>
    split
    · next count _ => exact ⟨.missingParts count, rfl⟩
    · next inverted cluster path hparts =>
      obtain ⟨-, hwhole, rfl⟩ := parts_eq_ok_iff.1 hparts
      split
      · exact ⟨.bucketNotNumeral, rfl⟩
      · exact ⟨.bucketNotNumeral, rfl⟩
      · next ds hnonempty hds =>
        -- A run of digits in front would make a row key of the octets.
        obtain ⟨hdigits, rfl⟩ := Numeral.digits?_eq_some_iff.1 hds
        refine absurd ⟨Utf8.decode_eq_ok_iff.1 ht, ⟨?_, hdigits⟩, hwhole⟩ (h inverted cluster path)
        rintro rfl
        exact hnonempty rfl

/-- Octets that are not read are malformed, unless they spell a numeral that is too long. -/
theorem decode_cases (data : Bytes) :
    (∃ numeral cluster path, Spells data numeral cluster path ∧
      numeral.length ≤ Numeral.maxDigits ∧ (Numeral.number numeral : Int) ≤ maxBucketStart ∧
      decode data = .ok ⟨invert (Numeral.number numeral), cluster, path⟩) ∨
    (∃ numeral cluster path, Spells data numeral cluster path ∧
      Numeral.maxDigits < numeral.length ∧
      decode data = .error (.numeralTooLong numeral.length)) ∨
    ∃ flaw, decode data = .error (.malformed data flaw) := by
  by_cases h : ∃ numeral cluster path, Spells data numeral cluster path
  · obtain ⟨numeral, cluster, path, hspells⟩ := h
    have hdecode := decode_of_spells hspells
    split at hdecode
    · next hlong => exact .inr (.inl ⟨numeral, cluster, path, hspells, hlong, hdecode⟩)
    · next hshort =>
      split at hdecode
      · exact .inr (.inr ⟨.bucketOutOfRange, hdecode⟩)
      · next hin =>
        exact .inl ⟨numeral, cluster, path, hspells, Nat.not_lt.1 hshort, Int.not_lt.1 hin, hdecode⟩
  · exact .inr (.inr (decode_of_not_spells fun numeral cluster path hspells =>
      h ⟨numeral, cluster, path, hspells⟩))

/-- Octets are read exactly if they spell a numeral in range that is not too long. -/
theorem decode_eq_ok_iff {k : SnapshotKey} :
    decode data = .ok k ↔
      ∃ numeral, Spells data numeral k.cluster k.path ∧ numeral.length ≤ Numeral.maxDigits ∧
        Numeral.number numeral ≤ maxBucketStart ∧
        k.bucketStart = maxBucketStart - Numeral.number numeral := by
  constructor
  · intro hread
    rcases decode_cases data with ⟨numeral, cluster, path, hspells, hshort, hin, hdecode⟩ |
      ⟨_, _, _, _, _, hdecode⟩ | ⟨_, hdecode⟩
    · obtain rfl := Except.ok.inj (hread.symm.trans hdecode)
      exact ⟨numeral, hspells, hshort, hin, rfl⟩
    all_goals cases hread.symm.trans hdecode
  · rintro ⟨numeral, hspells, hshort, hin, hbucket⟩
    rw [decode_of_spells hspells, if_neg (Nat.not_lt.2 hshort), if_neg (Int.not_lt.2 hin), invert,
      ← hbucket]

/-- Octets are refused as too long exactly if they spell a numeral that is. -/
theorem decode_eq_tooLong_iff {n : Nat} :
    decode data = .error (.numeralTooLong n) ↔
      ∃ numeral cluster path, Spells data numeral cluster path ∧ numeral.length = n ∧
        Numeral.maxDigits < n := by
  constructor
  · intro hlong
    rcases decode_cases data with ⟨_, _, _, _, _, _, hdecode⟩ |
      ⟨numeral, cluster, path, hspells, hmore, hdecode⟩ | ⟨_, hdecode⟩
    · cases hlong.symm.trans hdecode
    · cases hlong.symm.trans hdecode
      exact ⟨numeral, cluster, path, hspells, rfl, hmore⟩
    · cases hlong.symm.trans hdecode
  · rintro ⟨numeral, cluster, path, hspells, rfl, hmore⟩
    rw [decode_of_spells hspells, if_pos hmore]

theorem carried_of_malformed {carried : Bytes} {flaw : Flaw}
    (hbad : decode data = .error (.malformed carried flaw)) : carried = data := by
  rcases decode_cases data with ⟨_, _, _, _, _, _, hdecode⟩ | ⟨_, _, _, _, _, hdecode⟩ |
    ⟨_, hdecode⟩
  all_goals cases hbad.symm.trans hdecode
  rfl

/-- Octets are malformed exactly if they spell no row key, or a numeral out of range. -/
theorem decode_malformed_iff :
    (∃ flaw, decode data = .error (.malformed data flaw)) ↔
      ∀ numeral cluster path, Spells data numeral cluster path →
        numeral.length ≤ Numeral.maxDigits ∧ maxBucketStart < Numeral.number numeral := by
  constructor
  · rintro ⟨flaw, hbad⟩ numeral cluster path hspells
    rw [decode_of_spells hspells] at hbad
    split at hbad
    · cases hbad
    · next hshort =>
      split at hbad
      · next hpast => exact ⟨Nat.not_lt.1 hshort, hpast⟩
      · cases hbad
  · intro hnone
    rcases decode_cases data with ⟨numeral, cluster, path, hspells, -, hin, -⟩ |
      ⟨numeral, cluster, path, hspells, hmore, -⟩ | hbad
    · exact absurd (hnone numeral cluster path hspells).2 (Int.not_lt.2 hin)
    · exact absurd (hnone numeral cluster path hspells).1 (Nat.not_le.2 hmore)
    · exact hbad

/-- **Which row keys are read.** Octets are read as a snapshot exactly if they spell its cluster and
its path behind a numeral of at most 4300 digits that stands for its bucket start, counted back from
the greatest one. They are refused as too long exactly if they spell a numeral of more digits. They
are malformed exactly if they spell no row key, or one whose numeral is not too long and past the
greatest bucket start; the error then carries them. -/
theorem key_is_read_iff (data : Bytes) :
    (∀ k, decode data = .ok k ↔
      ∃ numeral, Spells data numeral k.cluster k.path ∧ numeral.length ≤ Numeral.maxDigits ∧
        Numeral.number numeral ≤ maxBucketStart ∧
        k.bucketStart = maxBucketStart - Numeral.number numeral) ∧
    (∀ n, decode data = .error (.numeralTooLong n) ↔
      ∃ numeral cluster path, Spells data numeral cluster path ∧ numeral.length = n ∧
        Numeral.maxDigits < n) ∧
    (∀ carried flaw, decode data = .error (.malformed carried flaw) → carried = data) ∧
    ((∃ flaw, decode data = .error (.malformed data flaw)) ↔
      ∀ numeral cluster path, Spells data numeral cluster path →
        numeral.length ≤ Numeral.maxDigits ∧ maxBucketStart < Numeral.number numeral) :=
  ⟨fun _ => decode_eq_ok_iff, fun _ => decode_eq_tooLong_iff, fun _ _ => carried_of_malformed,
    decode_malformed_iff⟩

/-! ## A numeral that is too long -/

/-- A row key of the last bucket of all, written with some number of zeros. -/
def paddedKey (zeros : Nat) : Bytes := List.replicate zeros 0x30 ++ Utf8.points (text "!c1!/x")

theorem points_zeros (zeros : Nat) :
    Utf8.points (Text.fill zeros 0x30) = List.replicate zeros 0x30 := by
  induction zeros with
  | zero => rfl
  | succ zeros ih =>
    rw [Text.fill, List.replicate_succ, ← Text.fill, Utf8.points_cons, ih]
    rfl

theorem number_zeros (zeros : Nat) : Numeral.number (Text.fill zeros 0x30) = 0 := by
  induction zeros with
  | zero => rfl
  | succ zeros ih => exact ih

theorem spells_paddedKey {zeros : Nat} (hpos : 0 < zeros) :
    Spells (paddedKey zeros) (Text.fill zeros 0x30) (text "c1") (text "/x") where
  written := by
    have hrest : ∀ c ∈ text "!c1!/x", c.isSurrogate = false :=
      (Utf8.encodable_iff _).1 (by decide)
    refine (Utf8.encode_eq_ok_iff ..).2 ⟨?_, ?_⟩
    · intro c hc
      rcases List.mem_append.1 hc with hc | hc
      · rw [List.eq_of_mem_replicate hc]
        rfl
      · exact hrest c hc
    · rw [Utf8.points, List.flatMap_append, ← Utf8.points, points_zeros]
      rfl
  isNumeral := by
    refine ⟨fun hnil => ?_, fun c hc => ?_⟩
    · exact absurd (congrArg List.length hnil) (by simp [Text.fill, Nat.ne_of_gt hpos])
    · rw [List.eq_of_mem_replicate hc]
      decide
  whole := by decide

/-- A row key that spells a numeral in range, a cluster and a path is neither read nor malformed. -/
theorem padded_key_is_not_read :
    Spells (paddedKey 4301) (Text.fill 4301 0x30) (text "c1") (text "/x") ∧
      Numeral.number (Text.fill 4301 0x30) ≤ maxBucketStart ∧
      decode (paddedKey 4301) = .error (.numeralTooLong 4301) := by
  have hspells : Spells (paddedKey 4301) (Text.fill 4301 0x30) (text "c1") (text "/x") :=
    spells_paddedKey (by decide)
  have hlength : (Text.fill 4301 0x30).length = 4301 := List.length_replicate
  refine ⟨hspells, ?_, ?_⟩
  · rw [number_zeros]
    decide
  · rw [decode_of_spells hspells, hlength]
    rfl

end SnapshotKey

end HourlyUsage
