import HourlyUsage.Proofs.Text.Reading
/-!
# Which octets are UTF-8

The octets of one code point follow a bit pattern: the first octet tells how many there are, and each
octet behind it adds six bits. `Carries` is that pattern alone, which also fits overlong forms,
surrogates and numbers that are no code points. `IsSequence` rules these out, and `WellFormed` octets
are such sequences one behind the other.

Sources: the reading of octets as text in `decode_key` and `decode_str`.

Results:
* `isSequence_iff`: the sequences are what is written for the code points that are no surrogates.
* `exists_decode_iff`: the reader reads exactly the well-formed octets.
-/
namespace HourlyUsage.Utf8

/-- The octet has the bits `10xxxxxx`. -/
def IsTail (b : UInt8) : Prop := 0x80 ≤ b.toNat ∧ b.toNat < 0xC0

/-- The octets have the bit pattern of one code point, with the bits of a number in it. -/
inductive Carries : Bytes → Nat → Prop where
  /-- `0xxxxxxx` -/
  | one {a : UInt8} (lead : a.toNat < 0x80) : Carries [a] a.toNat
  /-- `110xxxxx` and one octet more. -/
  | two {a b : UInt8} (lead : 0xC0 ≤ a.toNat ∧ a.toNat < 0xE0) (second : IsTail b) :
      Carries [a, b] (a.toNat % 32 * 64 + b.toNat % 64)
  /-- `1110xxxx` and two octets more. -/
  | three {a b c : UInt8} (lead : 0xE0 ≤ a.toNat ∧ a.toNat < 0xF0) (second : IsTail b)
      (third : IsTail c) :
      Carries [a, b, c] ((a.toNat % 16 * 64 + b.toNat % 64) * 64 + c.toNat % 64)
  /-- `11110xxx` and three octets more. -/
  | four {a b c d : UInt8} (lead : 0xF0 ≤ a.toNat ∧ a.toNat < 0xF8) (second : IsTail b)
      (third : IsTail c) (fourth : IsTail d) :
      Carries [a, b, c, d]
        (((a.toNat % 8 * 64 + b.toNat % 64) * 64 + c.toNat % 64) * 64 + d.toNat % 64)

def leastOfLength : Nat → Nat
  | 2 => 0x80
  | 3 => 0x800
  | 4 => 0x10000
  | _ => 0

/-- The octets are one code point: no overlong form, no surrogate and no number past the last code
point. -/
def IsSequence (group : Bytes) : Prop :=
  ∃ n, Carries group n ∧ leastOfLength group.length ≤ n ∧ ¬ (0xD800 ≤ n ∧ n ≤ 0xDFFF) ∧
    n ≤ 0x10FFFF

/-- The octets are code points one behind the other. -/
inductive WellFormed : Bytes → Prop where
  | nil : WellFormed []
  | cons {group rest : Bytes} (isSequence : IsSequence group) (wellFormed : WellFormed rest) :
      WellFormed (group ++ rest)

/-! ## One code point -/

theorem isTail_tail (n : Nat) : IsTail (tail n) := by
  rw [IsTail, tail_toNat]
  omega

theorem tail_mod (n : Nat) : (tail n).toNat % 64 = n % 64 := by
  rw [tail_toNat]
  omega

/-- What is written for a code point carries its number, and no shorter octets would do. -/
theorem carries_encodePoint (c : CodePoint) :
    Carries (encodePoint c) c.val ∧ leastOfLength (encodePoint c).length ≤ c.val := by
  have hc := c.isLt
  unfold encodePoint
  dsimp only
  generalize c.val = n at *
  split
  · next hone =>
    have hlead : (UInt8.ofNat n).toNat = n := by rw [UInt8.toNat_ofNat']; omega
    have hcarries := Carries.one (a := UInt8.ofNat n) (by omega)
    rw [hlead] at hcarries
    exact ⟨hcarries, Nat.zero_le n⟩
  · split
    · next hleast htwo =>
      have hlead : (UInt8.ofNat (0xC0 + n / 64)).toNat = 0xC0 + n / 64 := by
        rw [UInt8.toNat_ofNat']; omega
      have hcarries := Carries.two (a := UInt8.ofNat (0xC0 + n / 64)) (by omega) (isTail_tail n)
      rw [hlead, tail_mod, show (0xC0 + n / 64) % 32 * 64 + n % 64 = n by omega] at hcarries
      exact ⟨hcarries, Nat.not_lt.1 hleast⟩
    · split
      · next hleast hthree =>
        have hlead : (UInt8.ofNat (0xE0 + n / 4096)).toNat = 0xE0 + n / 4096 := by
          rw [UInt8.toNat_ofNat']; omega
        have hcarries := Carries.three (a := UInt8.ofNat (0xE0 + n / 4096)) (by omega)
          (isTail_tail (n / 64)) (isTail_tail n)
        rw [hlead, tail_mod, tail_mod,
          show ((0xE0 + n / 4096) % 16 * 64 + n / 64 % 64) * 64 + n % 64 = n by omega] at hcarries
        exact ⟨hcarries, Nat.not_lt.1 hleast⟩
      · next hleast =>
        have hlead : (UInt8.ofNat (0xF0 + n / 262144)).toNat = 0xF0 + n / 262144 := by
          rw [UInt8.toNat_ofNat']; omega
        have hcarries := Carries.four (a := UInt8.ofNat (0xF0 + n / 262144)) (by omega)
          (isTail_tail (n / 4096)) (isTail_tail (n / 64)) (isTail_tail n)
        rw [hlead, tail_mod, tail_mod, tail_mod,
          show (((0xF0 + n / 262144) % 8 * 64 + n / 4096 % 64) * 64 + n / 64 % 64) * 64 + n % 64 = n
            by omega] at hcarries
        exact ⟨hcarries, Nat.not_lt.1 hleast⟩

theorem ofNat_eq {n : Nat} {b : UInt8} (h : n = b.toNat) : UInt8.ofNat n = b :=
  h ▸ UInt8.ofNat_toNat

theorem tail_eq {n : Nat} {b : UInt8} (hb : IsTail b) (h : n % 64 = b.toNat % 64) : tail n = b := by
  obtain ⟨hleast, hbelow⟩ := hb
  exact ofNat_eq (by omega)

/-- Octets that carry a number, and are not too many for it, are what is written for it. -/
theorem encodePoint_of_carries {group : Bytes} {n : Nat} (h : Carries group n)
    (hleast : leastOfLength group.length ≤ n) {x : CodePoint} (hx : x.val = n) :
    encodePoint x = group := by
  cases h with
  | one hlead => rw [encodePoint, hx, if_pos hlead, UInt8.ofNat_toNat]
  | @two a b hlead hb =>
    have hmany : 0x80 ≤ a.toNat % 32 * 64 + b.toNat % 64 := hleast
    rw [encodePoint, hx, if_neg (by omega), if_pos (by omega), ofNat_eq (b := a) (by omega),
      tail_eq hb (by omega)]
  | @three a b c hlead hb hc =>
    have hmany : 0x800 ≤ (a.toNat % 16 * 64 + b.toNat % 64) * 64 + c.toNat % 64 := hleast
    rw [encodePoint, hx, if_neg (by omega), if_neg (by omega), if_pos (by omega),
      ofNat_eq (b := a) (by omega), tail_eq hb (by omega), tail_eq hc (by omega)]
  | @four a b c d hlead hb hc hd =>
    have hmany : 0x10000 ≤
        ((a.toNat % 8 * 64 + b.toNat % 64) * 64 + c.toNat % 64) * 64 + d.toNat % 64 := hleast
    rw [encodePoint, hx, if_neg (by omega), if_neg (by omega), if_neg (by omega),
      ofNat_eq (b := a) (by omega), tail_eq hb (by omega), tail_eq hc (by omega),
      tail_eq hd (by omega)]

/-- The sequences are what is written for the code points that are no surrogates. -/
theorem isSequence_iff {group : Bytes} :
    IsSequence group ↔ ∃ c : CodePoint, c.isSurrogate = false ∧ encodePoint c = group := by
  have hsurrogate : ∀ c : CodePoint,
      c.isSurrogate = false ↔ ¬ (0xD800 ≤ c.val ∧ c.val ≤ 0xDFFF) := by
    simp [CodePoint.isSurrogate]
  constructor
  · rintro ⟨n, hcarries, hleast, hsur, hgreatest⟩
    let c : CodePoint := ⟨n, Nat.lt_succ_of_le hgreatest⟩
    exact ⟨c, (hsurrogate c).2 hsur, encodePoint_of_carries hcarries hleast rfl⟩
  · rintro ⟨c, hsur, rfl⟩
    obtain ⟨hcarries, hleast⟩ := carries_encodePoint c
    exact ⟨c.val, hcarries, hleast, (hsurrogate c).1 hsur, Nat.le_of_lt_succ c.isLt⟩

/-! ## A whole text -/

theorem wellFormed_iff {bytes : Bytes} :
    WellFormed bytes ↔ ∃ t : Text, (∀ c ∈ t, c.isSurrogate = false) ∧ points t = bytes := by
  constructor
  · intro h
    induction h with
    | nil => exact ⟨[], by simp, rfl⟩
    | cons hgroup _ ih =>
      obtain ⟨c, hc, rfl⟩ := isSequence_iff.1 hgroup
      obtain ⟨t, ht, rfl⟩ := ih
      exact ⟨c :: t, List.forall_mem_cons.2 ⟨hc, ht⟩, rfl⟩
  · rintro ⟨t, ht, rfl⟩
    induction t with
    | nil => exact .nil
    | cons c t ih =>
      obtain ⟨hc, hrest⟩ := List.forall_mem_cons.1 ht
      exact .cons (isSequence_iff.2 ⟨c, hc, rfl⟩) (ih hrest)

/-- The reader reads exactly the well-formed octets. -/
theorem exists_decode_iff {bytes : Bytes} : (∃ t, decode bytes = .ok t) ↔ WellFormed bytes := by
  rw [wellFormed_iff]
  refine exists_congr fun t => ?_
  rw [decode_eq_ok_iff, encode_eq_ok_iff, eq_comm (a := bytes)]

end HourlyUsage.Utf8
