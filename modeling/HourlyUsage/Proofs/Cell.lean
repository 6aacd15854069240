import HourlyUsage.Cell
import HourlyUsage.Proofs.Text.Utf8
/-!
# Cell values are read back

Sources: `encode_int`, `decode_int`, `encode_str`, `decode_str`.

Results:
* `unsigned_bigEndian`: octets spell the number that they were made of, as far as they hold it.
* `decodeInt_encodeInt`, `decodeText_encodeText`: reading gives back what was written.
-/
namespace HourlyUsage.Cell

theorem length_bigEndian (width n : Nat) : (bigEndian width n).length = width := by
  induction width generalizing n with
  | zero => rfl
  | succ width ih => rw [bigEndian, List.length_append, ih]; rfl

theorem unsigned_append (bytes : Bytes) (b : UInt8) :
    unsigned (bytes ++ [b]) = 256 * unsigned bytes + b.toNat := by
  rw [unsigned, List.foldl_append]; rfl

theorem unsigned_bigEndian {width n : Nat} (h : n < 256 ^ width) :
    unsigned (bigEndian width n) = n := by
  induction width generalizing n with
  | zero =>
    have hzero : n = 0 := by simpa using h
    rw [hzero]; rfl
  | succ width ih =>
    have hrest : n / 256 < 256 ^ width := by
      rw [Nat.pow_succ] at h
      omega
    have hlast : (UInt8.ofNat (n % 256)).toNat = n % 256 := by rw [UInt8.toNat_ofNat']; omega
    rw [bigEndian, unsigned_append, ih hrest, hlast]
    omega

theorem unsigned_lt (bytes : Bytes) : unsigned bytes < 256 ^ bytes.length := by
  rw [← bytes.reverse_reverse]
  induction bytes.reverse with
  | nil => decide
  | cons b rest ih =>
    have hb := b.toNat_lt
    rw [List.reverse_cons, unsigned_append, List.length_append, List.length_singleton, Nat.pow_succ]
    omega

theorem unsigned_cons (top : UInt8) (rest : Bytes) :
    unsigned (top :: rest) = top.toNat * 256 ^ rest.length + unsigned rest := by
  rw [← rest.reverse_reverse]
  induction rest.reverse with
  | nil => simp [unsigned]
  | cons b rest ih =>
    rw [List.reverse_cons, ← List.cons_append, unsigned_append, unsigned_append, ih,
      List.length_append, List.length_singleton, Nat.pow_succ, Nat.mul_add, Nat.mul_left_comm,
      Nat.mul_comm 256 (256 ^ _), Nat.add_assoc]

theorem top_lt_iff (top : UInt8) (rest : Bytes) :
    top < 0x80 ↔ unsigned (top :: rest) < 128 * 256 ^ rest.length := by
  have hrest := unsigned_lt rest
  rw [unsigned_cons, UInt8.lt_iff_toNat_lt]
  generalize 256 ^ rest.length = m at hrest ⊢
  have htop : (0x80 : UInt8).toNat = 128 := rfl
  rw [htop]
  constructor
  · intro h
    calc top.toNat * m + unsigned rest < top.toNat * m + m := by omega
      _ = (top.toNat + 1) * m := by rw [Nat.add_mul, Nat.one_mul]
      _ ≤ 128 * m := Nat.mul_le_mul_right m h
  · intro h
    apply Nat.lt_of_not_le
    intro hle
    have := Nat.mul_le_mul_right m hle
    omega

/-- A number that fits into eight octets is read back from them. -/
theorem decodeInt_encodeInt {v : Int} {bytes : Bytes} (h : encodeInt v = some bytes) :
    decodeInt bytes = v := by
  unfold encodeInt at h
  split at h
  · next hrange =>
    obtain rfl := Option.some.inj h
    have hbound : intBound = 9223372036854775808 := rfl
    rw [hbound] at hrange ⊢
    have hpow : 256 ^ intWidth = 18446744073709551616 := rfl
    have hlt : (v % (2 * 9223372036854775808)).toNat < 256 ^ intWidth := by rw [hpow]; omega
    have hvalue := unsigned_bigEndian hlt
    have hlength := length_bigEndian intWidth (v % (2 * 9223372036854775808)).toNat
    generalize bigEndian intWidth (v % (2 * 9223372036854775808)).toNat = bytes at hvalue hlength ⊢
    unfold decodeInt
    cases bytes with
    | nil => cases hlength
    | cons top rest =>
      have hrest : rest.length = 7 := Nat.succ.inj hlength
      have htop := top_lt_iff top rest
      rw [hvalue, hrest] at htop
      dsimp only
      rw [hvalue, hlength]
      split
      · next h => have := htop.1 h; omega
      · next h =>
        have hge := mt htop.2 h
        have hwhole : ((Nat.pow 256 intWidth : Nat) : Int) = 18446744073709551616 := rfl
        rw [hwhole]
        omega
  · cases h

theorem decodeText_encodeText {t : Text} {bytes : Bytes} (h : encodeText t = .ok bytes) :
    decodeText bytes = .ok t := Utf8.decode_encode h

end HourlyUsage.Cell
