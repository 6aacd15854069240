import Mathlib.Data.Nat.Digits.Defs
import HourlyUsage.Proofs.Cell
import HourlyUsage.Proofs.Text.WellFormed
/-!
# Cell values and their octets

Eight octets are one number and one number in range is eight octets; octets of any other width are
numbers too. Octets that are UTF-8 are one text, and a text without surrogates is such octets.

Sources: `encode_int`, `decode_int`, `encode_str`, `decode_str`.

Hypotheses: none. `signOctet` and `Utf8.WellFormed` are said without the readers.

Results:
* `decodeInt_eq_toInt`: octets of any width are read in two's complement.
* `decodeInt_signOctet`: octets of the sign in front change nothing.
* `encodeInt_decodeInt`: eight octets are written back.
* `codecs_are_inverse`: both codecs, on all numbers, texts and octets.
-/
namespace HourlyUsage.Cell

/-! ## Numbers of any width -/

/-- The digits to the base 256 are the octets, the least significant one last. -/
theorem unsigned_eq_ofDigits (bytes : Bytes) :
    unsigned bytes = Nat.ofDigits 256 (bytes.map UInt8.toNat).reverse := by
  induction bytes with
  | nil => rfl
  | cons top rest ih =>
    rw [unsigned_cons, ih, List.map_cons, List.reverse_cons, Nat.ofDigits_append,
      List.length_reverse, List.length_map, Nat.ofDigits_singleton, Nat.mul_comm, Nat.add_comm]

theorem bigEndian_unsigned (bytes : Bytes) : bigEndian bytes.length (unsigned bytes) = bytes := by
  rw [← bytes.reverse_reverse]
  induction bytes.reverse with
  | nil => rfl
  | cons b rest ih =>
    have hb := b.toNat_lt
    rw [List.reverse_cons, unsigned_append, List.length_append, List.length_singleton, bigEndian,
      show (256 * unsigned rest.reverse + b.toNat) / 256 = unsigned rest.reverse by omega,
      show (256 * unsigned rest.reverse + b.toNat) % 256 = b.toNat by omega, ih,
      UInt8.ofNat_toNat]

theorem two_pow_eight_mul (n : Nat) : 2 ^ (8 * n) = 256 ^ n := Nat.pow_mul 2 8 n

/-- Octets of any width are read in two's complement. -/
theorem decodeInt_eq_toInt (bytes : Bytes) :
    decodeInt bytes = (BitVec.ofNat (8 * bytes.length) (unsigned bytes)).toInt := by
  rw [BitVec.toInt_eq_toNat_cond, BitVec.toNat_ofNat, two_pow_eight_mul,
    Nat.mod_eq_of_lt (unsigned_lt bytes)]
  cases bytes with
  | nil => rfl
  | cons top rest =>
    have hsign : top < 0x80 ↔ 2 * unsigned (top :: rest) < 256 ^ (top :: rest).length := by
      rw [top_lt_iff top rest, List.length_cons, Nat.pow_succ]
      omega
    exact if_congr hsign rfl rfl

/-- The octet that repeats the sign of the octets behind it. -/
def signOctet : Bytes → UInt8
  | [] => 0x00
  | top :: _ => if top < 0x80 then 0x00 else 0xFF

/-- Octets of the sign in front change nothing. -/
theorem decodeInt_signOctet (bytes : Bytes) :
    decodeInt (signOctet bytes :: bytes) = decodeInt bytes := by
  cases bytes with
  | nil => rfl
  | cons top rest =>
    have hvalue := unsigned_cons (signOctet (top :: rest)) (top :: rest)
    rw [signOctet] at hvalue ⊢
    by_cases htop : top < 0x80
    · rw [if_pos htop] at hvalue ⊢
      rw [decodeInt, decodeInt, if_pos htop, if_pos (by decide), hvalue]
      simp
    · rw [if_neg htop] at hvalue ⊢
      have hlead : (0xFF : UInt8).toNat = 255 := rfl
      rw [hlead] at hvalue
      rw [decodeInt, decodeInt, if_neg htop, if_neg (by decide), hvalue, Nat.pow_eq, Nat.pow_eq,
        List.length_cons (a := 0xFF), Nat.pow_succ]
      omega

example : decodeInt [0x80] = -128 ∧ decodeInt [0xFF, 0x80] = -128 := by decide

/-! ## Eight octets -/

theorem exists_encodeInt_iff {v : Int} :
    (∃ bytes, encodeInt v = some bytes) ↔ -2 ^ 63 ≤ v ∧ v < 2 ^ 63 := by
  have hbound : intBound = 2 ^ 63 := rfl
  rw [encodeInt, hbound]
  split
  · next hrange => exact ⟨fun _ => hrange, fun _ => ⟨_, rfl⟩⟩
  · next hrange => exact ⟨fun ⟨_, hnone⟩ => (nomatch hnone), fun h => absurd h hrange⟩

theorem length_of_encodeInt {v : Int} {bytes : Bytes} (h : encodeInt v = some bytes) :
    bytes.length = 8 := by
  unfold encodeInt at h
  split at h
  · rw [← Option.some.inj h, length_bigEndian]
    rfl
  · cases h

theorem decodeInt_range (bytes : Bytes) :
    -2 ^ (8 * bytes.length - 1) ≤ decodeInt bytes ∧
      decodeInt bytes < 2 ^ (8 * bytes.length - 1) := by
  rw [decodeInt_eq_toInt]
  exact ⟨BitVec.le_toInt _, BitVec.toInt_lt⟩

/-- What is read from octets is, in as many octets, the number that they spell. -/
theorem toNat_decodeInt (bytes : Bytes) :
    (decodeInt bytes % (2 ^ (8 * bytes.length) : Nat)).toNat = unsigned bytes := by
  rw [decodeInt_eq_toInt, ← BitVec.toNat_ofInt, BitVec.ofInt_toInt, BitVec.toNat_ofNat,
    two_pow_eight_mul, Nat.mod_eq_of_lt (unsigned_lt bytes)]

/-- Eight octets are written back. -/
theorem encodeInt_decodeInt {bytes : Bytes} (h : bytes.length = 8) :
    encodeInt (decodeInt bytes) = some bytes := by
  have hrange := decodeInt_range bytes
  have hvalue := toNat_decodeInt bytes
  rw [h] at hrange hvalue
  have hbound : intBound = 2 ^ 63 := rfl
  have hwidth : intWidth = bytes.length := h.symm
  have hwhole : 2 * intBound = (2 ^ (8 * 8) : Nat) := rfl
  rw [encodeInt, hwhole, hvalue, hwidth, bigEndian_unsigned, hbound, if_pos hrange]

/-! ## Both codecs -/

/-- **The codecs are inverse to each other.** A number is written exactly if it lies in the range of
eight octets, then as eight octets that are read back; and any eight octets are written back.
Octets of any width are read in two's complement, as zero if there are none, within the range of
their width, and the same with an octet of the sign in front. A text is written exactly if it holds
no surrogate, and then read back; octets are read as a text exactly if they are well-formed, and
then written back. -/
theorem codecs_are_inverse :
    (∀ v : Int, ((∃ bytes, encodeInt v = some bytes) ↔ -2 ^ 63 ≤ v ∧ v < 2 ^ 63) ∧
      ∀ bytes, encodeInt v = some bytes → bytes.length = 8 ∧ decodeInt bytes = v) ∧
    (∀ bytes : Bytes, bytes.length = 8 → encodeInt (decodeInt bytes) = some bytes) ∧
    (∀ bytes : Bytes,
      decodeInt bytes = (BitVec.ofNat (8 * bytes.length)
        (Nat.ofDigits 256 (bytes.map UInt8.toNat).reverse)).toInt ∧
      (bytes = [] → decodeInt bytes = 0) ∧
      (bytes ≠ [] → -2 ^ (8 * bytes.length - 1) ≤ decodeInt bytes ∧
        decodeInt bytes < 2 ^ (8 * bytes.length - 1)) ∧
      decodeInt (signOctet bytes :: bytes) = decodeInt bytes) ∧
    (∀ t : Text, ((∃ bytes, encodeText t = .ok bytes) ↔ ∀ c ∈ t, c.isSurrogate = false) ∧
      ∀ bytes, encodeText t = .ok bytes → decodeText bytes = .ok t) ∧
    ∀ bytes : Bytes, ((∃ t, decodeText bytes = .ok t) ↔ Utf8.WellFormed bytes) ∧
      ∀ t, decodeText bytes = .ok t → encodeText t = .ok bytes := by
  refine ⟨fun v => ⟨exists_encodeInt_iff, fun bytes h => ?_⟩, fun _ => encodeInt_decodeInt,
    fun bytes => ⟨?_, ?_, fun _ => decodeInt_range bytes, decodeInt_signOctet bytes⟩,
    fun t => ⟨Utf8.encodable_iff t, fun _ => decodeText_encodeText⟩,
    fun bytes => ⟨Utf8.exists_decode_iff, fun _ => Utf8.decode_eq_ok_iff.1⟩⟩
  · exact ⟨length_of_encodeInt h, decodeInt_encodeInt h⟩
  · rw [← unsigned_eq_ofDigits]
    exact decodeInt_eq_toInt bytes
  · rintro rfl
    rfl

end HourlyUsage.Cell
