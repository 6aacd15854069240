import Mathlib.Algebra.Group.Nat.Defs
import HourlyUsage.Text.Utf8
/-!
# The order of encoded texts

UTF-8 keeps what row keys rely on: encoded texts compare as the texts do, one starts with another
exactly if the texts do so, and reading gives back what was written.

Sources: the writing and the reading of texts in `encode_key`, `decode_key`, `encode_str`,
`decode_str`.

Results:
* `encodable_iff`: the texts that can be written are those without surrogates.
* `points_lt_iff`, `points_inj`, `points_prefix_iff`: order, equality and prefixes carry over.
* `decode_encode`: the reader after the writer.
-/
namespace HourlyUsage.Utf8

def Encodable (t : Text) : Prop := ∃ bytes, encode t = .ok bytes

/-- The octets of the code points of a text, surrogates included. -/
def points (t : Text) : Bytes := t.flatMap encodePoint

theorem surrogatesFrom?_eq_none_iff (start : Nat) (t : Text) :
    surrogatesFrom? start t = none ↔ ∀ c ∈ t, c.isSurrogate = false := by
  induction t generalizing start with
  | nil => simp [surrogatesFrom?]
  | cons c rest ih => cases hc : c.isSurrogate <;> simp [surrogatesFrom?, hc, ih]

theorem encode_eq_ok_iff (t : Text) (bytes : Bytes) :
    encode t = .ok bytes ↔ (∀ c ∈ t, c.isSurrogate = false) ∧ bytes = points t := by
  rw [← surrogatesFrom?_eq_none_iff 0, encode]
  cases surrogatesFrom? 0 t with
  | none => simp [points, eq_comm]
  | some e => simp

/-- The texts that can be written are those without surrogates. -/
theorem encodable_iff (t : Text) : Encodable t ↔ ∀ c ∈ t, c.isSurrogate = false := by
  simp [Encodable, encode_eq_ok_iff]

instance decidableEncodable (t : Text) : Decidable (Encodable t) :=
  decidable_of_iff (t.all (!·.isSurrogate) = true) (by simp [encodable_iff])

theorem encodable_of_lt {t : Text} (h : ∀ c ∈ t, c.val < 0x80) : Encodable t := by
  rw [encodable_iff]
  intro c hc
  have hlt := h c hc
  rw [CodePoint.isSurrogate, Bool.and_eq_false_iff]
  exact .inl (decide_eq_false (by omega))

theorem encode_of_encodable {t : Text} (h : Encodable t) : encode t = .ok (points t) :=
  (encode_eq_ok_iff t _).2 ⟨(encodable_iff t).1 h, rfl⟩

theorem encodable_append {t u : Text} : Encodable (t ++ u) ↔ Encodable t ∧ Encodable u := by
  simp only [encodable_iff, List.mem_append]
  exact ⟨fun h => ⟨fun c hc => h c (.inl hc), fun c hc => h c (.inr hc)⟩,
    fun h c hc => hc.elim (h.1 c) (h.2 c)⟩

/-! ## Order -/

@[simp] theorem points_nil : points [] = [] := rfl

@[simp] theorem points_cons (c : CodePoint) (t : Text) :
    points (c :: t) = encodePoint c ++ points t := rfl

theorem ofNat_lt_ofNat {a b : Nat} (hb : b < 256) (h : a < b) : UInt8.ofNat a < UInt8.ofNat b := by
  rw [UInt8.lt_iff_toNat_lt, UInt8.toNat_ofNat', UInt8.toNat_ofNat']; omega

theorem cons_lt {a b : Nat} (hb : b < 256) {s s' : Bytes} (h : a < b ∨ a = b ∧ s < s') :
    UInt8.ofNat a :: s < UInt8.ofNat b :: s' := by
  rw [List.cons_lt_cons_iff]
  rcases h with hlt | ⟨rfl, hlt⟩
  · exact .inl (ofNat_lt_ofNat hb hlt)
  · exact .inr ⟨rfl, hlt⟩

/-- The octets for the last `k` groups of six bits. -/
def tails : Nat → Nat → Bytes
  | 0, _ => []
  | k + 1, n => tail (n / 64 ^ k) :: tails k n

theorem tails_lt {k m n : Nat} (h : m < n) (heq : m / 64 ^ k = n / 64 ^ k) (s s' : Bytes) :
    tails k m ++ s < tails k n ++ s' := by
  induction k with
  | zero => simp at heq; omega
  | succ k ih =>
    rw [Nat.pow_succ, ← Nat.div_div_eq_div_mul, ← Nat.div_div_eq_div_mul] at heq
    have hle : m / 64 ^ k ≤ n / 64 ^ k := Nat.div_le_div_right (Nat.le_of_lt h)
    apply cons_lt (by omega)
    by_cases hsame : m / 64 ^ k = n / 64 ^ k
    · exact .inr ⟨by rw [hsame], ih hsame⟩
    · exact .inl (by omega)

/-- Where a lead octet and `k` groups of six bits make up a number, lesser numbers are lesser
octets. -/
theorem lead_lt {k base m n : Nat} (hn : base + n / 64 ^ k < 256) (h : m < n) (s s' : Bytes) :
    UInt8.ofNat (base + m / 64 ^ k) :: (tails k m ++ s) <
      UInt8.ofNat (base + n / 64 ^ k) :: (tails k n ++ s') := by
  have hle : m / 64 ^ k ≤ n / 64 ^ k := Nat.div_le_div_right (Nat.le_of_lt h)
  apply cons_lt hn
  by_cases hsame : m / 64 ^ k = n / 64 ^ k
  · exact .inr ⟨by rw [hsame], tails_lt h hsame s s'⟩
  · exact .inl (by omega)

/-- A code point is written as a lead octet, which tells how many groups follow, and the groups. -/
theorem encodePoint_eq (c : CodePoint) :
    ∃ k base, encodePoint c = UInt8.ofNat (base + c.val / 64 ^ k) :: tails k c.val ∧
      (k = 0 ∧ base = 0 ∧ c.val < 0x80 ∨
        k = 1 ∧ base = 0xC0 ∧ 0x80 ≤ c.val ∧ c.val < 0x800 ∨
        k = 2 ∧ base = 0xE0 ∧ 0x800 ≤ c.val ∧ c.val < 0x10000 ∨
        k = 3 ∧ base = 0xF0 ∧ 0x10000 ≤ c.val) := by
  unfold encodePoint
  dsimp only
  split
  · exact ⟨0, 0, by simp [tails], by omega⟩
  · split
    · exact ⟨1, 0xC0, by simp [tails], by omega⟩
    · split
      · exact ⟨2, 0xE0, by simp [tails], by omega⟩
      · exact ⟨3, 0xF0, by simp [tails], by omega⟩

/-- Of two code points the lesser one is written as lesser octets, whatever follows them. -/
theorem encodePoint_append_lt {c d : CodePoint} (h : c < d) (s s' : Bytes) :
    encodePoint c ++ s < encodePoint d ++ s' := by
  have hd := d.isLt
  have hcd : c.val < d.val := h
  obtain ⟨k, base, hc, hck⟩ := encodePoint_eq c
  obtain ⟨l, base', he, hdl⟩ := encodePoint_eq d
  rw [hc, he]
  by_cases hsame : k = l
  · obtain rfl : base = base' := by omega
    subst hsame
    refine lead_lt ?_ hcd s s'
    rcases hdl with ⟨rfl, rfl, _⟩ | ⟨rfl, rfl, _⟩ | ⟨rfl, rfl, _⟩ | ⟨rfl, rfl, _⟩ <;> omega
  · refine cons_lt ?_ (.inl ?_)
    · rcases hdl with ⟨rfl, rfl, _⟩ | ⟨rfl, rfl, _⟩ | ⟨rfl, rfl, _⟩ | ⟨rfl, rfl, _⟩ <;> omega
    · -- Fewer groups mean a lesser lead octet.
      rcases hck with ⟨rfl, rfl, _⟩ | ⟨rfl, rfl, _⟩ | ⟨rfl, rfl, _⟩ | ⟨rfl, rfl, _⟩ <;>
        rcases hdl with ⟨rfl, rfl, _⟩ | ⟨rfl, rfl, _⟩ | ⟨rfl, rfl, _⟩ | ⟨rfl, rfl, _⟩ <;> omega

theorem encodePoint_ne_nil (c : CodePoint) : encodePoint c ≠ [] := by
  obtain ⟨k, base, hc, -⟩ := encodePoint_eq c
  rw [hc]
  exact List.cons_ne_nil _ _

theorem points_lt {t u : Text} (h : t < u) : points t < points u := by
  induction t generalizing u with
  | nil =>
    cases u with
    | nil => exact absurd h (List.lt_irrefl _)
    | cons d u =>
      rw [points_nil, points_cons]
      cases hd : encodePoint d with
      | nil => exact absurd hd (encodePoint_ne_nil d)
      | cons b rest => exact List.nil_lt_cons b _
  | cons c t ih =>
    cases u with
    | nil => exact absurd h (List.not_lt_nil _)
    | cons d u =>
      rw [points_cons, points_cons]
      rcases List.cons_lt_cons_iff.1 h with hlt | ⟨rfl, hlt⟩
      · exact encodePoint_append_lt hlt _ _
      · exact List.append_left_lt (ih hlt)

theorem text_trichotomy (t u : Text) : t < u ∨ t = u ∨ u < t := by
  rcases Decidable.em (t < u) with h | h
  · exact .inl h
  · rcases Decidable.em (u < t) with h' | h'
    · exact .inr (.inr h')
    · exact .inr (.inl (List.le_antisymm (List.not_lt.1 h') (List.not_lt.1 h)))

/-- Encoded texts compare as the texts do. -/
theorem points_lt_iff {t u : Text} : points t < points u ↔ t < u := by
  refine ⟨?_, points_lt⟩
  intro h
  rcases text_trichotomy t u with hlt | rfl | hgt
  · exact hlt
  · exact absurd h (List.lt_irrefl _)
  · exact absurd h (List.lt_asymm (points_lt hgt))

theorem points_inj {t u : Text} : points t = points u ↔ t = u := by
  refine ⟨?_, congrArg points⟩
  intro h
  rcases text_trichotomy t u with hlt | heq | hgt
  · exact absurd (h ▸ points_lt hlt) (List.lt_irrefl _)
  · exact heq
  · exact absurd (h ▸ points_lt hgt) (List.lt_irrefl _)

/-- An encoded text starts with another one exactly if the texts do so. -/
theorem points_prefix_iff {t u : Text} : points t <+: points u ↔ t <+: u := by
  induction t generalizing u with
  | nil => simp
  | cons c t ih =>
    cases u with
    | nil => simp [encodePoint_ne_nil]
    | cons d u =>
      rw [points_cons, points_cons, List.cons_prefix_cons]
      by_cases hcd : c = d
      · subst hcd
        rw [List.prefix_append_right_inj, ih]
        simp
      · refine ⟨?_, fun h => absurd h.1 hcd⟩
        rintro ⟨rest, hrest⟩
        rw [List.append_assoc] at hrest
        rcases Fin.lt_or_lt_of_ne hcd with hlt | hgt
        · exact absurd (hrest ▸ encodePoint_append_lt hlt _ (points u)) (List.lt_irrefl _)
        · exact absurd (hrest ▸ encodePoint_append_lt hgt (points u) _) (List.lt_irrefl _)

/-! ## Reading what was written -/

theorem ofNat_val (c : CodePoint) : CodePoint.ofNat c.val = c := by
  rw [CodePoint.ofNat, dif_pos c.isLt]

theorem tail_toNat (n : Nat) : (tail n).toNat = 0x80 + n % 64 := by
  rw [tail, UInt8.toNat_ofNat']; omega

theorem step_inside {owed : Nat} {low high lead : UInt8} {value seen n : Nat}
    (hlow : low.toNat ≤ 0x80 + n % 64) (hhigh : 0x80 + n % 64 ≤ high.toNat) :
    step (.inside owed low high value seen lead) (tail n) =
      match owed with
      | 0 | 1 => .emit (CodePoint.ofNat (value * 64 + n % 64))
      | more + 2 => .move (.inside (more + 1) 0x80 0xBF (value * 64 + n % 64) (seen + 1) lead) := by
  have hb := tail_toNat n
  have hmod : (tail n).toNat % 64 = n % 64 := by omega
  rw [step, if_pos ⟨UInt8.le_iff_toNat_le.2 (by omega), UInt8.le_iff_toNat_le.2 (by omega)⟩]
  exact hmod ▸ rfl

/-! What the first octet of a code point of each length does. -/

theorem first_one {n : Nat} (h : n < 0x80) :
    first (UInt8.ofNat n) = .emit (CodePoint.ofNat n) := by
  have hb : (UInt8.ofNat n).toNat = n := by rw [UInt8.toNat_ofNat']; omega
  rw [first, hb]
  exact if_pos h

theorem first_two {q : Nat} (h : 2 ≤ q) (h' : q < 0x20) :
    first (UInt8.ofNat (0xC0 + q)) =
      .move (.inside 1 0x80 0xBF q 1 (UInt8.ofNat (0xC0 + q))) := by
  have hb : (UInt8.ofNat (0xC0 + q)).toNat = 0xC0 + q := by rw [UInt8.toNat_ofNat']; omega
  rw [first, hb]
  rw [if_neg (by omega), if_neg (by omega), if_pos (by omega), Nat.add_sub_cancel_left]

theorem first_three {q : Nat} (h : q < 0x10) :
    first (UInt8.ofNat (0xE0 + q)) =
      .move (.inside 2 (if q = 0 then 0xA0 else 0x80) (if q = 0xD then 0x9F else 0xBF) q 1
        (UInt8.ofNat (0xE0 + q))) := by
  have hb : (UInt8.ofNat (0xE0 + q)).toNat = 0xE0 + q := by rw [UInt8.toNat_ofNat']; omega
  rw [first, hb]
  rw [if_neg (by omega), if_neg (by omega), if_neg (by omega), if_pos (by omega),
    Nat.add_sub_cancel_left]
  simp only [show 0xE0 + q = 0xE0 ↔ q = 0 by omega, show 0xE0 + q = 0xED ↔ q = 0xD by omega]

theorem first_four {q : Nat} (h : q < 5) :
    first (UInt8.ofNat (0xF0 + q)) =
      .move (.inside 3 (if q = 0 then 0x90 else 0x80) (if q = 4 then 0x8F else 0xBF) q 1
        (UInt8.ofNat (0xF0 + q))) := by
  have hb : (UInt8.ofNat (0xF0 + q)).toNat = 0xF0 + q := by rw [UInt8.toNat_ofNat']; omega
  rw [first, hb]
  rw [if_neg (by omega), if_neg (by omega), if_neg (by omega), if_neg (by omega),
    if_pos (by omega), Nat.add_sub_cancel_left]
  simp only [show 0xF0 + q = 0xF0 ↔ q = 0 by omega, show 0xF0 + q = 0xF4 ↔ q = 4 by omega]

theorem decodeFrom_encodePoint {c : CodePoint} (h : c.isSurrogate = false) (pos : Nat)
    (acc : Text) (rest : Bytes) :
    decodeFrom .between pos acc (encodePoint c ++ rest) =
      decodeFrom .between (pos + (encodePoint c).length) (c :: acc) rest := by
  have hc := c.isLt
  have hval : ∀ n, n = c.val → CodePoint.ofNat n = c := fun n hn => hn ▸ ofNat_val c
  have hsur : ¬ (0xD800 ≤ c.val ∧ c.val ≤ 0xDFFF) := by simpa [CodePoint.isSurrogate] using h
  unfold encodePoint
  dsimp only
  generalize c.val = n at *
  split
  · next hone =>
    rw [List.singleton_append, decodeFrom, step, first_one hone, hval n rfl]
    rfl
  · split
    · next htwo =>
      simp only [List.cons_append, List.nil_append, decodeFrom]
      rw [step, first_two (by omega) (by omega)]
      dsimp only
      rw [step_inside (by simp) (by simp; omega)]
      dsimp only
      rw [hval _ (by omega)]
      rfl
    · split
      · next hthree =>
        simp only [List.cons_append, List.nil_append, decodeFrom]
        rw [step, first_three (by omega)]
        dsimp only
        rw [step_inside (by split <;> simp; omega) (by split <;> simp <;> omega)]
        dsimp only
        rw [step_inside (by simp) (by simp; omega)]
        dsimp only
        rw [hval _ (by omega)]
        rfl
      · next hfour =>
        simp only [List.cons_append, List.nil_append, decodeFrom]
        rw [step, first_four (by omega)]
        dsimp only
        rw [step_inside (by split <;> simp; omega) (by split <;> simp <;> omega)]
        dsimp only
        rw [step_inside (by simp) (by simp; omega)]
        dsimp only
        rw [step_inside (by simp) (by simp; omega)]
        dsimp only
        rw [hval _ (by omega)]
        rfl

/-- Reading gives back what was written. -/
theorem decode_encode {t : Text} {bytes : Bytes} (h : encode t = .ok bytes) :
    decode bytes = .ok t := by
  obtain ⟨hsur, rfl⟩ := (encode_eq_ok_iff t bytes).1 h
  have hgo : ∀ pos acc, decodeFrom .between pos acc (points t) = .ok (acc.reverse ++ t) := by
    clear h
    induction t with
    | nil => simp [decodeFrom]
    | cons c rest ih =>
      intro pos acc
      rw [points_cons, decodeFrom_encodePoint (hsur c (List.mem_cons_self ..)),
        ih fun d hd => hsur d (List.mem_cons_of_mem _ hd)]
      simp
  exact hgo 0 []

end HourlyUsage.Utf8
