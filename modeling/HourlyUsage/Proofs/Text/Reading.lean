import HourlyUsage.Proofs.Text.Utf8
/-!
# Reading only what can be written

The reader accepts no octets but those of a text. `Reached` gives the octets that have brought the
automaton where it stands inside a code point; each step either refuses, or goes on with one octet
more, or emits the code point whose octets these are.

Sources: the reading of octets as text in `decode_key` and `decode_str`.

Results:
* `reached_step`: one octet.
* `decode_eq_ok_iff`: octets are read as a text exactly if the text is written as these octets.
-/
namespace HourlyUsage.Utf8

/-- The octets of one code point that have brought the automaton to a state. The bounds on what was
read are those of the code points of that length. -/
inductive Reached : State → Bytes → Prop where
  | between : Reached .between []
  | oneOfTwo {q : Nat} (least : 2 ≤ q) (below : q < 0x20) :
      Reached (.inside 1 0x80 0xBF q 1 (UInt8.ofNat (0xC0 + q))) [UInt8.ofNat (0xC0 + q)]
  | oneOfThree {q : Nat} (below : q < 0x10) :
      Reached (.inside 2 (if q = 0 then 0xA0 else 0x80) (if q = 0xD then 0x9F else 0xBF) q 1
        (UInt8.ofNat (0xE0 + q))) [UInt8.ofNat (0xE0 + q)]
  | twoOfThree {v : Nat} {lead : UInt8} (least : 0x20 ≤ v) (below : v < 0x400)
      (noSurrogate : v < 0x360 ∨ 0x380 ≤ v) :
      Reached (.inside 1 0x80 0xBF v 2 lead) [UInt8.ofNat (0xE0 + v / 64), tail v]
  | oneOfFour {q : Nat} (below : q < 5) :
      Reached (.inside 3 (if q = 0 then 0x90 else 0x80) (if q = 4 then 0x8F else 0xBF) q 1
        (UInt8.ofNat (0xF0 + q))) [UInt8.ofNat (0xF0 + q)]
  | twoOfFour {v : Nat} {lead : UInt8} (least : 0x10 ≤ v) (below : v < 0x110) :
      Reached (.inside 2 0x80 0xBF v 2 lead) [UInt8.ofNat (0xF0 + v / 64), tail v]
  | threeOfFour {v : Nat} {lead : UInt8} (least : 0x400 ≤ v) (below : v < 0x4400) :
      Reached (.inside 1 0x80 0xBF v 3 lead)
        [UInt8.ofNat (0xF0 + v / 4096), tail (v / 64), tail v]

/-- What a step makes of the octets that were read, the last one included. -/
def Step.Fits (read : Bytes) : Step → Prop
  | .emit c => c.isSurrogate = false ∧ encodePoint c = read
  | .move s => Reached s read
  | .refuse _ => True

/-! ## Octets as parts of a number -/

theorem tail_congr {m n : Nat} (h : m % 64 = n % 64) : tail m = tail n := by rw [tail, tail, h]

theorem exists_ofNat (b : UInt8) : ∃ n < 256, b = UInt8.ofNat n :=
  ⟨b.toNat, UInt8.toNat_lt b, UInt8.ofNat_toNat.symm⟩

theorem fits_emit {n : Nat} {read : Bytes} (hlt : n < 0x110000) (hsur : n < 0xD800 ∨ 0xDFFF < n)
    (hread : ∀ c : CodePoint, c.val = n → encodePoint c = read) :
    (Step.emit (CodePoint.ofNat n)).Fits read := by
  have hval : (CodePoint.ofNat n).val = n := by rw [CodePoint.ofNat, dif_pos hlt]
  refine ⟨?_, hread _ hval⟩
  rw [CodePoint.isSurrogate, hval, Bool.and_eq_false_iff, decide_eq_false_iff_not,
    decide_eq_false_iff_not]
  omega

theorem fits_inside {owed : Nat} {low high : UInt8} {value seen : Nat} {lead : UInt8}
    {read : Bytes} (hlow : 0x80 ≤ low.toNat) (hhigh : high.toNat ≤ 0xBF)
    (hfits : ∀ x < 64, low.toNat ≤ 0x80 + x → 0x80 + x ≤ high.toNat →
      Step.Fits (read ++ [tail x])
        (match owed with
          | 0 | 1 => .emit (CodePoint.ofNat (value * 64 + x))
          | more + 2 => .move (.inside (more + 1) 0x80 0xBF (value * 64 + x) (seen + 1) lead)))
    (b : UInt8) : (step (.inside owed low high value seen lead) b).Fits (read ++ [b]) := by
  by_cases hin : low ≤ b ∧ b ≤ high
  · have hl := UInt8.le_iff_toNat_le.1 hin.1
    have hh := UInt8.le_iff_toNat_le.1 hin.2
    obtain ⟨x, hx⟩ : ∃ x, b.toNat = 0x80 + x := ⟨b.toNat - 0x80, by omega⟩
    have hmod : x % 64 = x := by omega
    have hb : b = tail x := by rw [tail, hmod, ← hx, UInt8.ofNat_toNat]
    rw [hb, step_inside (by omega) (by omega), hmod]
    exact hfits x (by omega) (by omega) (by omega)
  · rw [step, if_neg hin]
    exact True.intro

/-! ## One octet -/

theorem reached_first (b : UInt8) : (first b).Fits [b] := by
  obtain ⟨n, hn, rfl⟩ := exists_ofNat b
  have hrefused : (n < 0x80 ∨ 0xC2 ≤ n ∧ n < 0xF5) ∨
      first (UInt8.ofNat n) = .refuse .invalidStart := by
    rw [first, UInt8.toNat_ofNat', Nat.mod_eq_of_lt hn]
    grind
  rcases hrefused with (hone | ⟨hleast, hbelow⟩) | hrefuse
  · rw [first_one hone]
    refine fits_emit (by omega) (by omega) fun c hc => ?_
    rw [encodePoint, hc]
    exact if_pos hone
  · by_cases htwo : n < 0xE0
    · obtain ⟨q, rfl⟩ : ∃ q, n = 0xC0 + q := ⟨n - 0xC0, by omega⟩
      rw [first_two (by omega) (by omega)]
      exact .oneOfTwo (by omega) (by omega)
    · by_cases hthree : n < 0xF0
      · obtain ⟨q, rfl⟩ : ∃ q, n = 0xE0 + q := ⟨n - 0xE0, by omega⟩
        rw [first_three (by omega)]
        exact .oneOfThree (by omega)
      · obtain ⟨q, rfl⟩ : ∃ q, n = 0xF0 + q := ⟨n - 0xF0, by omega⟩
        rw [first_four (by omega)]
        exact .oneOfFour (by omega)
  · rw [hrefuse]
    exact True.intro

/-- One octet more refuses, goes on, or completes a code point whose octets these are. -/
theorem reached_step {s : State} {read : Bytes} (h : Reached s read) (b : UInt8) :
    (step s b).Fits (read ++ [b]) := by
  cases h with
  | between => exact reached_first b
  | @oneOfTwo q hleast hbelow =>
    refine fits_inside (by decide) (by decide) (fun x hx _ _ => ?_) b
    refine fits_emit (by omega) (by omega) fun c hc => ?_
    rw [encodePoint, hc, if_neg (by omega), if_pos (by omega),
      show (q * 64 + x) / 64 = q by omega, tail_congr (m := q * 64 + x) (n := x) (by omega)]
    rfl
  | @oneOfThree q hbelow =>
    refine fits_inside (by split <;> decide) (by split <;> decide) (fun x hx hlow hhigh => ?_) b
    have hleast : q = 0 → 0x20 ≤ x := by
      rintro rfl
      have hle : 0xA0 ≤ 0x80 + x := by simpa using hlow
      omega
    have hsur : q = 0xD → x < 0x20 := by
      rintro rfl
      have hle : 0x80 + x ≤ 0x9F := by simpa using hhigh
      omega
    rw [← tail_congr (m := q * 64 + x) (n := x) (by omega)]
    have hreached := @Reached.twoOfThree (q * 64 + x) (UInt8.ofNat (0xE0 + q)) (by omega) (by omega)
      (by omega)
    rwa [show (q * 64 + x) / 64 = q by omega] at hreached
  | @twoOfThree v lead hleast hbelow hsur =>
    refine fits_inside (by decide) (by decide) (fun x hx _ _ => ?_) b
    refine fits_emit (by omega) (by omega) fun c hc => ?_
    rw [encodePoint, hc, if_neg (by omega), if_neg (by omega), if_pos (by omega),
      show (v * 64 + x) / 64 = v by omega, show (v * 64 + x) / 4096 = v / 64 by omega,
      tail_congr (m := v * 64 + x) (n := x) (by omega)]
    rfl
  | @oneOfFour q hbelow =>
    refine fits_inside (by split <;> decide) (by split <;> decide) (fun x hx hlow hhigh => ?_) b
    have hleast : q = 0 → 0x10 ≤ x := by
      rintro rfl
      have hle : 0x90 ≤ 0x80 + x := by simpa using hlow
      omega
    have hgreatest : q = 4 → x < 0x10 := by
      rintro rfl
      have hle : 0x80 + x ≤ 0x8F := by simpa using hhigh
      omega
    rw [← tail_congr (m := q * 64 + x) (n := x) (by omega)]
    have hreached := @Reached.twoOfFour (q * 64 + x) (UInt8.ofNat (0xF0 + q)) (by omega) (by omega)
    rwa [show (q * 64 + x) / 64 = q by omega] at hreached
  | @twoOfFour v lead hleast hbelow =>
    refine fits_inside (by decide) (by decide) (fun x hx _ _ => ?_) b
    rw [← tail_congr (m := v * 64 + x) (n := x) (by omega)]
    have hreached := @Reached.threeOfFour (v * 64 + x) lead (by omega) (by omega)
    rwa [show (v * 64 + x) / 4096 = v / 64 by omega, show (v * 64 + x) / 64 = v by omega]
      at hreached
  | @threeOfFour v lead hleast hbelow =>
    refine fits_inside (by decide) (by decide) (fun x hx _ _ => ?_) b
    refine fits_emit (by omega) (by omega) fun c hc => ?_
    rw [encodePoint, hc, if_neg (by omega), if_neg (by omega), if_neg (by omega),
      show (v * 64 + x) / 64 = v by omega, show (v * 64 + x) / 4096 = v / 64 by omega,
      show (v * 64 + x) / 262144 = v / 4096 by omega,
      tail_congr (m := v * 64 + x) (n := x) (by omega)]
    rfl

/-! ## A whole text -/

theorem points_of_decodeFrom {s : State} {read rest : Bytes} (h : Reached s read) {pos : Nat}
    {acc t : Text} (hok : decodeFrom s pos acc rest = .ok t) :
    ∃ u, t = acc.reverse ++ u ∧ (∀ c ∈ u, c.isSurrogate = false) ∧ read ++ rest = points u := by
  induction rest generalizing s read pos acc with
  | nil =>
    cases s with
    | between =>
      cases h
      rw [decodeFrom] at hok
      exact ⟨[], by simp [Except.ok.inj hok], by simp, rfl⟩
    | inside => cases hok
  | cons b rest ih =>
    have hfits := reached_step h b
    rw [decodeFrom] at hok
    cases hstep : step s b with
    | emit c =>
      rw [hstep] at hok hfits
      obtain ⟨u, rfl, hu, hpoints⟩ := ih .between hok
      refine ⟨c :: u, by simp, ?_, ?_⟩
      · intro d hd
        rcases List.mem_cons.1 hd with rfl | hd
        · exact hfits.1
        · exact hu d hd
      · rw [points_cons, hfits.2, ← hpoints]
        simp
    | move s' =>
      rw [hstep] at hok hfits
      obtain ⟨u, rfl, hu, hpoints⟩ := ih hfits hok
      exact ⟨u, rfl, hu, by rw [← hpoints]; simp⟩
    | refuse f =>
      rw [hstep] at hok
      cases hok

/-- Octets are read as a text exactly if the text is written as these octets. -/
theorem decode_eq_ok_iff {bytes : Bytes} {t : Text} :
    decode bytes = .ok t ↔ encode t = .ok bytes := by
  refine ⟨fun h => ?_, decode_encode⟩
  obtain ⟨u, rfl, hu, hpoints⟩ := points_of_decodeFrom .between h
  exact (encode_eq_ok_iff _ _).2 ⟨hu, hpoints⟩

end HourlyUsage.Utf8
