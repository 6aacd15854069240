import HourlyUsage.Proofs.Text.Lines
/-!
# Whole numbers that are read back

A natural number is written with its decimal digits, the first of which is no zero unless it is the
only one. Every reader takes such a numeral for the number that it stands for, as long as it is not
too long.

Sources: the integers of the command line, of settings and of parameters.

Results:
* `ofNat_eq_fixed`: the digits of a number.
* `readStrict_ofNat`: a number that was written is read back.
-/
namespace HourlyUsage

namespace Text

theorem cut?_of_not_mem {c : CodePoint} {t : Text} (h : c ∉ t) : cut? c t = none := by
  induction t with
  | nil => rfl
  | cons x t ih =>
    rw [List.mem_cons, not_or] at h
    rw [cut?, if_neg (Ne.symm h.1), ih h.2]
    rfl

theorem trim_eq_self {p : CodePoint → Bool} {t : Text} (h : ∀ c ∈ t, p c = false) :
    t.trim p = t := by
  have hdrop : ∀ u : Text, (∀ c ∈ u, p c = false) → u.dropWhile p = u := by
    intro u hu
    cases u with
    | nil => rfl
    | cons c rest => rw [List.dropWhile_cons_of_neg (by simp [hu c (List.mem_cons_self ..)])]
  rw [trim, trimLeft, hdrop t h, trimRight, hdrop _ fun c hc => h c (List.mem_reverse.1 hc),
    List.reverse_reverse]

end Text

namespace Numeral

/-! ## The digits of a number -/

theorem digitsBefore_eq {fuel n : Nat} (hfuel : n < fuel) (acc : Text) :
    ∃ width, digitsBefore fuel n acc = fixed (width + 1) n ++ acc ∧ n < 10 ^ (width + 1) ∧
      (width = 0 ∨ 10 ^ width ≤ n) := by
  induction fuel generalizing n acc with
  | zero => exact absurd hfuel (Nat.not_lt_zero _)
  | succ fuel ih =>
    rw [digitsBefore]
    split
    · next hn => exact ⟨0, rfl, by omega, .inl rfl⟩
    · next hn =>
      obtain ⟨width, hdigits, hlt, hleast⟩ :=
        ih (n := n / 10) (by omega) (CodePoint.ofDigit n :: acc)
      have hpow : 10 ^ (width + 1 + 1) = 10 ^ (width + 1) * 10 := Nat.pow_succ ..
      refine ⟨width + 1, ?_, by omega, .inr ?_⟩
      · rw [hdigits, fixed.eq_def (width + 1 + 1), List.append_assoc]
        rfl
      · rcases hleast with rfl | hleast
        · omega
        · have hmore : 10 ^ (width + 1) = 10 ^ width * 10 := Nat.pow_succ ..
          omega

/-- A number is written with as many digits as it has. -/
theorem ofNat_eq_fixed (n : Nat) :
    ∃ width, ofNat n = fixed (width + 1) n ∧ n < 10 ^ (width + 1) ∧
      (width = 0 ∨ 10 ^ width ≤ n) := by
  obtain ⟨width, hdigits, hrest⟩ := digitsBefore_eq (Nat.lt_succ_self n) []
  exact ⟨width, by rw [ofNat, hdigits, List.append_nil], hrest⟩

theorem mem_ofNat {n : Nat} {c : CodePoint} (hc : c ∈ ofNat n) : 0x30 ≤ c.val ∧ c.val ≤ 0x39 := by
  obtain ⟨width, hdigits, -⟩ := ofNat_eq_fixed n
  exact mem_fixed (hdigits ▸ hc)

theorem ofNat_ne_nil (n : Nat) : ofNat n ≠ [] := by
  obtain ⟨width, hdigits, -⟩ := ofNat_eq_fixed n
  rw [hdigits, fixed]
  exact List.append_ne_nil_of_right_ne_nil _ (List.cons_ne_nil _ _)

theorem ofNat_eq_cons (n : Nat) :
    ∃ c more, ofNat n = c :: more ∧ 0x30 ≤ c.val ∧ c.val ≤ 0x39 := by
  cases ht : ofNat n with
  | nil => exact absurd ht (ofNat_ne_nil n)
  | cons c more => exact ⟨c, more, rfl, mem_ofNat (ht ▸ List.mem_cons_self ..)⟩

theorem mem_ofInt {n : Int} {c : CodePoint} (hc : c ∈ ofInt n) :
    c = 0x2D ∨ 0x30 ≤ c.val ∧ c.val ≤ 0x39 := by
  cases n with
  | ofNat n => exact .inr (mem_ofNat hc)
  | negSucc n =>
    rcases List.mem_cons.1 hc with rfl | hc
    · exact .inl rfl
    · exact .inr (mem_ofNat hc)

theorem head?_lastDigits (width n : Nat) :
    (lastDigits (width + 1) n).head? = some (n / 10 ^ width % 10) := by
  induction width generalizing n with
  | zero => rw [Nat.pow_zero, Nat.div_one]; rfl
  | succ width ih =>
    rw [lastDigits, List.head?_append, ih, Nat.div_div_eq_div_mul, Nat.pow_succ', Option.some_or]

theorem head?_lastDigits_ne {width n : Nat} (hlt : n < 10 ^ (width + 1))
    (hleast : width = 0 ∨ 10 ^ width ≤ n) (hlong : 1 < width + 1) :
    (lastDigits (width + 1) n).head? ≠ some 0 := by
  have hpos : 0 < 10 ^ width := Nat.pow_pos (by decide)
  have hone : 1 ≤ n / 10 ^ width :=
    (Nat.one_le_div_iff hpos).2 (hleast.resolve_left (by omega))
  have hten : n / 10 ^ width < 10 := by
    rw [Nat.div_lt_iff_lt_mul hpos, ← Nat.pow_succ']
    exact hlt
  rw [head?_lastDigits, Nat.mod_eq_of_lt hten]
  intro hzero
  rw [Option.some.inj hzero] at hone
  exact absurd hone (by decide)

theorem digits?_ofNat (n : Nat) :
    ∃ digits, digits? (ofNat n) = some digits ∧ value digits = n ∧ digits ≠ [] ∧
      (1 < digits.length → digits.head? ≠ some 0 ∧ 10 ^ (digits.length - 1) ≤ n) := by
  obtain ⟨width, hdigits, hlt, hleast⟩ := ofNat_eq_fixed n
  have hlength := length_lastDigits (width + 1) n
  refine ⟨lastDigits (width + 1) n, by rw [hdigits, digits?_fixed], value_fixed hlt, ?_, ?_⟩
  · rw [← List.length_pos_iff, hlength]
    exact Nat.succ_pos width
  · rw [hlength]
    exact fun hlong => ⟨head?_lastDigits_ne hlt hleast hlong, hleast.resolve_left (by omega)⟩

theorem length_le_of_lt {n most : Nat} {digits : List Nat} (hmost : 0 < most) (hn : n < 10 ^ most)
    (hleast : 1 < digits.length → 10 ^ (digits.length - 1) ≤ n) : digits.length ≤ most := by
  refine Nat.le_of_not_lt fun hlong => ?_
  have hpow := (Nat.pow_lt_pow_iff_right (by decide : 1 < 10)).1
    (Nat.lt_of_le_of_lt (hleast (by omega)) hn)
  omega

/-! ## Reading -/

theorem digit_not_white {c : CodePoint} (hc : 0x30 ≤ c.val ∧ c.val ≤ 0x39) :
    c.isWhiteSpace = false := by
  unfold CodePoint.isWhiteSpace
  simp only [Bool.or_eq_false_iff, Bool.and_eq_false_iff, decide_eq_false_iff_not]
  omega

theorem ofNat_of_leading_zero {n : Nat} {rest : Text} (hzero : ofNat n = 0x30 :: rest) :
    rest = [] := by
  obtain ⟨digits, hdigits, -, -, hlong⟩ := digits?_ofNat n
  cases rest with
  | nil => rfl
  | cons c more =>
    rw [hzero, digits?, List.mapM_cons, List.mapM_cons] at hdigits
    obtain ⟨leading, hfirst, hrest⟩ := Option.bind_eq_some_iff.1 hdigits
    obtain ⟨tail, htail, hcons⟩ := Option.bind_eq_some_iff.1 hrest
    obtain ⟨second, -, hmore⟩ := Option.bind_eq_some_iff.1 htail
    obtain ⟨others, -, hothers⟩ := Option.bind_eq_some_iff.1 hmore
    obtain rfl := Option.some.inj hothers
    obtain rfl := Option.some.inj hcons
    exact absurd hfirst.symm (hlong (by simp)).1

theorem withoutLeadingZeros_ofNat (n : Nat) :
    withoutLeadingZeros (ofNat n) = some (ofNat n) := by
  obtain ⟨c, rest, ht, hc⟩ := ofNat_eq_cons n
  rw [ht]
  by_cases hzero : c = 0x30
  · rw [hzero] at ht ⊢
    rw [ofNat_of_leading_zero ht]
    rfl
  · have hval : c.val ≠ 0x30 := fun h => hzero (Fin.ext h)
    have hone : 0x31 ≤ c.val := by omega
    simp [withoutLeadingZeros, hzero, hone, hc.2]

/-- What was written is read back as the same number. -/
theorem readStrict_ofNat {n : Nat} (hn : n < 10 ^ maxDigits) : readStrict (ofNat n) = .ok n := by
  obtain ⟨digits, hdigits, hvalue, hnonempty, hlong⟩ := digits?_ofNat n
  have hlength := length_le_of_lt (by decide : 0 < maxDigits) hn fun h => (hlong h).2
  have hmem : ∀ c ∈ ofNat n, 0x30 ≤ c.val ∧ c.val ≤ 0x39 := fun c hc => mem_ofNat hc
  have hnot : ∀ c : CodePoint, ¬ (0x30 ≤ c.val ∧ c.val ≤ 0x39) → c ∉ ofNat n :=
    fun c hc hin => hc (hmem c hin)
  have htrim : (ofNat n).trim CodePoint.isWhiteSpace = ofNat n :=
    Text.trim_eq_self fun c hc => digit_not_white (hmem c hc)
  have hfraction : withoutZeroFraction (ofNat n) = ofNat n := by
    rw [withoutZeroFraction, Text.cut?_of_not_mem (hnot _ (by decide))]
  have hunderscores : withoutUnderscores (ofNat n) = some (ofNat n) := by
    rw [withoutUnderscores, Text.splitAll_of_not_mem (hnot underscore (by decide))]
    simp [ofNat_ne_nil n]
  have hshown : (digits.isEmpty || decide (1 < digits.length) && decide (digits.head? = some 0)) =
      false := by
    simpa [hnonempty] using fun h => (hlong h).1
  have hzeros := withoutLeadingZeros_ofNat n
  generalize ofNat n = t at *
  cases t with
  | nil => cases hdigits; exact absurd rfl hnonempty
  | cons c rest =>
    have hplus : c ≠ 0x2B := fun h => hnot 0x2B (by decide) (h ▸ List.mem_cons_self ..)
    have hhyphen : c ≠ 0x2D := fun h => hnot 0x2D (by decide) (h ▸ List.mem_cons_self ..)
    simp [readStrict, htrim, hzeros, hfraction, hunderscores, hplus, hhyphen, hdigits, hshown,
      Nat.not_lt.2 hlength, hvalue, signed]

end Numeral

end HourlyUsage
