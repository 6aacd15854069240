import HourlyUsage.Table.Scan
/-!
# Stop keys

`successor?` gives the key at which a scan of the keys with a common stem can stop.

Sources: `prefix_successor`.

Hypotheses: none.

Results:
* `prefix_iff_between`: a key starts with a stem exactly if it is not below the stem and is below
  the stop key, where there is one.
* `successor?_eq_none_iff`: the stems without a stop key.
* `stop_key_is_exact`: the keys between a stem and its stop key are those that start with the stem,
  and no lesser key is past all of them.
-/
namespace HourlyUsage

theorem successor?_nil : successor? [] = none := rfl

theorem successor?_cons (b : UInt8) (rest : Bytes) :
    successor? (b :: rest) =
      match successor? rest with
      | some stop => some (b :: stop)
      | none => if b = 0xFF then none else some [b + 1] := by
  unfold successor?
  rw [List.reverse_cons, List.dropWhile_append]
  cases h : rest.reverse.dropWhile (· = 0xFF) with
  | nil => by_cases hb : b = 0xFF <;> simp [hb]
  | cons x xs => simp

theorem octet_lt_succ_iff {b c : UInt8} (h : b ≠ 0xFF) : c < b + 1 ↔ c < b ∨ c = b := by
  have hb : b.toNat ≠ 255 := fun e => h (UInt8.toNat_inj.mp e)
  have := b.toNat_lt
  rw [UInt8.lt_iff_toNat_lt, UInt8.lt_iff_toNat_lt, ← UInt8.toNat_inj, UInt8.toNat_add,
    UInt8.toNat_one]
  omega

theorem not_max_lt (c : UInt8) : ¬ (0xFF : UInt8) < c := by
  have := c.toNat_lt
  rw [UInt8.lt_iff_toNat_lt, show (0xFF : UInt8).toNat = 255 from rfl]
  omega

theorem octet_trichotomy (b c : UInt8) : (b ≠ c ∧ b < c) ∨ b = c ∨ (b ≠ c ∧ c < b) := by
  rw [UInt8.lt_iff_toNat_lt, UInt8.lt_iff_toNat_lt, ne_eq, ← UInt8.toNat_inj]
  omega

/-- A key starts with a stem exactly if it is not below the stem and is below the least key above
all keys with the stem, where there is one. -/
theorem prefix_iff_between (stem key : Bytes) :
    stem <+: key ↔ ¬ key < stem ∧ ∀ stop ∈ successor? stem, key < stop := by
  induction stem generalizing key with
  | nil => simp [successor?_nil]
  | cons b rest ih =>
    rw [successor?_cons]
    cases key with
    | nil => simp
    | cons c key =>
      rw [List.cons_prefix_cons, ih, List.cons_lt_cons_iff]
      have hirrefl : ∀ x : UInt8, ¬ x < x := UInt8.lt_irrefl
      have hasymm : b < c → ¬ c < b := UInt8.lt_asymm
      -- The first octets decide unless they are equal; only then does the rest count.
      cases hs : successor? rest with
      | some stop =>
        simp only [Option.mem_def, Option.some.injEq, forall_eq', List.cons_lt_cons_iff]
        rcases octet_trichotomy b c with ⟨hne, h⟩ | rfl | ⟨hne, h⟩
        · simp [hne, Ne.symm hne, hasymm h]
        · simp [hirrefl]
        · simp [hne, Ne.symm hne, h]
      | none =>
        by_cases hb : b = 0xFF
        · subst hb
          rcases octet_trichotomy 0xFF c with ⟨-, h⟩ | rfl | ⟨hne, h⟩
          · exact absurd h (not_max_lt c)
          · simp
          · simp [hne, h]
        · simp only [if_neg hb, Option.mem_def, Option.some.injEq, forall_eq',
            List.cons_lt_cons_iff, octet_lt_succ_iff hb, List.not_lt_nil, and_false, or_false]
          rcases octet_trichotomy b c with ⟨hne, h⟩ | rfl | ⟨hne, h⟩
          · simp [hne, Ne.symm hne, hasymm h]
          · simp [hirrefl]
          · simp [hne, h]

/-- Only a stem of greatest octets has no stop key. -/
theorem successor?_eq_none_iff {stem : Bytes} :
    successor? stem = none ↔ ∀ b ∈ stem, b = 0xFF := by
  induction stem with
  | nil => simp [successor?_nil]
  | cons b rest ih =>
    rw [successor?_cons, List.forall_mem_cons, ← ih]
    cases successor? rest with
    | some stop => simp
    | none => by_cases hb : b = 0xFF <;> simp [hb]

/-- The key is greater than every key that starts with the stem. -/
def IsPast (stem key : Bytes) : Prop := ∀ below, stem <+: below → below < key

/-- A key that is past all keys with a stem is not below the stem, nor does it start with it. -/
theorem IsPast.not_lt_and_not_prefix {stem key : Bytes} (h : IsPast stem key) :
    ¬ key < stem ∧ ¬ stem <+: key :=
  ⟨List.lt_asymm (h stem (List.prefix_refl stem)), fun hkey => List.lt_irrefl key (h key hkey)⟩

/-- **Stop keys are exact.** Exactly the stems whose octets are all the greatest one, the empty stem
among them, have no stop key; then the keys from such a stem upwards are those that start with it,
and no key is past them all. For any other stem the keys from it up to its stop key, the latter
excluded, are those that start with the stem, and the stop key is the least one past them all. -/
theorem stop_key_is_exact (stem : Bytes) :
    match successor? stem with
    | none =>
      (∀ b ∈ stem, b = 0xFF) ∧ (∀ key, ¬ key < stem ↔ stem <+: key) ∧ ∀ key, ¬ IsPast stem key
    | some stop =>
      (∃ b ∈ stem, b ≠ 0xFF) ∧ (∀ key, ¬ key < stem ∧ key < stop ↔ stem <+: key) ∧
        IsPast stem stop ∧ ∀ key, IsPast stem key → ¬ key < stop := by
  have hrange := prefix_iff_between stem
  cases hstop : successor? stem with
  | none =>
    have hfrom : ∀ key, ¬ key < stem ↔ stem <+: key := fun key => by simp [hrange key, hstop]
    refine ⟨successor?_eq_none_iff.1 hstop, hfrom, fun key hpast => ?_⟩
    obtain ⟨hnot, hprefix⟩ := hpast.not_lt_and_not_prefix
    exact hprefix ((hfrom key).1 hnot)
  | some stop =>
    have hbetween : ∀ key, ¬ key < stem ∧ key < stop ↔ stem <+: key :=
      fun key => by simp [hrange key, hstop]
    refine ⟨?_, hbetween, fun key hkey => ((hbetween key).2 hkey).2, fun key hpast hlt => ?_⟩
    · have hnot := mt successor?_eq_none_iff.2 (hstop ▸ Option.some_ne_none stop)
      simpa using hnot
    · -- A lesser key would lie in the range, and so be past itself.
      obtain ⟨hnot, hprefix⟩ := hpast.not_lt_and_not_prefix
      exact hprefix ((hbetween key).1 ⟨hnot, hlt⟩)

end HourlyUsage
