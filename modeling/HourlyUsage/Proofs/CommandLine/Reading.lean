import Mathlib.Algebra.Group.Nat.Defs
import HourlyUsage.CommandLine.Arguments
/-!
# The numbers of a command line

A numeral with too many digits is not read, so the numbers that a command line can give are bounded,
and each of them can be written again with no more digits than are read.

Sources: `parse_args`.

Results:
* `natAbs_lt_of_read`: the numbers that are read.
* `time_lt_of_parse`: the instants that a command line can ask for.
-/
namespace HourlyUsage

namespace Numeral

theorem foldl_digits_lt {digits : List Nat} (hdigits : ∀ d ∈ digits, d < 10) (start : Nat) :
    digits.foldl (fun n d => 10 * n + d) start < (start + 1) * 10 ^ digits.length := by
  induction digits generalizing start with
  | nil => simp
  | cons d rest ih =>
    obtain ⟨hd, hrest⟩ := List.forall_mem_cons.1 hdigits
    have hstep : 10 * start + d + 1 ≤ (start + 1) * 10 := by omega
    calc rest.foldl (fun n d => 10 * n + d) (10 * start + d)
        < (10 * start + d + 1) * 10 ^ rest.length := ih hrest _
      _ ≤ (start + 1) * 10 * 10 ^ rest.length := Nat.mul_le_mul_right _ hstep
      _ = (start + 1) * 10 ^ (d :: rest).length := by
        rw [List.length_cons, Nat.pow_succ', Nat.mul_assoc]

theorem value_lt {digits : List Nat} (hdigits : ∀ d ∈ digits, d < 10) :
    value digits < 10 ^ digits.length := by
  have hlt := foldl_digits_lt hdigits 0
  rwa [Nat.zero_add, Nat.one_mul] at hlt

theorem decimalValue?_lt {c : CodePoint} {d : Nat} (h : c.decimalValue? = some d) : d < 10 := by
  unfold CodePoint.decimalValue? at h
  obtain ⟨z, hz, rfl⟩ := Option.map_eq_some_iff.1 h
  have hrun := List.find?_some hz
  rw [Bool.and_eq_true, decide_eq_true_eq, decide_eq_true_eq] at hrun
  omega

theorem groupedDigits_lt {acc : List Nat} {t : Text} {digits : List Nat} {rest : Text}
    (hacc : ∀ d ∈ acc, d < 10) (h : groupedDigits acc t = some (digits, rest)) :
    ∀ d ∈ digits, d < 10 := by
  fun_induction groupedDigits acc t <;> grind [decimalValue?_lt]

/-- A number that is read has no more digits than are read. -/
theorem natAbs_lt_of_read {t : Text} {n : Int} (h : read t = .ok n) :
    n.natAbs < 10 ^ maxDigits := by
  unfold read at h
  dsimp only at h
  split at h
  · cases h
  · next digits rest hdigits =>
    split at h
    · cases h
    · next hshort =>
      split at h
      · cases h
      · cases h
        have hvalue : (signed (sign (t.dropWhile CodePoint.isWhiteSpace)).1 (value digits)).natAbs =
            value digits := by
          unfold signed
          split <;> omega
        rw [hvalue]
        calc value digits < 10 ^ digits.length := value_lt <|
              groupedDigits_lt (fun _ hd => absurd hd List.not_mem_nil) hdigits
          _ ≤ 10 ^ maxDigits := Nat.pow_le_pow_right (by decide) (Nat.not_lt.1 hshort)

end Numeral

namespace CommandLine

/-- The instant that was read so far, if one was, has no more digits than are read. -/
def Progress.Timed (p : Progress) : Prop := ∀ n ∈ p.time?, n.natAbs < 10 ^ Numeral.maxDigits

variable {p p' : Progress}

theorem natAbs_lt_of_readInt {flag : Flag} {value : Text} {n : Int}
    (h : Progress.readInt flag value = .ok n) : n.natAbs < 10 ^ Numeral.maxDigits := by
  unfold Progress.readInt at h
  split at h
  · next hread => cases h; exact Numeral.natAbs_lt_of_read hread
  · cases h

theorem timed_give {flag : Flag} {value : Text} (hp : p.Timed) (h : p.give flag value = .ok p') :
    p'.Timed := by
  cases flag with
  | help => cases h
  | path => cases h; exact hp
  | database => cases h; exact hp
  | logLevel => cases h; exact hp
  | limit =>
    cases hread : Progress.readInt .limit value with
    | error stop => rw [Progress.give, hread] at h; cases h
    | ok n => rw [Progress.give, hread] at h; cases h; exact hp
  | time =>
    cases hread : Progress.readInt .time value with
    | error stop => rw [Progress.give, hread] at h; cases h
    | ok n =>
      rw [Progress.give, hread] at h
      cases h
      rintro m ⟨⟩
      exact natAbs_lt_of_readInt hread

theorem of_map_eq_ok {result : Except Stop Progress} {words rest : List Word}
    (h : (result.map fun p => (p, words)) = .ok (p', rest)) : result = .ok p' := by
  cases result with
  | error stop => cases h
  | ok p => cases h; rfl

theorem timed_takeOption {t : Text} {flag : Flag} {attached : Option Attached}
    {words rest : List Word} (hp : p.Timed)
    (h : takeOption p t flag attached words = .ok (p', rest)) : p'.Timed := by
  unfold takeOption at h
  cases attached with
  | some a =>
    dsimp only at h
    split at h
    · cases h
    · exact timed_give hp (of_map_eq_ok h)
  | none =>
    dsimp only at h
    split at h
    · cases h
    · split at h
      · exact timed_give hp (of_map_eq_ok h)
      · cases h

theorem timed_takeCluster {words rest : List Word} (hp : p.Timed)
    (h : takeCluster p words = some (p', rest)) : p'.Timed := by
  unfold takeCluster at h
  split at h
  all_goals first | (split at h <;> cases h <;> exact hp) | cases h

theorem timed_takeWords {fuel : Nat} {words : List Word} (hp : p.Timed)
    (h : takeWords fuel p words = .ok p') : p'.Timed := by
  induction fuel generalizing p words with
  | zero => cases h; exact hp
  | succ fuel ih =>
    cases words with
    | nil => cases h; exact hp
    | cons word rest =>
      cases word with
      | option t flag attached =>
        rw [takeWords] at h
        split at h
        · cases h
        · next htake => exact ih (timed_takeOption hp htake) h
      | unknownOption t => exact ih (p := p.skip (.unknownOption t)) hp h
      | separator | plain t =>
        unfold takeWords at h
        split at h
        · next htake => exact ih (timed_takeCluster hp htake) h
        · exact ih (p := p.skip _) hp h

/-- The instants that a command line can ask for. -/
theorem time_lt_of_parse {argv : List Text} {arguments : Arguments}
    (hparse : parse argv = .ok arguments) :
    ∀ n ∈ arguments.time?, n.natAbs < 10 ^ Numeral.maxDigits := by
  unfold parse at hparse
  split at hparse
  · cases hparse
  · split at hparse
    · cases hparse
    · next p hwords =>
      have hp : p.Timed := timed_takeWords (fun _ hn => absurd hn (Option.not_mem_none _)) hwords
      unfold Progress.finish at hparse
      split at hparse
      · cases hparse
      · cases hparse
        exact hp
      · cases hparse

end CommandLine

end HourlyUsage
