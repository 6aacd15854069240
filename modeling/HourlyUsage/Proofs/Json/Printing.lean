import HourlyUsage.Json.Printer
import HourlyUsage.Proofs.Numeral
/-!
# JSON on one line

`compact` writes no control character below U+0020, whatever is in the texts of the value. So values
that are written on a line each can be told apart again, and an array is its values with commas in
between.

Sources: the JSON text of a response, as both surfaces write it.

Results:
* `oneLine_compact`: the text of a value stays on one line.
* `compactAll_eq_map`: the text of an array is made of the texts of its values.
-/
namespace HourlyUsage

/-! ## Digits -/

theorem Numeral.oneLine_ofNat (n : Nat) : Text.OneLine (ofNat n) := by
  intro c hc
  have hdigit := mem_ofNat hc
  omega

theorem Numeral.oneLine_ofInt (n : Int) : Text.OneLine (ofInt n) := by
  intro c hc
  rcases mem_ofInt hc with rfl | hdigit
  · decide
  · omega

theorem Quoted.oneLine_hex (width n : Nat) : Text.OneLine (hex width n) := by
  induction width generalizing n with
  | zero => exact Text.oneLine_nil
  | succ width ih =>
    have hdigit : 0x20 ≤ (hexDigit n).val := by
      have hall : ∀ d < 16, 0x20 ≤ (hexDigit d).val := by decide
      have hmod : hexDigit n = hexDigit (n % 16) := by rw [hexDigit, hexDigit, Nat.mod_mod]
      exact hmod ▸ hall (n % 16) (Nat.mod_lt n (by decide))
    exact Text.oneLine_append.2 ⟨ih (n / 16), Text.oneLine_cons.2 ⟨hdigit, Text.oneLine_nil⟩⟩

/-! ## Values -/

namespace Json

open Text (OneLine oneLine_nil oneLine_cons oneLine_append)

theorem oneLine_escapePoint (c : CodePoint) : OneLine (escapePoint c) := by
  unfold escapePoint
  split
  -- The short escapes are two printed code points each.
  any_goals decide
  split
  · exact oneLine_cons.2 ⟨by decide, oneLine_cons.2 ⟨by decide, Quoted.oneLine_hex 4 _⟩⟩
  · next hshown =>
    rw [Bool.or_eq_true, not_or, decide_eq_true_eq] at hshown
    exact oneLine_cons.2 ⟨Nat.not_lt.1 hshown.1, oneLine_nil⟩

theorem oneLine_string (t : Text) : OneLine (string t) := by
  have hmark : OneLine [0x22] := by decide
  refine oneLine_append.2 ⟨oneLine_cons.2 ⟨by decide, fun c hc => ?_⟩, hmark⟩
  obtain ⟨d, -, hd⟩ := List.mem_flatMap.1 hc
  exact oneLine_escapePoint d c hd

theorem oneLine_decimal (negative : Bool) (digits : Nat) (exponent : Int) :
    OneLine (decimal negative digits exponent) := by
  have hdigits := Numeral.oneLine_ofNat digits
  have hexponent : OneLine (Numeral.ofNat digits ++ 0x65 :: Numeral.ofInt exponent) :=
    oneLine_append.2 ⟨hdigits, oneLine_cons.2 ⟨by decide, Numeral.oneLine_ofInt exponent⟩⟩
  have hzeros : ∀ n, OneLine (Text.fill n 0x30) := fun n => Text.oneLine_fill n (by decide)
  unfold decimal
  dsimp only
  generalize hunsigned : (if 0 ≤ exponent then _ else _ : Text) = unsigned
  have hone : OneLine unsigned := by
    subst hunsigned
    split
    · split
      · exact oneLine_append.2 ⟨oneLine_append.2 ⟨hdigits, hzeros _⟩, by decide⟩
      · exact hexponent
    · split
      · have hpadded := oneLine_append.2 ⟨hzeros ((-exponent).toNat + 1 -
          (Numeral.ofNat digits).length), hdigits⟩
        exact oneLine_append.2 ⟨hpadded.of_subset (List.take_subset ..),
          oneLine_cons.2 ⟨by decide, hpadded.of_subset (List.drop_subset ..)⟩⟩
      · exact hexponent
  split
  · exact oneLine_cons.2 ⟨by decide, hone⟩
  · exact hone

theorem oneLine_number (n : Number) : OneLine (n.toText (text "NaN") (text "Infinity")) := by
  cases n with
  | whole n => exact Numeral.oneLine_ofInt n
  | decimal negative digits exponent => exact oneLine_decimal negative digits exponent
  | notANumber => decide
  | infinite negative => cases negative <;> decide

mutual

/-- The text of a value stays on one line. -/
theorem oneLine_compact : (v : Json) → OneLine v.compact
  | .null => by rw [compact]; decide
  | .bool b => by rw [compact]; cases b <;> decide
  | .number n => by rw [compact]; exact oneLine_number n
  | .str t => by rw [compact]; exact oneLine_string t
  | .arr items => by
    rw [compact]
    exact oneLine_append.2 ⟨oneLine_cons.2 ⟨by decide,
      Text.oneLine_join (by decide) (oneLine_compactAll items)⟩, by decide⟩
  | .obj fields => by
    rw [compact]
    exact oneLine_append.2 ⟨oneLine_cons.2 ⟨by decide,
      Text.oneLine_join (by decide) (oneLine_compactFields fields)⟩, by decide⟩

theorem oneLine_compactAll : (items : List Json) → ∀ piece ∈ compactAll items, piece.OneLine
  | [] => nofun
  | v :: rest => List.forall_mem_cons.2 ⟨oneLine_compact v, oneLine_compactAll rest⟩

theorem oneLine_compactFields : (fields : List (Text × Json)) →
    ∀ piece ∈ compactFields fields, piece.OneLine
  | [] => nofun
  | (name, v) :: rest => List.forall_mem_cons.2
    ⟨oneLine_append.2 ⟨oneLine_string name, oneLine_cons.2 ⟨by decide, oneLine_compact v⟩⟩,
      oneLine_compactFields rest⟩

end

/-- The values of an array are written as they are by themselves. -/
theorem compactAll_eq_map (items : List Json) : compactAll items = items.map compact := by
  induction items with
  | nil => rfl
  | cons v rest ih => rw [compactAll, ih, List.map_cons]

end Json

end HourlyUsage
