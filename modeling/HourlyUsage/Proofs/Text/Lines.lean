import HourlyUsage.CommandLine.Run
import HourlyUsage.Proofs.Snapshot.Key
/-!
# Lines

A text without control characters stays on one line, and lines that are written one below the other
can be told apart again.

Sources: the output of the command line, a line for each record.

Results:
* `splitAll_append`, `splitAll_join`: the pieces of a text that is cut at a separator.
* `outputLines_unlines`: an output is cut back into its lines.
-/
namespace HourlyUsage

namespace Text

/-- There is no control character below U+0020 in the text. -/
def OneLine (t : Text) : Prop := ∀ c ∈ t, 0x20 ≤ c.val

instance decidableOneLine (t : Text) : Decidable t.OneLine :=
  decidable_of_iff (t.all fun c => 0x20 ≤ c.val) (by simp [OneLine])

theorem oneLine_nil : OneLine [] := fun _ hc => absurd hc List.not_mem_nil

theorem oneLine_cons {c : CodePoint} {t : Text} : OneLine (c :: t) ↔ 0x20 ≤ c.val ∧ t.OneLine :=
  List.forall_mem_cons

theorem oneLine_append {t u : Text} : OneLine (t ++ u) ↔ t.OneLine ∧ u.OneLine :=
  List.forall_mem_append

theorem OneLine.of_subset {t u : Text} (hu : u.OneLine) (hsubset : t ⊆ u) : t.OneLine :=
  fun c hc => hu c (hsubset hc)

theorem oneLine_fill (n : Nat) {c : CodePoint} (hc : 0x20 ≤ c.val) : OneLine (fill n c) := by
  intro d hd
  rwa [List.eq_of_mem_replicate hd]

/-- What holds of the separator and of all pieces holds of what they are joined to. -/
theorem forall_mem_join {P : CodePoint → Prop} {separator : Text}
    (hseparator : ∀ c ∈ separator, P c) {pieces : List Text}
    (hpieces : ∀ piece ∈ pieces, ∀ c ∈ piece, P c) : ∀ c ∈ join separator pieces, P c := by
  induction pieces with
  | nil => exact fun c hc => absurd hc List.not_mem_nil
  | cons piece rest ih =>
    obtain ⟨hpiece, hrest⟩ := List.forall_mem_cons.1 hpieces
    cases rest with
    | nil => rwa [join, List.intercalate_singleton]
    | cons next rest =>
      rw [join, List.intercalate_cons_cons, List.forall_mem_append, List.forall_mem_append]
      exact ⟨⟨hpiece, hseparator⟩, ih hrest⟩

theorem oneLine_join {separator : Text} (hseparator : separator.OneLine) {pieces : List Text}
    (hpieces : ∀ piece ∈ pieces, piece.OneLine) : OneLine (join separator pieces) :=
  forall_mem_join hseparator hpieces

/-- The piece up to the first separator is the first one. -/
theorem splitAll_append {c : CodePoint} {front : Text} (h : c ∉ front) (rest : Text) :
    splitAll c (front ++ c :: rest) = front :: splitAll c rest := by
  induction front with
  | nil => rw [List.nil_append, splitAll, if_pos rfl]
  | cons x front ih =>
    rw [List.mem_cons, not_or] at h
    rw [List.cons_append, splitAll, if_neg (Ne.symm h.1), ih h.2]

theorem splitAll_of_not_mem {c : CodePoint} {t : Text} (h : c ∉ t) : splitAll c t = [t] := by
  induction t with
  | nil => rfl
  | cons x t ih =>
    rw [List.mem_cons, not_or] at h
    rw [splitAll, if_neg (Ne.symm h.1), ih h.2]

/-- Pieces that are joined with a separator are got back by cutting at it. -/
theorem splitAll_join {c : CodePoint} {pieces : List Text} (hnonempty : pieces ≠ [])
    (hpieces : ∀ piece ∈ pieces, c ∉ piece) : splitAll c (join [c] pieces) = pieces := by
  induction pieces with
  | nil => exact absurd rfl hnonempty
  | cons piece rest ih =>
    obtain ⟨hpiece, hrest⟩ := List.forall_mem_cons.1 hpieces
    cases rest with
    | nil => rw [join, List.intercalate_singleton, splitAll_of_not_mem hpiece]
    | cons next rest =>
      rw [join, List.intercalate_cons_cons, List.append_assoc, List.singleton_append,
        splitAll_append hpiece]
      exact congrArg (piece :: ·) (ih (List.cons_ne_nil next rest) hrest)

end Text

namespace CommandLine

/-- The lines of an output, of which each ends with a line feed. -/
def outputLines (output : Text) : List Text := (Text.splitAll 0x0A output).dropLast

theorem splitAll_unlines {lines : List Text} (hlines : ∀ line ∈ lines, line.OneLine) :
    Text.splitAll 0x0A (unlines lines) = lines ++ [[]] := by
  induction lines with
  | nil => rfl
  | cons line rest ih =>
    obtain ⟨hline, hrest⟩ := List.forall_mem_cons.1 hlines
    have hmem : 0x0A ∉ line := fun hmem => absurd (hline 0x0A hmem) (by decide)
    have hcons : unlines (line :: rest) = line ++ 0x0A :: unlines rest := by
      rw [unlines, List.flatMap_cons, List.append_assoc]
      rfl
    rw [hcons, Text.splitAll_append hmem, ih hrest, List.cons_append]

/-- An output is cut back into its lines. -/
theorem outputLines_unlines {lines : List Text} (hlines : ∀ line ∈ lines, line.OneLine) :
    outputLines (unlines lines) = lines := by
  rw [outputLines, splitAll_unlines hlines, List.dropLast_concat]

end CommandLine

end HourlyUsage
