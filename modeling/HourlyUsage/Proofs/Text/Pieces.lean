import HourlyUsage.Text.Basic
import Mathlib.Data.List.DropRight
/-!
# Cutting and trimming

What is said of a list in a text does not go through the functions that read it: the pieces are those
that the library cuts a list into, and a piece is trimmed if blanks stand on both sides of what is
left and none at its ends.

Sources: the lists with commas that `parse_cors_origins` takes.

Results:
* `after?_eq_some_iff`: what is left behind a beginning.
* `splitAll_eq_splitOn`: the pieces are those of the library.
* `trims_iff`: what is left of a text is determined by where the blanks stand.
-/
namespace HourlyUsage.Text

/-- What is left behind a beginning. -/
theorem after?_eq_some_iff {stem t rest : Text} : after? stem t = some rest ↔ t = stem ++ rest := by
  induction stem generalizing t with
  | nil => exact Option.some_inj
  | cons c stem ih =>
    cases t with
    | nil => simp [after?]
    | cons d t =>
      rw [after?, List.cons_append, List.cons_eq_cons]
      split
      · next hcd => rw [ih, and_iff_right hcd.symm]
      · next hcd => exact ⟨nofun, fun h => absurd h.1.symm hcd⟩

theorem isSome_after?_iff {stem t : Text} : (after? stem t).isSome ↔ stem <+: t := by
  rw [Option.isSome_iff_exists]
  exact exists_congr fun rest => after?_eq_some_iff.trans eq_comm

/-- The pieces are those of the library. -/
theorem splitAll_eq_splitOn (c : CodePoint) (t : Text) : splitAll c t = t.splitOn c := by
  induction t with
  | nil => rfl
  | cons x t ih =>
    rw [List.splitOn_cons_eq_if_modifyHead, splitAll, ih]
    by_cases hx : x = c
    · rw [if_pos hx, if_pos (beq_iff_eq.2 hx)]
    · rw [if_neg hx, if_neg fun h => hx (beq_iff_eq.1 h)]
      cases hpieces : t.splitOn c with
      | nil => exact absurd hpieces (List.splitOn_ne_nil c t)
      | cons piece pieces => rfl

variable {isBlank : CodePoint → Bool}

/-- The second text is what is left of the first one without the blanks at its ends. -/
def Trims (isBlank : CodePoint → Bool) (t u : Text) : Prop :=
  ∃ front back, t = front ++ (u ++ back) ∧ (∀ c ∈ front, isBlank c) ∧ (∀ c ∈ back, isBlank c) ∧
    (∀ c ∈ u.head?, isBlank c = false) ∧ ∀ c ∈ u.getLast?, isBlank c = false

theorem dropWhile_of_head? {t : Text} (h : ∀ c ∈ t.head?, isBlank c = false) :
    t.dropWhile isBlank = t := by
  cases t with
  | nil => rfl
  | cons c rest => exact List.dropWhile_cons_of_neg (by simp [h c rfl])

theorem trimRight_append {u back : Text} (hback : ∀ c ∈ back, isBlank c)
    (hlast : ∀ c ∈ u.getLast?, isBlank c = false) : trimRight isBlank (u ++ back) = u := by
  have hreverse : ∀ c ∈ back.reverse, isBlank c := fun c hc => hback c (List.mem_reverse.1 hc)
  have hhead : ∀ c ∈ u.reverse.head?, isBlank c = false := by rwa [List.head?_reverse]
  rw [trimRight, List.reverse_append, List.dropWhile_append_of_pos hreverse,
    dropWhile_of_head? hhead, List.reverse_reverse]

/-- What is left of a text is determined by where the blanks stand. -/
theorem trims_iff {t u : Text} : Trims isBlank t u ↔ u = t.trim isBlank := by
  constructor
  · rintro ⟨front, back, rfl, hfront, hback, hfirst, hlast⟩
    rw [trim, trimLeft, List.dropWhile_append_of_pos hfront]
    cases u with
    | nil =>
      rw [List.nil_append, List.dropWhile_eq_nil_iff.2 hback]
      rfl
    | cons c u =>
      have hhead : ∀ d ∈ (c :: u ++ back).head?, isBlank d = false := hfirst
      rw [dropWhile_of_head? hhead, trimRight_append hback hlast]
  · rintro rfl
    have hright : ∀ v : Text, trimRight isBlank v = v.rdropWhile isBlank := fun v => rfl
    rw [trim, trimLeft, hright]
    refine ⟨t.takeWhile isBlank, (t.dropWhile isBlank).rtakeWhile isBlank, ?_, ?_, ?_, ?_, ?_⟩
    · rw [List.rdropWhile_append_rtakeWhile, List.takeWhile_append_dropWhile]
    · exact fun c hc => List.mem_takeWhile_imp hc
    · exact fun c hc => List.mem_rtakeWhile_imp hc
    · intro c hc
      have hfirst := List.head?_dropWhile_not isBlank t
      obtain ⟨rest, hrest⟩ := List.rdropWhile_prefix isBlank (t.dropWhile isBlank)
      rw [← hrest, List.head?_append_of_ne_nil _ (List.ne_nil_of_mem (List.mem_of_mem_head? hc)),
        Option.mem_def.1 hc] at hfirst
      exact hfirst
    · intro c hc
      have hnonempty := List.ne_nil_of_mem (List.mem_of_mem_getLast? hc)
      have hlast := List.rdropWhile_last_not isBlank (t.dropWhile isBlank) hnonempty
      rw [List.getLast?_eq_some_getLast hnonempty] at hc
      rw [Option.some.inj hc] at hlast
      exact Bool.eq_false_iff.2 hlast

end HourlyUsage.Text
