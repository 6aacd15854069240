import HourlyUsage.Table.Scan
/-!
# What filters keep

A filter is asked about one row after the other and may remember its answers. `RowFilter.keep` says
the same without a memory, for all the rows at once: a while-match filter keeps the longest run of
rows at the front that its inner filter admits, any other filter every row that it admits.

Sources: `include_row` and `filter_all_remaining` of `RowFilter`, `PrefixFilter` and
`WhileMatchFilter`.

Results:
* `accepts_of_fresh`: what a filter that has rejected nothing answers, and what it remembers.
* `plainRows_of_fresh`: asked row by row, such a filter lets through what it keeps.
* `plainRows_of_exhausted`: a filter that says that no later row can pass lets none through.
-/
namespace HourlyUsage

namespace RowFilter

/-- What a filter that has rejected nothing answers about a key. -/
def admits : RowFilter → Bytes → Bool
  | all, _ => true
  | startsWith stem, key => stem.isPrefixOf key
  | whileMatch _ inner, key => inner.admits key

/-- The rows that the filter keeps of some rows in order, if it has rejected nothing before. -/
def keep : RowFilter → List Row → List Row
  | whileMatch _ inner, rows => rows.takeWhile fun row => inner.admits row.key
  | filter, rows => rows.filter fun row => filter.admits row.key

/-- The numbers of the while-match filters in a filter, itself included. -/
def numbers : RowFilter → List Nat
  | all => []
  | startsWith _ => []
  | whileMatch number inner => number :: inner.numbers

/-- The filter has rejected nothing, and none of its parts stands in it twice. -/
structure Fresh (spent : Spent) (filter : RowFilter) : Prop where
  nodup : filter.numbers.Nodup
  unspent : ∀ n ∈ filter.numbers, n ∉ spent

theorem Fresh.inner {spent : Spent} {number : Nat} {inner : RowFilter}
    (h : Fresh spent (whileMatch number inner)) : Fresh spent inner :=
  ⟨(List.nodup_cons.1 h.nodup).2, fun n hn => h.unspent n (List.mem_cons_of_mem _ hn)⟩

/-! ## One row -/

theorem accepts_of_fresh {spent : Spent} {filter : RowFilter} (h : Fresh spent filter)
    (key : Bytes) :
    filter.accepts spent key =
      (filter.admits key, if filter.admits key then spent else filter.numbers ++ spent) := by
  induction filter with
  | all => rfl
  | startsWith stem => cases hk : stem.isPrefixOf key <;> simp [accepts, admits, numbers, hk]
  | whileMatch number inner ih =>
    have hnot : number ∉ spent := h.unspent number (List.mem_cons_self ..)
    rw [accepts, if_neg hnot, ih h.inner]
    cases hk : inner.admits key <;> simp [admits, numbers, hk]

theorem isExhausted_iff (spent : Spent) (filter : RowFilter) :
    filter.isExhausted spent = true ↔ ∃ n ∈ filter.numbers, n ∈ spent := by
  induction filter with
  | all => simp [isExhausted, numbers]
  | startsWith _ => simp [isExhausted, numbers]
  | whileMatch number inner ih => simp [isExhausted, numbers, ih]

theorem isExhausted_mono {spent later : Spent} {filter : RowFilter}
    (h : filter.isExhausted spent = true) (hsub : ∀ n ∈ spent, n ∈ later) :
    filter.isExhausted later = true := by
  obtain ⟨n, hn, hmem⟩ := (isExhausted_iff spent filter).1 h
  exact (isExhausted_iff later filter).2 ⟨n, hn, hsub n hmem⟩

theorem mem_accepts {spent : Spent} (filter : RowFilter) (key : Bytes) :
    ∀ n ∈ spent, n ∈ (filter.accepts spent key).2 := by
  induction filter with
  | all => exact fun _ h => h
  | startsWith _ => exact fun _ h => h
  | whileMatch number inner ih =>
    intro n hn
    rw [accepts]
    split
    · exact hn
    · dsimp only
      split
      · exact ih n hn
      · exact List.mem_cons_of_mem _ (ih n hn)

theorem mem_of_mem_accepts {spent : Spent} (filter : RowFilter) (key : Bytes) :
    ∀ n ∈ (filter.accepts spent key).2, n ∈ spent ∨ n ∈ filter.numbers := by
  induction filter with
  | all => exact fun _ h => .inl h
  | startsWith _ => exact fun _ h => .inl h
  | whileMatch number inner ih =>
    intro n hn
    rw [accepts] at hn
    split at hn
    · exact .inl hn
    · dsimp only at hn
      split at hn
      · exact (ih n hn).imp_right (List.mem_cons_of_mem _)
      · rcases List.mem_cons.1 hn with rfl | hn
        · exact .inr (List.mem_cons_self ..)
        · exact (ih n hn).imp_right (List.mem_cons_of_mem _)

theorem accepts_of_exhausted {spent : Spent} {filter : RowFilter}
    (h : filter.isExhausted spent = true) (key : Bytes) : (filter.accepts spent key).1 = false := by
  induction filter with
  | all => cases h
  | startsWith _ => cases h
  | whileMatch number inner ih =>
    rw [accepts]
    split
    · rfl
    · next hnot =>
      have hinner : inner.isExhausted spent = true := by simpa [isExhausted, hnot] using h
      simp [ih hinner]

end RowFilter

/-! ## All rows -/

namespace Scan

theorem plainRows_none (spent : Spent) (rows : List Row) : plainRows none spent rows = rows := by
  induction rows with
  | nil => rfl
  | cons row rest ih => rw [plainRows]; simp only [ih]

theorem plainRows_some (filter : RowFilter) (spent : Spent) (row : Row) (rest : List Row) :
    plainRows (some filter) spent (row :: rest) =
      if (filter.accepts spent row.key).1 then
        row :: plainRows (some filter) (filter.accepts spent row.key).2 rest
      else plainRows (some filter) (filter.accepts spent row.key).2 rest := by
  rw [plainRows]
  cases h : filter.accepts spent row.key with
  | mk accepted later => cases accepted <;> rfl

theorem plainRows_of_exhausted {filter : RowFilter} {spent : Spent}
    (h : filter.isExhausted spent = true) (rows : List Row) :
    plainRows (some filter) spent rows = [] := by
  induction rows generalizing spent with
  | nil => rfl
  | cons row rest ih =>
    rw [plainRows_some, RowFilter.accepts_of_exhausted h, if_neg Bool.false_ne_true]
    exact ih (RowFilter.isExhausted_mono h (filter.mem_accepts row.key))

theorem plainRows_of_fresh {filter : RowFilter} {spent : Spent} (h : filter.Fresh spent)
    (rows : List Row) : plainRows (some filter) spent rows = filter.keep rows := by
  induction rows with
  | nil => cases filter <;> rfl
  | cons row rest ih =>
    rw [plainRows_some, RowFilter.accepts_of_fresh h]
    cases filter with
    | all => simpa [RowFilter.admits, RowFilter.keep] using ih
    | startsWith stem =>
      simp only [RowFilter.numbers, List.nil_append, ite_self, ih, RowFilter.keep,
        List.filter_cons]
    | whileMatch number inner =>
      rw [RowFilter.keep, List.takeWhile_cons]
      cases hk : inner.admits row.key with
      | true => simpa [RowFilter.admits, hk, RowFilter.keep] using ih
      | false =>
        -- The rejected row spends the filter, and nothing passes after it.
        have hspent : (RowFilter.whileMatch number inner).isExhausted
            ((RowFilter.whileMatch number inner).numbers ++ spent) = true := by
          simp [RowFilter.isExhausted, RowFilter.numbers]
        simp [RowFilter.admits, hk, plainRows_of_exhausted hspent]

end Scan

end HourlyUsage
