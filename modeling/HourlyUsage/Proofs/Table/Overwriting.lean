import HourlyUsage.Proofs.Table.Rows
/-!
# Writing over what is there

Several cells of a row are set one after the other. When they held just those values before, the
table is the same table afterwards, entry by entry.

Sources: the statement of `put_row` that inserts the cells.

Results:
* `cell?_putAll`: what a write says of every cell.
* `putAll_eq_self`: a write that can be seen in no cell has changed nothing at all.
-/
namespace HourlyUsage

namespace Assoc

variable {κ α : Type} [DecidableEq κ]

theorem get?_append (k : κ) (l l' : List (κ × α)) :
    get? k (l ++ l') = (get? k l).or (get? k l') := by
  induction l with
  | nil => rfl
  | cons e rest ih => by_cases h : e.1 = k <;> simp [get?, h, ih]

theorem get?_eq_none_iff (k : κ) (l : List (κ × α)) : get? k l = none ↔ k ∉ l.map (·.1) := by
  induction l with
  | nil => simp [get?]
  | cons e rest ih => by_cases h : e.1 = k <;> simp_all [get?, eq_comm]

end Assoc

namespace SortedMap

variable {κ α : Type} [LT κ] [LE κ] [Std.IsLinearOrder κ] [Std.LawfulOrderLT κ] [DecidableEq κ]

theorem ext_get? {m m' : SortedMap κ α} (h : ∀ k, m.get? k = m'.get? k) : m = m' := by
  have hmem : ∀ e, e ∈ m.entries ↔ e ∈ m'.entries := by
    rintro ⟨k, v⟩
    rw [← get?_eq_some_iff, ← get?_eq_some_iff, h]
  have heq : m.entries = m'.entries := eq_of_ascending m.ascending m'.ascending hmem
  cases m
  cases m'
  cases heq
  rfl

variable [DecidableLT κ]

theorem update_update (m : SortedMap κ α) (k : κ) (f g : Option α → α) :
    (m.update k f).update k g = m.update k fun v => g (some (f v)) := by
  apply ext_get?
  intro x
  rw [get?_update, get?_update, get?_update, get?_update, if_pos rfl]
  by_cases hx : x = k <;> simp [hx]

theorem foldl_update {β : Type} (m : SortedMap κ α) (k : κ) (f : β → Option α → α) (b : β)
    (rest : List β) :
    (b :: rest).foldl (fun m b => m.update k (f b)) m =
      m.update k fun v => rest.foldl (fun v b => f b (some v)) (f b v) := by
  induction rest generalizing m b with
  | nil => rfl
  | cons next rest ih =>
    rw [List.foldl_cons, ih, update_update]
    rfl

def insertAll (m : SortedMap κ α) (entries : List (κ × α)) : SortedMap κ α :=
  entries.foldl (fun m e => m.insert e.1 e.2) m

theorem update_of_get? {m : SortedMap κ α} {k : κ} {v : α} (h : m.get? k = some v)
    {f : Option α → α} (hf : f (some v) = v) : m.update k f = m := by
  apply ext_get?
  intro x
  rw [get?_update]
  by_cases hx : x = k
  · rw [if_pos hx, hx, h, hf]
  · rw [if_neg hx]

end SortedMap

namespace Table

/-- The table with some cells of a row set, one after the other. -/
def putAll (t : Table) (key : Bytes) (family : Text) (cells : Cells) : Table :=
  cells.foldl (fun t cell => t.put key family cell.1 cell.2) t

theorem putAll_cons (t : Table) (key : Bytes) (family : Text) (cell : Text × Bytes)
    (rest : Cells) :
    t.putAll key family (cell :: rest) =
      (t.put key family cell.1 cell.2).putAll key family rest := rfl

section

variable (t : Table) (key : Bytes) (family : Text)

/-- The last value that a write has for a cell is there afterwards, and every other cell is as it
was. -/
theorem cell?_putAll (cells : Cells) (key' : Bytes) (family' q : Text) :
    (t.putAll key family cells).cell? key' family' q =
      (if key' = key ∧ family' = family then Assoc.get? q cells.reverse else none).or
        (t.cell? key' family' q) := by
  induction cells generalizing t with
  | nil => simp [putAll, Assoc.get?]
  | cons cell rest ih =>
    rw [putAll_cons, ih, cell?_put, List.reverse_cons, Assoc.get?_append]
    by_cases hrow : key' = key ∧ family' = family
    · obtain ⟨rfl, rfl⟩ := hrow
      by_cases hq : q = cell.1
      · simp [Assoc.get?, hq]
      · simp [Assoc.get?, hq, Ne.symm hq]
    · have hother : ¬ (key' = key ∧ family' = family ∧ q = cell.1) := fun h => hrow ⟨h.1, h.2.1⟩
      rw [if_neg hrow, if_neg hrow, if_neg hother]

theorem cell?_putAll_of_not_mem {key' : Bytes} {family' q : Text} {cells : Cells}
    (h : key' = key → family' = family → q ∉ cells.map (·.1)) :
    (t.putAll key family cells).cell? key' family' q = t.cell? key' family' q := by
  rw [cell?_putAll]
  split
  · next hrow =>
    rw [(Assoc.get?_eq_none_iff q cells.reverse).2, Option.none_or]
    rw [List.map_reverse, List.mem_reverse]
    exact h hrow.1 hrow.2
  · exact Option.none_or

theorem isSome_cell?_putAll {q : Text} {cells : Cells}
    (h : (t.cell? key family q).isSome = true ∨ q ∈ cells.map (·.1)) :
    ((t.putAll key family cells).cell? key family q).isSome = true := by
  rw [cell?_putAll, if_pos ⟨rfl, rfl⟩, Option.isSome_or, Bool.or_eq_true]
  refine h.symm.imp (fun hq => ?_) id
  rw [← Option.ne_none_iff_isSome, Ne, Assoc.get?_eq_none_iff, List.map_reverse, List.mem_reverse]
  exact not_not_intro hq

/-- A write that can be seen in none of its cells has changed nothing. -/
theorem putAll_eq_self {cells : Cells}
    (h : ∀ q ∈ cells.map (·.1),
      (t.putAll key family cells).cell? key family q = t.cell? key family q) :
    t.putAll key family cells = t := by
  cases cells with
  | nil => rfl
  | cons cell rest =>
    have hsame : ∀ q, (t.putAll key family (cell :: rest)).cell? key family q =
        t.cell? key family q := by
      intro q
      by_cases hq : q ∈ (cell :: rest).map (·.1)
      · exact h q hq
      · exact t.cell?_putAll_of_not_mem key family fun _ _ => hq
    -- The first cell was there before, and so were its row and its family.
    have hthere : ((t.putAll key family (cell :: rest)).cell? key family cell.1).isSome = true :=
      t.isSome_cell?_putAll key family (.inr (List.mem_cons_self ..))
    rw [hsame, Option.isSome_iff_exists] at hthere
    obtain ⟨v, hv⟩ := hthere
    obtain ⟨x, hx, hxv⟩ := Option.bind_eq_some_iff.1 hv
    obtain ⟨m, hm, -⟩ := Option.bind_eq_some_iff.1 hxv
    have hwhole : t.putAll key family (cell :: rest) =
        SortedMap.update t key fun families => (families.getD .empty).update family fun cells =>
          (cells.getD .empty).insertAll (cell :: rest) := by
      simp only [putAll, put, SortedMap.foldl_update]
      congr 1
      funext families
      exact SortedMap.foldl_update (families.getD .empty) family
        (fun cell cells => (cells.getD .empty).insert cell.1 cell.2) cell rest
    have hinsert : m.insertAll (cell :: rest) = m := by
      apply SortedMap.ext_get?
      intro q
      have hq := hsame q
      rw [hwhole] at hq
      unfold cell? at hq
      rw [SortedMap.get?_update, if_pos rfl, hx] at hq
      simpa [SortedMap.get?_update, hm] using hq
    rw [hwhole]
    refine SortedMap.update_of_get? hx (SortedMap.update_of_get? hm ?_)
    rw [Option.getD_some]
    exact hinsert

end

end Table

end HourlyUsage
