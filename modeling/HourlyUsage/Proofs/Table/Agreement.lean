import HourlyUsage.Proofs.Table.Rows
/-!
# Tables that agree on some cells

What a scan finds under a key hangs on the requested cells of that key alone. Two tables that hold
the same requested cells below a stem have the same rows there, whatever else is in them.

Sources: the statements of `_fetch_batch` that select keys and cells.

Results:
* `Row.Ordered.ext`: a row is known by its key and its cells.
* `rows_eq_of_agrees`: tables that agree on the requested cells of some keys have the same rows
  under these.
-/
namespace HourlyUsage

namespace Row

variable {row row' : Row}

theorem Ordered.mem_cells_iff (h : row.Ordered) {f : Text} {cells : Cells}
    (hf : (f, cells) ∈ row.families) (q : Text) (v : Bytes) :
    (q, v) ∈ cells ↔ row.cell? f q = some v := by
  rw [h.cell?_eq_some_iff]
  constructor
  · intro hv
    exact ⟨cells, hf, hv⟩
  · rintro ⟨cells', hf', hv⟩
    have hfamily := (h.family_eq_iff f cells (h.nonempty _ hf)).2 hf
    have hfamily' := (h.family_eq_iff f cells' (h.nonempty _ hf')).2 hf'
    rwa [← hfamily, hfamily']

theorem Ordered.families_subset (h : row.Ordered) (h' : row'.Ordered)
    (hcells : ∀ f q, row.cell? f q = row'.cell? f q) {f : Text} {cells : Cells}
    (hf : (f, cells) ∈ row.families) : (f, cells) ∈ row'.families := by
  obtain ⟨⟨q, v⟩, hqv⟩ := List.exists_mem_of_ne_nil _ (h.nonempty _ hf)
  have hcell := (h.mem_cells_iff hf q v).1 hqv
  rw [hcells, h'.cell?_eq_some_iff] at hcell
  obtain ⟨cells', hf', -⟩ := hcell
  have hsame : cells = cells' := by
    refine eq_of_ascending ((h.qualifiers _ hf).imp Utf8.points_lt_iff.1)
      ((h'.qualifiers _ hf').imp Utf8.points_lt_iff.1) ?_
    rintro ⟨q, v⟩
    rw [h.mem_cells_iff hf, h'.mem_cells_iff hf', hcells]
  rwa [hsame]

/-- A row is known by its key and its cells. -/
theorem Ordered.ext (h : row.Ordered) (h' : row'.Ordered) (hkey : row.key = row'.key)
    (hcells : ∀ f q, row.cell? f q = row'.cell? f q) : row = row' := by
  have hfamilies : row.families = row'.families := by
    refine eq_of_ascending (h.families.imp Utf8.points_lt_iff.1)
      (h'.families.imp Utf8.points_lt_iff.1) fun f => ?_
    exact ⟨h.families_subset h' hcells, h'.families_subset h fun f q => (hcells f q).symm⟩
  cases row
  cases row'
  cases hkey
  cases hfamilies
  rfl

end Row

namespace Table

variable {t t' : Table} {columns : List (Text × Text)} {asked : Bytes → Bool}

/-- The tables hold the same requested cells under the keys asked for. -/
def Agrees (columns : List (Text × Text)) (asked : Bytes → Bool) (t t' : Table) : Prop :=
  ∀ key, asked key = true → ∀ f q, isRequested columns f q = true →
    t.cell? key f q = t'.cell? key f q

theorem Agrees.symm (h : Agrees columns asked t t') : Agrees columns asked t' t :=
  fun key hkey f q hrequested => (h key hkey f q hrequested).symm

/-- A row of one table under a key asked for is a row of every table that agrees with it. -/
theorem Agrees.mem_rows (h : Agrees columns asked t t') {row : Row} (hrow : row ∈ t.rows columns)
    (hkey : asked row.key = true) : row ∈ t'.rows columns := by
  obtain ⟨f, q, v, hrequested, hcell⟩ := (t.exists_row_iff columns row.key).1 ⟨row, hrow, rfl⟩
  rw [h row.key hkey f q hrequested] at hcell
  obtain ⟨row', hrow', hkey'⟩ :=
    (t'.exists_row_iff columns row.key).2 ⟨f, q, v, hrequested, hcell⟩
  have hsame : row = row' := by
    refine (ordered_of_mem_rows hrow).ext (ordered_of_mem_rows hrow') hkey'.symm fun f q => ?_
    rw [cell?_of_mem_rows hrow, cell?_of_mem_rows hrow', hkey']
    split
    · next hrequested => exact h row.key hkey f q hrequested
    · rfl
  rwa [hsame]

/-- Tables that agree on the requested cells of some keys have the same rows under these. -/
theorem rows_eq_of_agrees (h : Agrees columns asked t t') :
    (t.rows columns).filter (fun row => asked row.key) =
      (t'.rows columns).filter fun row => asked row.key := by
  refine eq_of_ascending ((t.rows_ascending columns).filter _)
    ((t'.rows_ascending columns).filter _) fun row => ?_
  rw [List.mem_filter, List.mem_filter]
  exact ⟨fun ⟨hrow, hkey⟩ => ⟨h.mem_rows hrow hkey, hkey⟩,
    fun ⟨hrow, hkey⟩ => ⟨h.symm.mem_rows hrow hkey, hkey⟩⟩

end Table

end HourlyUsage
