import HourlyUsage.Cell
import HourlyUsage.SortedMap
/-!
# The cells table and its rows

A table holds one value for each row key, column family and qualifier. It is kept sorted on all
three levels, in the order of octets and of code points, so a walk over it meets the rows in key
order. `cell?` is its view: `cell?_put` says that a write changes the named cell only.

A row is what a scan hands over: its key and, family by family, the cells that were asked for. A
scan's counters grow by the sizes of the rows that it hands over.

Sources: the table `cells`, the statement that inserts a cell in `put_row`, those that select cells
in `_fetch_batch`; `Row` with `family`, `is_empty`, `size` and `byte_size`; `ScanMetrics` with
`record`.
-/
namespace HourlyUsage

/-! ## Rows -/

/-- A row: key, families, cells. Each family occurs once and each qualifier once in its family
(`Row`). -/
structure Row where
  key : Bytes
  families : List (Text × Cells)
  deriving DecidableEq

namespace Row

def family (row : Row) (name : Text) : Cells := (Assoc.get? name row.families).getD []

/-- Whether the row has no cell. -/
def isEmpty (row : Row) : Bool := row.families.all fun (_, cells) => cells.isEmpty

def total (ns : List Nat) : Nat := ns.foldr (· + ·) 0

def size (row : Row) : Nat := total (row.families.map fun (_, cells) => cells.length)

/-- The size of one cell: octets of the key and the value, code points of the column's name. -/
def cellSize (key : Bytes) (family : Text) (cell : Text × Bytes) : Nat :=
  key.length + family.length + cell.1.length + cell.2.length

/-- The size of the row: the sum over its cells (`byte_size`). -/
def byteSize (row : Row) : Nat :=
  total (row.families.map fun (family, cells) => total (cells.map (cellSize row.key family)))

end Row

structure Metrics where
  rows : Nat := 0
  columns : Nat := 0
  bytes : Nat := 0
  /-- Batches fetched. -/
  roundTrips : Nat := 0
  deriving DecidableEq

namespace Metrics

/-- One more row was handed over (`record`). -/
def record (m : Metrics) (row : Row) : Metrics :=
  { m with
    rows := m.rows + 1
    columns := m.columns + row.size
    bytes := m.bytes + row.byteSize }

/-- One more batch was fetched. -/
def fetched (m : Metrics) : Metrics := { m with roundTrips := m.roundTrips + 1 }

end Metrics

/-! ## The table -/

abbrev RowCells := SortedMap Text (SortedMap Text Bytes)

abbrev Table := SortedMap Bytes RowCells

namespace Table

def cell? (t : Table) (key : Bytes) (family qualifier : Text) : Option Bytes :=
  (SortedMap.get? t key).bind fun families =>
    (families.get? family).bind fun cells => cells.get? qualifier

/-- The table with one cell set. -/
def put (t : Table) (key : Bytes) (family qualifier : Text) (value : Bytes) : Table :=
  SortedMap.update t key fun families =>
    (families.getD .empty).update family fun cells =>
      (cells.getD .empty).insert qualifier value

/-- A write sets the named cell and leaves every other one as it was. -/
theorem cell?_put (t : Table) (key key' : Bytes) (family family' qualifier qualifier' : Text)
    (value : Bytes) :
    (t.put key family qualifier value).cell? key' family' qualifier' =
      if key' = key ∧ family' = family ∧ qualifier' = qualifier then some value
      else t.cell? key' family' qualifier' := by
  unfold cell? put
  rw [SortedMap.get?_update]
  by_cases hk : key' = key
  · subst hk
    rw [if_pos rfl, Option.bind_some, SortedMap.get?_update]
    by_cases hf : family' = family
    · subst hf
      rw [if_pos rfl, Option.bind_some, SortedMap.get?_insert]
      by_cases hq : qualifier' = qualifier
      · simp [hq]
      · rw [if_neg hq, if_neg (by simp [hq])]
        cases SortedMap.get? t key' with
        | none => rfl
        | some families =>
          simp only [Option.getD_some, Option.bind_some]
          cases families.get? family' <;> rfl
    · rw [if_neg hf, if_neg (by simp [hf])]
      cases SortedMap.get? t key' <;> rfl
  · rw [if_neg hk, if_neg (by simp [hk])]

/-- Whether a column is asked for; no columns at all stand for every column. -/
def isRequested (columns : List (Text × Text)) (family qualifier : Text) : Bool :=
  columns.isEmpty || columns.contains (family, qualifier)

/-- The requested cells of a row, without the families that have none. -/
def restrict (columns : List (Text × Text)) (families : RowCells) : List (Text × Cells) :=
  families.entries.filterMap fun (family, cells) =>
    match cells.entries.filter fun (qualifier, _) => isRequested columns family qualifier with
    | [] => none
    | cells => some (family, cells)

/-- The row that a scan for some columns makes of an entry; `none` if it holds none of them. -/
def row? (columns : List (Text × Text)) (entry : Bytes × RowCells) : Option Row :=
  match restrict columns entry.2 with
  | [] => none
  | families => some ⟨entry.1, families⟩

/-- The rows of the table that hold a requested cell, in key order. -/
def rows (t : Table) (columns : List (Text × Text)) : List Row := t.entries.filterMap (row? columns)

end Table

end HourlyUsage
