import HourlyUsage.Json.Printer
import HourlyUsage.Snapshot.Key
import HourlyUsage.Table.Basic
/-!
# Usage records

A record is one snapshot: its key, twelve counts and an owner, all from the cells of family `i`. A
column that the row lacks reads as zero or as the empty text, and the record remembers which
columns were present, so that a response can leave out the others.

Sources: `StatsRecord` with `total_cost` and `from_row`; `HdfsStatsResponse` with `from_record`.
-/
namespace HourlyUsage

inductive Count where
  | fileCount
  | dirCount
  | tmpFileCount
  | trashFileCount
  | accessCountTotal
  | spaceConsumed
  | quota
  | spaceQuota
  | tmpSpaceConsumed
  | trashSpaceConsumed
  | accessCost
  | storageCost
  deriving DecidableEq

namespace Count

def all : List Count :=
  [fileCount, dirCount, tmpFileCount, trashFileCount, accessCountTotal, spaceConsumed, quota,
    spaceQuota, tmpSpaceConsumed, trashSpaceConsumed, accessCost, storageCost]

/-- The column's name, in the table and in responses. -/
def name : Count → Text
  | fileCount => text "file_count"
  | dirCount => text "dir_count"
  | tmpFileCount => text "tmp_file_count"
  | trashFileCount => text "trash_file_count"
  | accessCountTotal => text "access_count_total"
  | spaceConsumed => text "space_consumed"
  | quota => text "quota"
  | spaceQuota => text "space_quota"
  | tmpSpaceConsumed => text "tmp_space_consumed"
  | trashSpaceConsumed => text "trash_space_consumed"
  | accessCost => text "access_cost"
  | storageCost => text "storage_cost"

end Count

inductive Column where
  | count (c : Count)
  | owner
  deriving DecidableEq

namespace Column

def all : List Column := Count.all.map count ++ [owner]

def name : Column → Text
  | count c => c.name
  | owner => text "owner"

/-- The columns in the order of a response. -/
def inResponse : List Column :=
  [count .fileCount, count .dirCount, count .tmpFileCount, count .trashFileCount,
    count .accessCountTotal, count .spaceConsumed, count .quota, count .spaceQuota,
    count .tmpSpaceConsumed, count .trashSpaceConsumed, owner, count .accessCost,
    count .storageCost]

end Column

def infoFamily : Text := text "i"

/-- The columns that a scan must fetch to build records. -/
def statsColumns : List (Text × Text) := Column.all.map fun c => (infoFamily, c.name)

/-- The usage of one path in one bucket (`StatsRecord`). -/
structure Record where
  key : SnapshotKey
  count : Count → Int
  owner : Text
  /-- Whether the row had the column. -/
  present : Column → Bool

namespace Record

/-- What the accesses and the storage cost together (`total_cost`). -/
def totalCost (r : Record) : Int := r.count .accessCost + r.count .storageCost

/-- The record that a row with this key holds (`from_row`). -/
def ofRow (key : SnapshotKey) (row : Row) : Except Utf8.DecodeError Record :=
  let info := row.family infoFamily
  (Cell.textColumn info Column.owner.name).map fun owner =>
    { key
      count := fun c => Cell.intColumn info c.name
      owner
      present := fun c => (Assoc.get? c.name info).isSome }

/-- Records are compared by key and values; which columns were present makes no difference. -/
def same (a b : Record) : Bool :=
  a.key = b.key && Count.all.all (fun c => a.count c = b.count c) && a.owner = b.owner

def value (r : Record) : Column → Json
  | .count c => .int (r.count c)
  | .owner => .str r.owner

/-- The fields of the response: the key, every column with null where it was absent, and the total
cost. -/
def responseFields (r : Record) : List (Text × Json) :=
  [(text "cluster", .str r.key.cluster), (text "bucket_start", .int r.key.bucketStart),
      (text "path", .str r.key.path)] ++
    Column.inResponse.map (fun c => (c.name, if r.present c then r.value c else .null)) ++
    [(text "total_cost", .int r.totalCost)]

def isGiven : Text × Json → Bool
  | (_, .null) => false
  | _ => true

/-- The response for a record; absent columns are left out (`HdfsStatsResponse`). -/
def response (r : Record) : Json := .obj (r.responseFields.filter isGiven)

def fullResponse (r : Record) : Json := .obj r.responseFields

end Record

end HourlyUsage
