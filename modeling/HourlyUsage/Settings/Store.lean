import HourlyUsage.Disk.Basic
import HourlyUsage.Settings.Environment
import HourlyUsage.Validation
/-!
# Settings of the usage store

The path of the database file and the number of rows in a batch. They are looked up by name, but
values handed over directly come first.

Sources: `StoreSettings`, `db_path_resolved`.
-/
namespace HourlyUsage

structure StoreSettings where
  path : Text
  batchSize : Int
  deriving DecidableEq

namespace StoreSettings

open Validation

def pathName : Text := text "HDFS_STATS_DB_PATH"

def batchSizeName : Text := text "HDFS_STATS_SCAN_BATCH_SIZE"

def standard : StoreSettings := ⟨text "../.dbdata/hdfs_usage.db", 100⟩

/-- The batch sizes allowed. -/
def batchSizeBounds : Bounds := ⟨1, some 10000⟩

/-- A setting that must pass a check, or its standard value; the finding bears its name. -/
def setting {α : Type} (name : Text) (value? : Option Json) (standard : α)
    (check : Json → Except Problem α) : Except (List Finding) α :=
  match value? with
  | none => .ok standard
  | some v => (check v).mapError fun p => [⟨[.name name], p⟩]

def findings {α : Type} : Except (List Finding) α → List Finding
  | .ok _ => []
  | .error fs => fs

def checkInt (bounds : Bounds) (v : Json) : Except Problem Int :=
  match intOfJson v with
  | .ok n => bounds.check n
  | .error p => .error p

/-- The settings, from values handed over by exact name and from an environment
(`StoreSettings`). -/
def load (given : List (Text × Json)) (environment : Environment) :
    Except (List Finding) StoreSettings :=
  let value? (name : Text) : Option Json :=
    (Assoc.get? name given).or ((environment.value? name).map .str)
  let path := setting pathName (value? pathName) standard.path textOfJson
  let batchSize :=
    setting batchSizeName (value? batchSizeName) standard.batchSize (checkInt batchSizeBounds)
  match path, batchSize with
  | .ok path, .ok batchSize => .ok ⟨path, batchSize⟩
  | path, batchSize => .error (findings path ++ findings batchSize)

/-- The place of the database file, seen from a working directory. -/
def place (s : StoreSettings) (workingDirectory : Path) : Path :=
  Path.resolve workingDirectory s.path

/-- The absolute path of the database file (`db_path_resolved`). -/
def resolvedPath (s : StoreSettings) (workingDirectory : Path) : Text :=
  Path.toText (s.place workingDirectory)

end StoreSettings

end HourlyUsage
