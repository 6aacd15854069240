import HourlyUsage.Disk.Basic
import HourlyUsage.Table.Basic
/-!
# Transactions and faults

A database has one committed state, counted by a version. A connection reads the committed state
until a transaction fixes what it sees: `begun` has fixed nothing yet, `reading` sees the state as
it was at its first read, and `writing` sees its own uncommitted work. At most one connection of a
database is writing.

The faults are those that the work on a database file can meet, each with its words and its kind.

Sources: the state of a connection between the statements of `put_row`, `_fetch_batch` and
`checkpoint_wal`; the words of the database for its faults.
-/
namespace HourlyUsage

/-- The committed state of a database. -/
structure Database where
  /-- The cells table, once it has been created. -/
  cells : Option Table := none
  /-- The number of changes committed so far. -/
  version : Nat := 0

/-- What a connection is in the middle of. -/
inductive Transaction where
  | idle
  | begun
  /-- It sees `snapshot`, which was committed as `version`. -/
  | reading (snapshot : Table) (version : Nat)
  /-- It has done `work` and not committed it. -/
  | writing (work : Option Table)

namespace Transaction

/-- The cells table as a connection sees it. -/
def view (d : Database) : Transaction → Option Table
  | idle => d.cells
  | begun => d.cells
  | reading snapshot _ => some snapshot
  | writing work => work

/-- Whether there is uncommitted work. -/
def isWriting : Transaction → Bool
  | writing _ => true
  | _ => false

/-- A transaction starts, unless one is under way. -/
def start : Transaction → Transaction
  | idle => begun
  | t => t

/-- A read fixes what a transaction sees. -/
def read (d : Database) : Transaction → Transaction
  | begun =>
    match d.cells with
    | some t => reading t d.version
    | none => begun
  | t => t

/-- The state of the cells table that a write starts from; `none` if what the transaction sees is no
longer the committed state. -/
def base? (d : Database) : Transaction → Option (Option Table)
  | writing work => some work
  | reading snapshot version => if version = d.version then some (some snapshot) else none
  | _ => some d.cells

/-- The database after a commit. -/
def commit (d : Database) : Transaction → Database
  | writing work => ⟨work, d.version + 1⟩
  | _ => d

end Transaction

/-! ## Faults -/

/-- Why a database operation fails. -/
inductive Fault where
  /-- The connection has been closed. -/
  | closed
  /-- The database has no cells table. -/
  | noTable
  /-- There is no database file, and none can be made. -/
  | cannotOpen
  /-- The file holds something else. -/
  | notADatabase
  /-- Another connection is writing, or has written since this one started to read. -/
  | locked
  /-- The connection itself is in the middle of a transaction. -/
  | busy
  /-- A statement has an expression that is nested too deeply. -/
  | tooDeep
  /-- A statement has more variables than can be given values. -/
  | tooManyVariables
  /-- The directory above the file cannot be made. -/
  | file (fault : FileFault)
  deriving DecidableEq

namespace Fault

def message : Fault → Text
  | closed => text "Cannot operate on a closed database."
  | noTable => text "no such table: cells"
  | cannotOpen => text "unable to open database file"
  | notADatabase => text "file is not a database"
  | locked => text "database is locked"
  | busy => text "database table is locked"
  | tooDeep => text "Expression tree is too large (maximum depth 1000)"
  | tooManyVariables => text "too many SQL variables"
  | file fault => fault.message

def kind : Fault → Text
  | closed => text "ProgrammingError"
  | notADatabase => text "DatabaseError"
  | file fault => fault.kind
  | noTable | cannotOpen | locked | busy | tooDeep | tooManyVariables => text "OperationalError"

end Fault

end HourlyUsage
