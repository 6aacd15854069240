import HourlyUsage.Database.Engine
import HourlyUsage.Wording
/-!
# Stores

A store stands for one database file. Each worker that uses it has a connection of its own, kept in
the worker's slot; the store lists the connections that it has made and not closed. Closing all of
them at once starts a new generation: the other workers' slots stay as they are, and a slot of an
older generation counts for nothing.

Sources: `SqliteKVStore`: what it keeps for each thread and for all, and the texts of
`StoreUnavailableError`.
-/
namespace HourlyUsage

/-- Who uses a store. -/
inductive Worker where
  | main
  | named (name : Text)
  /-- The worker that answers requests. -/
  | requests
  deriving DecidableEq

/-- What a worker has of a store: a connection and the generation in which it was made. -/
structure Slot where
  connection : Option ConnectionId := none
  generation : Option Nat := none
  deriving DecidableEq

structure Store where
  path : Text
  generation : Nat := 0
  connections : List ConnectionId := []
  slots : List (Worker × Slot) := []
  deriving DecidableEq

namespace Store

def slot (store : Store) (w : Worker) : Slot := (Assoc.get? w store.slots).getD {}

/-- The connection that a worker can use, if it has one of the current generation
(`get_connection`). -/
def current? (store : Store) (w : Worker) : Option ConnectionId :=
  let slot := store.slot w
  if slot.generation = some store.generation then slot.connection else none

/-- The store after a worker was given a new connection. -/
def adopt (store : Store) (w : Worker) (c : ConnectionId) : Store :=
  { store with
    connections := store.connections ++ [c]
    slots := Assoc.set w ⟨some c, some store.generation⟩ store.slots }

def vacate (store : Store) (w : Worker) : Store :=
  { store with slots := Assoc.set w { store.slot w with connection := none } store.slots }

/-- The store after a worker gave its connection back. -/
def release (store : Store) (w : Worker) (c : ConnectionId) : Store :=
  { store with connections := store.connections.erase c }.vacate w

/-- The store after all connections were given up at once. -/
def retire (store : Store) (w : Worker) : Store :=
  { store with connections := [], generation := store.generation + 1 }.vacate w

end Store

/-- What a store was doing when the database failed. -/
inductive Activity where
  | connect (path : Text)
  | bootstrap (path : Text)
  | write (path : Text)
  | openScanner (path : Text)
  | scan
  deriving DecidableEq

/-- Why a store operation fails. -/
inductive StoreError where
  /-- The database cannot be used. -/
  | unavailable (activity : Activity) (fault : Fault)
  /-- A name holds what no database text can. -/
  | notEncodable (e : Utf8.EncodeError)
  /-- A batch of this size cannot be asked for. -/
  | batchTooLarge
  deriving DecidableEq

namespace StoreError

/-- The words for a fault of the database, with what it kept the store from doing. -/
def unavailableMessage (fault : Fault) : Activity → Text
  | .connect path =>
    Text.concat [text "Could not connect to store ", path, text ": ", fault.message]
  | .bootstrap path =>
    Text.concat [text "Could not initialize store at ", path, text ": ", fault.message]
  | .write path => Text.concat [text "Write to store ", path, text " failed: ", fault.message]
  | .openScanner path =>
    Text.concat [text "Could not open scanner on ", path, text ": ", fault.message]
  | .scan => text "Scan failed: " ++ fault.message

def message : StoreError → Text
  | unavailable activity fault => unavailableMessage fault activity
  | notEncodable e => e.message
  | batchTooLarge => text "Python int too large to convert to SQLite INTEGER"

end StoreError

end HourlyUsage
