import HourlyUsage.Log.Basic
import HourlyUsage.Store.Basic
import HourlyUsage.Table.Scan
/-!
# The host of stores

`Host` is everything that outlives a call: databases and connections, stores, scanners and their
iterations, the memories of filters, and the log. Every operation takes the worker that calls it
and the host before the call, and gives its answer and the host after the call.

Sources: `SqliteKVStore` with `open`, `bootstrap`, `get_connection`, `close`, `close_all`,
`checkpoint_wal` and `put_row`.
-/
namespace HourlyUsage

abbrev StoreId := Nat

abbrev ScannerId := Nat

abbrev IterationId := Nat

/-- An open scan. -/
structure Scanner where
  connection : ConnectionId
  scan : Scan
  isClosed : Bool := false
  metrics : Metrics := {}

/-- One walk over the rows of a scanner. -/
structure Iteration where
  scanner : ScannerId
  progress : Progress := .fresh

/-- Stores, scanners and what they work on. -/
structure Host where
  engine : Engine
  stores : List Store := []
  scanners : List Scanner := []
  iterations : List Iteration := []
  /-- The while-match filters that have rejected a row. -/
  spent : Spent := []
  /-- The number of the next while-match filter. -/
  nextFilter : Nat := 0
  /-- What was logged, last entry first. -/
  log : List Log.Entry := []

namespace Host

/-- A host with an empty disk and no stores. -/
def ofDisk (disk : Disk) : Host := { engine := { disk } }

def note (h : Host) (e : Log.Entry) : Host := { h with log := e :: h.log }

def newFilter (h : Host) : Nat × Host := (h.nextFilter, { h with nextFilter := h.nextFilter + 1 })

def store (h : Host) (s : StoreId) : Store := h.stores.getD s { path := [] }

def setStore (h : Host) (s : StoreId) (store : Store) : Host :=
  { h with stores := h.stores.set s store }

/-- A new store for a path; nothing is touched yet. -/
def addStore (h : Host) (path : Text) : StoreId × Host :=
  (h.stores.length, { h with stores := h.stores ++ [{ path }] })

/-! ## Connections -/

/-- The worker's connection, made if there is none of the current generation (`get_connection`). -/
def connection (w : Worker) (s : StoreId) (h : Host) : Except StoreError ConnectionId × Host :=
  let store := h.store s
  match store.current? w with
  | some c => (.ok c, h)
  | none =>
    match h.engine.connect store.path with
    | (.error fault, engine) =>
      (.error (.unavailable (.connect store.path) fault), { h with engine })
    | (.ok c, engine) => (.ok c, { h with engine }.setStore s (store.adopt w c))

/-- Closes the worker's connection (`close`). -/
def close (w : Worker) (s : StoreId) (h : Host) : Host :=
  let store := h.store s
  match (store.slot w).connection with
  | none => h
  | some c => { h with engine := h.engine.close c }.setStore s (store.release w c)

/-- Closes the connections of every worker; a worker that comes back gets a new one
(`close_all`). -/
def closeAll (w : Worker) (s : StoreId) (h : Host) : Host :=
  let store := h.store s
  let engine := store.connections.foldl Engine.close h.engine
  ({ h with engine }.setStore s (store.retire w)).note <| .info <|
    Text.concat [text "Closed ", Numeral.ofNat store.connections.length,
      text " usage store connection(s)"]

/-- Closes the worker's connection behind the store's back. -/
def sever (w : Worker) (s : StoreId) (h : Host) : Except StoreError Unit × Host :=
  match h.connection w s with
  | (.error e, h) => (.error e, h)
  | (.ok c, h) => (.ok (), { h with engine := h.engine.close c })

/-! ## The table -/

/-- Makes the directories above the database file, the file and the cells table, as far as they are
missing (`bootstrap`). -/
def bootstrap (w : Worker) (s : StoreId) (h : Host) : Except StoreError Unit × Host :=
  let path := (h.store s).path
  match h.engine.disk.makeParents path with
  | .error fault => (.error (.unavailable (.bootstrap path) (.file fault)), h)
  | .ok disk =>
    match { h with engine := { h.engine with disk } }.connection w s with
    | (.error e, h) => (.error e, h)
    | (.ok c, h) =>
      match h.engine.ensureTable c with
      | (.error fault, engine) => (.error (.unavailable (.bootstrap path) fault), { h with engine })
      | (.ok (), engine) =>
        (.ok (), { h with engine }.note (.info (text "HDFS usage store initialized: " ++ path)))

/-- A new store for a path, with its table (`open`). -/
def openStore (w : Worker) (path : Text) (h : Host) : Except StoreError StoreId × Host :=
  let (s, h) := h.addStore path
  match h.bootstrap w s with
  | (.error e, h) => (.error e, h)
  | (.ok (), h) => (.ok s, h)

/-- Writes cells of one family of a row (`put_row`). -/
def putRow (w : Worker) (s : StoreId) (key : Bytes) (family : Text) (cells : Cells) (h : Host) :
    Except StoreError Unit × Host :=
  match h.connection w s with
  | (.error e, h) => (.error e, h)
  | (.ok c, h) =>
    match h.engine.put c key family cells with
    | (.error (.fault fault), engine) =>
      (.error (.unavailable (.write (h.store s).path) fault), { h with engine })
    | (.error (.notEncodable e), engine) => (.error (.notEncodable e), { h with engine })
    | (.ok (), engine) => (.ok (), { h with engine })

/-- Removes the cells table. -/
def dropTable (w : Worker) (s : StoreId) (h : Host) :
    Except StoreError (Except Fault Unit) × Host :=
  match h.connection w s with
  | (.error e, h) => (.error e, h)
  | (.ok c, h) =>
    let (result, engine) := h.engine.dropTable c
    (.ok result, { h with engine })

/-- What is logged when the log of a database could not be brought into its main file. -/
def checkpointFailed (message : Text) : Log.Entry :=
  .warning (text "WAL checkpoint failed: " ++ message)

/-- Brings the log of the database into its main file (`checkpoint_wal`). -/
def checkpoint (w : Worker) (s : StoreId) (h : Host) : Host :=
  match h.connection w s with
  | (.error e, h) => h.note (checkpointFailed e.message)
  | (.ok c, h) =>
    match h.engine.checkpoint c with
    | .error fault => h.note (checkpointFailed fault.message)
    | .ok () => h.note (.info (text "Usage store WAL checkpoint complete"))

end Host

end HourlyUsage
