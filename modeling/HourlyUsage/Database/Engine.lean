import HourlyUsage.Database.Transaction
/-!
# Databases and their connections

The engine keeps databases, the disk that their files are on, and every connection ever made. A
write goes cell by cell: it starts a transaction, takes the write lock with the first cell, and
commits after the last one. Where it breaks off, the transaction stays as it is; a later commit on
the same connection commits that work too.

Sources: `_create_connection`, `_close_connection`, and the statements of `bootstrap`, `put_row` and
`checkpoint_wal` with the rules of the database for transactions, locks and snapshots.

Left out: the write lock that is kept by a write that fails because another connection has removed
the table (`put` leaves the engine as it was); the snapshots of other connections that go stale when
a log is brought into its main file (`checkpoint` changes nothing); the limits of the database on
the length of a statement and of a value.
-/
namespace HourlyUsage

abbrev DatabaseId := Nat

abbrev ConnectionId := Nat

structure Connection where
  database : DatabaseId
  isOpen : Bool := true
  transaction : Transaction := .idle

/-- Databases, files and connections. -/
structure Engine where
  disk : Disk
  databases : List Database := []
  connections : List Connection := []

/-- Why cells are not written. -/
inductive WriteError where
  | fault (f : Fault)
  | notEncodable (e : Utf8.EncodeError)
  deriving DecidableEq

namespace Engine

/-! ## Databases and connections by number -/

def database (e : Engine) (d : DatabaseId) : Database := e.databases.getD d {}

/-- The connection with this number; one that was never made counts as closed. -/
def connection (e : Engine) (c : ConnectionId) : Connection :=
  e.connections.getD c { database := 0, isOpen := false }

/-- The database of a connection. -/
def databaseOf (e : Engine) (c : ConnectionId) : Database := e.database (e.connection c).database

/-- The engine with the transaction of a connection replaced. -/
def setTransaction (e : Engine) (c : ConnectionId) (t : Transaction) : Engine :=
  { e with connections := e.connections.modify c fun conn => { conn with transaction := t } }

def setDatabase (e : Engine) (d : DatabaseId) (state : Database) : Engine :=
  { e with databases := e.databases.set d state }

/-! ## Opening and closing -/

/-- A new database, and its number. -/
def addDatabase (e : Engine) : DatabaseId × Engine :=
  (e.databases.length, { e with databases := e.databases ++ [{}] })

/-- A new connection to a database, and its number. -/
def addConnection (e : Engine) (d : DatabaseId) : ConnectionId × Engine :=
  (e.connections.length, { e with connections := e.connections ++ [{ database := d }] })

/-- Whether a path stands for a database that is kept in memory for one connection. -/
def isPrivate (path : Text) : Bool := path.isEmpty || path = text ":memory:"

/-- Connects to the database file that a path names, making the file if there is none
(`_create_connection`). -/
def connect (e : Engine) (path : Text) : Except Fault ConnectionId × Engine :=
  if isPrivate path then
    let (d, e) := e.addDatabase
    let (c, e) := e.addConnection d
    (.ok c, e)
  else
    let place := Path.resolve e.disk.workingDirectory path
    match e.disk.node? place with
    | some .directory => (.error .cannotOpen, e)
    | some .junk => (.error .notADatabase, e)
    | some (.database d) =>
      let (c, e) := e.addConnection d
      (.ok c, e)
    | none =>
      if e.disk.isDirectory (Path.parent place) then
        let (d, e) := e.addDatabase
        let (c, e) := { e with disk := e.disk.set place (.database d) }.addConnection d
        (.ok c, e)
      else (.error .cannotOpen, e)

/-- The greatest size of a file that counts as a database without a table. -/
def emptyFileSize : Nat := 1

/-- Writes a file. An empty one counts as a database without a table, any other as no database. -/
def writeFile (e : Engine) (path : Text) (content : Bytes) : Engine :=
  let place := Path.resolve e.disk.workingDirectory path
  if content.length ≤ emptyFileSize then
    let (d, e) := e.addDatabase
    { e with disk := e.disk.set place (.database d) }
  else { e with disk := e.disk.set place .junk }

/-- Closes a connection; uncommitted work is lost. -/
def close (e : Engine) (c : ConnectionId) : Engine :=
  { e with
    connections := e.connections.modify c fun conn =>
      { conn with isOpen := false, transaction := .idle } }

/-! ## Reading -/

/-- The cells table as a connection sees it. -/
def view (e : Engine) (c : ConnectionId) : Except Fault Table :=
  let conn := e.connection c
  if !conn.isOpen then .error .closed
  else
    match conn.transaction.view (e.databaseOf c) with
    | none => .error .noTable
    | some t => .ok t

/-- What a read does to the connection that has read. -/
def afterRead (e : Engine) (c : ConnectionId) : Engine :=
  e.setTransaction c ((e.connection c).transaction.read (e.databaseOf c))

/-! ## Writing -/

/-- Whether some other connection of the same database is writing. -/
def isLockedFor (e : Engine) (c : ConnectionId) : Bool :=
  (List.range e.connections.length).any fun other =>
    other != c && (e.connection other).database == (e.connection c).database &&
      (e.connection other).transaction.isWriting

/-- Takes the write lock, and gives the state that the write starts from. -/
def lock (e : Engine) (c : ConnectionId) : Except Fault (Option Table) :=
  let conn := e.connection c
  if conn.transaction.isWriting then .ok (conn.transaction.view (e.databaseOf c))
  else if e.isLockedFor c then .error .locked
  else
    match conn.transaction.base? (e.databaseOf c) with
    | none => .error .locked
    | some base => .ok base

/-- Commits what a connection is in the middle of. -/
def commit (e : Engine) (c : ConnectionId) : Engine :=
  let conn := e.connection c
  (e.setDatabase conn.database (conn.transaction.commit (e.databaseOf c))).setTransaction c .idle

/-- Writes one cell into the transaction of a connection. -/
def putCell (e : Engine) (c : ConnectionId) (key : Bytes) (family : Text) (cell : Text × Bytes) :
    Except WriteError Unit × Engine :=
  match Utf8.encode family, Utf8.encode cell.1 with
  | .error x, _ => (.error (.notEncodable x), e)
  | .ok _, .error x => (.error (.notEncodable x), e)
  | .ok _, .ok _ =>
    match e.lock c with
    | .error f => (.error (.fault f), e)
    | .ok base =>
      (.ok (), e.setTransaction c (.writing (base.map fun t => t.put key family cell.1 cell.2)))

/-- Writes cells one after the other, up to the first that fails. -/
def putCells (e : Engine) (c : ConnectionId) (key : Bytes) (family : Text) :
    Cells → Except WriteError Unit × Engine
  | [] => (.ok (), e)
  | cell :: rest =>
    match e.putCell c key family cell with
    | (.error x, e) => (.error x, e)
    | (.ok (), e) => putCells e c key family rest

/-- Writes cells of one family of a row and commits them. -/
def put (e : Engine) (c : ConnectionId) (key : Bytes) (family : Text) (cells : Cells) :
    Except WriteError Unit × Engine :=
  match e.view c with
  | .error f => (.error (.fault f), e)
  | .ok _ =>
    match (e.setTransaction c (e.connection c).transaction.start).putCells c key family cells with
    | (.error x, e) => (.error x, e)
    | (.ok (), e) => (.ok (), e.commit c)

/-! ## The cells table as a whole -/

/-- Commits what a connection is in the middle of, and makes the cells table if it is missing. -/
def ensureTable (e : Engine) (c : ConnectionId) : Except Fault Unit × Engine :=
  if !(e.connection c).isOpen then (.error .closed, e)
  else
    let e := e.commit c
    match (e.databaseOf c).cells with
    | some _ => (.ok (), e)
    | none =>
      match e.lock c with
      | .error f => (.error f, e)
      | .ok _ => (.ok (), (e.setTransaction c (.writing (some .empty))).commit c)

/-- Removes the cells table; inside a transaction the removal is part of its work. -/
def dropTable (e : Engine) (c : ConnectionId) : Except Fault Unit × Engine :=
  match e.view c with
  | .error f => (.error f, e)
  | .ok _ =>
    match e.lock c with
    | .error f => (.error f, e)
    | .ok _ =>
      let dropped := e.setTransaction c (.writing none)
      match (e.connection c).transaction with
      | .idle => (.ok (), dropped.commit c)
      | _ => (.ok (), dropped)

/-- Whether the log of a database can be brought into its main file: not in the middle of the
connection's own transaction. -/
def checkpoint (e : Engine) (c : ConnectionId) : Except Fault Unit :=
  let conn := e.connection c
  if !conn.isOpen then .error .closed
  else
    match conn.transaction with
    | .idle | .begun => .ok ()
    | .reading _ _ | .writing _ => .error .busy

end Engine

end HourlyUsage
