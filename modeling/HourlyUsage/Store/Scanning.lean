import HourlyUsage.Query.Source
import HourlyUsage.Store.Host
/-!
# Scanning a store

A scanner reads through the connection that it was opened on, whatever becomes of the worker's slot.
Any number of iterations can be taken from it; they share its counters and its filter. A closed
scanner gives no more rows.

Sources: `open_scanner`; `SqliteScanner` with `__iter__`, `_column_clause`, `_fetch_batch` and
`close`.

Of the limits of the database two are here: on the depth of an expression and on the number of
variables in a statement. Left out: its limits on the length of a statement and of a value, and the
depth of calls, which filters that are wrapped many times can exceed.
-/
namespace HourlyUsage

namespace Host

def scanner (h : Host) (i : ScannerId) : Scanner :=
  h.scanners.getD i { connection := h.engine.connections.length, scan := {}, isClosed := true }

def setScanner (h : Host) (i : ScannerId) (scanner : Scanner) : Host :=
  { h with scanners := h.scanners.set i scanner }

def iteration (h : Host) (i : IterationId) : Iteration :=
  h.iterations.getD i { scanner := h.scanners.length, progress := .finished }

def setProgress (h : Host) (i : IterationId) (progress : Progress) : Host :=
  { h with iterations := h.iterations.modify i fun it => { it with progress } }

/-- Opens a scanner on the worker's connection (`open_scanner`). -/
def openScanner (w : Worker) (s : StoreId) (scan : Scan) (h : Host) :
    Except StoreError ScannerId × Host :=
  match h.connection w s with
  | (.error e, h) => (.error e, h)
  | (.ok c, h) =>
    if (h.engine.connection c).isOpen then
      (.ok h.scanners.length, { h with scanners := h.scanners ++ [{ connection := c, scan }] })
    else (.error (.unavailable (.openScanner (h.store s).path) .closed), h)

/-- Starts a new iteration over the rows of a scanner. -/
def iterate (i : ScannerId) (h : Host) : IterationId × Host :=
  (h.iterations.length, { h with iterations := h.iterations ++ [{ scanner := i }] })

/-- The batch sizes that a database can be asked for; its numbers have eight octets too. -/
def isBatchSize (n : Int) : Bool := -Cell.intBound ≤ n && n < Cell.intBound

/-- The greatest depth of an expression. -/
def mostDepth : Nat := 1000

/-- The greatest number of variables in a statement. -/
def mostVariables : Nat := 32766

/-- The depth of the condition that the keys of a batch are found by: a level for each column, and
three more (`_column_clause`). -/
def depth (scan : Scan) : Nat := scan.columns.length + 3

/-- The most keys whose cells can be asked for in one statement. It has a variable for each key and
two for each column. -/
def mostKeys (scan : Scan) : Nat := mostVariables - 2 * scan.columns.length

/-- What the statements of a scan see: on an open connection they are read before the table is
looked for. -/
def visible (scan : Scan) (view : Except Fault Table) : Except Fault Table :=
  match view with
  | .error .closed => .error .closed
  | view => if depth scan ≤ mostDepth then view else .error .tooDeep

/-- What the fetches of a scan find. The table must be visible, then the column names must be text
that a database can hold, then the batch size a number that it can; a batch of too many keys fails
when their cells are asked for (`_fetch_batch`). -/
def fetchable (scan : Scan) (view : Except Fault Table) : View StoreError where
  table :=
    match visible scan view with
    | .error fault => .error (.unavailable .scan fault)
    | .ok t =>
      match (scan.columns.flatMap fun (f, q) => [f, q]).findSome? (Utf8.surrogatesFrom? 0) with
      | some e => .error (.notEncodable e)
      | none => if isBatchSize scan.batchSize then .ok t else .error .batchTooLarge
  most? := some (mostKeys scan, .unavailable .scan .tooManyVariables)

/-- Whether a pull has read the table: it has fetched a batch, or found one with too many keys. -/
def hasRead (before after : Metrics) (answer : Pull StoreError) : Bool :=
  before.roundTrips != after.roundTrips ||
    match answer with
    | .failed e => e = .unavailable .scan .tooManyVariables
    | _ => false

/-- Pulls the next row of an iteration. -/
def pull (i : IterationId) (h : Host) : Pull StoreError × Host :=
  let it := h.iteration i
  let sc := h.scanner it.scanner
  if sc.isClosed then (.ended, h.setProgress i .finished)
  else
    let view := fetchable sc.scan (h.engine.view sc.connection)
    let (answer, cursor) := sc.scan.pull view ⟨it.progress, h.spent, sc.metrics⟩
    let engine :=
      if hasRead sc.metrics cursor.metrics answer then h.engine.afterRead sc.connection
      else h.engine
    (answer, (({ h with engine, spent := cursor.spent }).setScanner it.scanner
      { sc with metrics := cursor.metrics }).setProgress i cursor.progress)

/-- An upper bound on the rows that an iteration has still to come. -/
def bound (i : IterationId) (h : Host) : Nat :=
  let it := h.iteration i
  let pending := match it.progress with
    | .within pending _ _ => pending.length
    | _ => 0
  pending + Scan.viewSize (h.engine.view (h.scanner it.scanner).connection)

/-- Closes a scanner. It counts as closed even where its connection was closed before it. -/
def closeScanner (i : ScannerId) (h : Host) : Except Fault Unit × Host :=
  let sc := h.scanner i
  if sc.isClosed then (.ok (), h)
  else
    let h := h.setScanner i { sc with isClosed := true }
    if (h.engine.connection sc.connection).isOpen then (.ok (), h)
    else (.error .closed, h)

/-- What can go wrong while a scanner is in use. -/
inductive UseError (ε : Type) where
  | notOpened (e : StoreError)
  | notClosed (fault : Fault)
  /-- The use itself failed. -/
  | failed (e : ε)

/-- Opens a scanner, uses it, and closes it whatever came of that. A failure to close takes the
place of what the use gave. -/
def withScanner {ε α : Type} (w : Worker) (s : StoreId) (scan : Scan)
    (use : ScannerId → Host → Except ε α × Host) (h : Host) : Except (UseError ε) α × Host :=
  match h.openScanner w s scan with
  | (.error e, h) => (.error (.notOpened e), h)
  | (.ok i, h) =>
    let (outcome, h) := use i h
    match h.closeScanner i with
    | (.error fault, h) => (.error (.notClosed fault), h)
    | (.ok (), h) =>
      match outcome with
      | .ok a => (.ok a, h)
      | .error e => (.error (.failed e), h)

/-! ## Several rows at once -/

/-- What pulling for several rows gives. -/
structure Haul where
  rows : List Row
  /-- Whether the end was reached. -/
  ended : Bool
  failure : Option StoreError

/-- Pulls until there are `n` rows, the rows end or a pull fails; `acc` holds the rows pulled, last
one first. -/
def haul (i : IterationId) : Nat → List Row → Host → Haul × Host
  | 0, acc, h => (⟨acc.reverse, false, none⟩, h)
  | n + 1, acc, h =>
    match h.pull i with
    | (.row row, h) => haul i n (row :: acc) h
    | (.ended, h) => (⟨acc.reverse, true, none⟩, h)
    | (.failed e, h) => (⟨acc.reverse, false, some e⟩, h)

def haulAll (i : IterationId) (h : Host) : Haul × Host := haul i (h.bound i + 1) [] h

/-! ## Queries -/

/-- A store, used by one worker, as a source of rows. -/
def source (w : Worker) (s : StoreId) : Query.Source Host (ScannerId × IterationId) StoreError where
  newFilter := newFilter
  openScanner scan h :=
    match h.openScanner w s scan with
    | (.error e, h) => (.error e, h)
    | (.ok scanner, h) =>
      let (iteration, h) := h.iterate scanner
      (.ok (scanner, iteration), h)
  pull | (_, i), h => h.pull i
  bound | (_, i), h => h.bound i
  metrics | (i, _), h => (h.scanner i).metrics
  close
    | (i, _), h =>
      match h.closeScanner i with
      | (.ok (), h) => (none, h)
      | (.error fault, h) => (some ⟨fault.kind, fault.message⟩, h)
  note e h := h.note e

end Host

end HourlyUsage
