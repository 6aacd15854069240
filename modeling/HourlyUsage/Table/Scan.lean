import HourlyUsage.Table.Basic
import HourlyUsage.Text.Basic
/-!
# Scans

A scan walks the rows from a start key upwards, batch by batch, and hands over those that its
filter accepts. Each batch holds the next rows behind the last key seen; a batch that is not full
is the last one. `pull` asks for one row; between two pulls the table may change, and the next
batch is then taken from the changed table.

`plain` is the same answer without batches, without a stop key and in one walk.

A filter decides row by row whether a scan hands a row over, and may say that no later row can
pass. A while-match filter has a memory: after the first row that its inner filter rejects it
rejects everything. Filters can be shared between scans and wrapped more than once, so the memory
is kept apart from the filter: each while-match filter has a number, and `Spent` holds the numbers
of those that have rejected a row.

Sources: `Scan`, `prefix_successor`, `RowFilter`, `PrefixFilter`, `WhileMatchFilter`; `__iter__` of
a scanner.
-/
namespace HourlyUsage

/-! ## Filters -/

/-- The while-match filters that have rejected a row, by number. -/
abbrev Spent := List Nat

/-- A row filter. -/
inductive RowFilter where
  /-- Accepts every row. -/
  | all
  /-- Accepts the rows whose key starts with `stem`. -/
  | startsWith (stem : Bytes)
  /-- Accepts what `inner` accepts, up to the first row that it rejects. -/
  | whileMatch (number : Nat) (inner : RowFilter)
  deriving DecidableEq

/-- The least key above every key that starts with `stem`; `none` if there is no key above them
(`prefix_successor`). -/
def successor? (stem : Bytes) : Option Bytes :=
  match stem.reverse.dropWhile (· = 0xFF) with
  | [] => none
  | b :: rest => some ((b + 1) :: rest).reverse

namespace RowFilter

/-- Whether the filter accepts a row with this key, and the memories after it was asked
(`include_row`). -/
def accepts (spent : Spent) (key : Bytes) : RowFilter → Bool × Spent
  | all => (true, spent)
  | startsWith stem => (stem.isPrefixOf key, spent)
  | whileMatch number inner =>
    if number ∈ spent then (false, spent)
    else
      let (accepted, spent) := accepts spent key inner
      if accepted then (true, spent) else (false, number :: spent)

/-- Whether no later row can pass (`filter_all_remaining`). -/
def isExhausted (spent : Spent) : RowFilter → Bool
  | all => false
  | startsWith _ => false
  | whileMatch number inner => number ∈ spent || inner.isExhausted spent

/-- A key that no accepted row reaches, if the filter knows one (`stop_row`). -/
def stop? : RowFilter → Option Bytes
  | all => none
  | startsWith stem => successor? stem
  | whileMatch _ inner => inner.stop?

end RowFilter

/-! ## Scans -/

/-- A request for a bounded walk over the table (`Scan`). -/
structure Scan where
  /-- The least key. -/
  start : Bytes := []
  /-- The columns wanted, by family and qualifier; none stand for all. -/
  columns : List (Text × Text) := []
  /-- The number of rows in a full batch; a negative one stands for no bound. -/
  batchSize : Int := 100
  filter : Option RowFilter := none
  deriving DecidableEq

/-- What the fetches of a scan find: the table, or why it cannot be read, and the greatest number of
rows that a fetch can give, with what one of more rows fails with. -/
structure View (ε : Type) where
  table : Except ε Table
  most? : Option (Nat × ε) := none

namespace View

variable {ε : Type}

def ok (t : Table) : View ε := { table := .ok t }

def error (e : ε) : View ε := { table := .error e }

end View

/-- What one pull gives. -/
inductive Pull (ε : Type) where
  | row (row : Row)
  | ended
  | failed (e : ε)

/-- How far an iteration has come. -/
inductive Progress where
  | fresh
  /-- Inside a batch: the rows not yet looked at, the key of the batch's last row, and whether the
  batch was full, so that another one may follow. -/
  | within (pending : List Row) (last : Bytes) (more : Bool)
  | finished
  deriving DecidableEq

/-- An iteration together with what it shares with others: memories of filters and counters. -/
structure Cursor where
  progress : Progress
  spent : Spent
  metrics : Metrics

namespace Scan

/-- The least key that no row of the scan reaches, if the filter knows one. -/
def stop? (scan : Scan) : Option Bytes := scan.filter.bind RowFilter.stop?

/-- Whether a key lies behind the last one seen, or at the start or above if there is none, and
below the stop key. -/
def inRange (scan : Scan) (last? : Option Bytes) (key : Bytes) : Bool :=
  (match last? with
    | none => !decide (key < scan.start)
    | some last => decide (last < key)) &&
  (match scan.stop? with
    | none => true
    | some stop => decide (key < stop))

def cutBatch (scan : Scan) (rows : List Row) : List Row :=
  if scan.batchSize < 0 then rows else rows.take scan.batchSize.toNat

/-- The next batch of a table (`_fetch_batch`). -/
def batch (scan : Scan) (t : Table) (last? : Option Bytes) : List Row :=
  scan.cutBatch ((t.entries.filter fun e => scan.inRange last? e.1).filterMap
    (Table.row? scan.columns))

/-- What a fetch gives: the next batch, unless the table cannot be read or the batch has too many
rows. -/
def nextBatch {ε : Type} (scan : Scan) (view : View ε) (last? : Option Bytes) :
    Except ε (List Row) :=
  match view.table with
  | .error e => .error e
  | .ok t =>
    let rows := scan.batch t last?
    match view.most? with
    | none => .ok rows
    | some (most, e) => if rows.length ≤ most then .ok rows else .error e

/-- Where an iteration stands after it fetched `rows`. -/
def afterFetch (scan : Scan) (rows : List Row) : Progress :=
  match rows.getLast? with
  | none => .finished
  | some last => .within rows last.key (!decide ((rows.length : Int) < scan.batchSize))

inductive Walk where
  | found (row : Row) (rest : List Row) (spent : Spent)
  /-- No later row can pass. -/
  | over (spent : Spent)
  /-- The batch is used up. -/
  | through (spent : Spent)

/-- Looks for the first row of a batch that the filter accepts. -/
def walk (filter? : Option RowFilter) (spent : Spent) : List Row → Walk
  | [] => .through spent
  | row :: rest =>
    match filter? with
    | none => .found row rest spent
    | some filter =>
      match filter.accepts spent row.key with
      | (true, spent) => .found row rest spent
      | (false, spent) =>
        if filter.isExhausted spent then .over spent else walk filter? spent rest

/-- Pulls one row. Every fetch but the last one finds a row behind those seen before, so `fuel` need
only exceed the number of rows by two. -/
def pullWithin {ε : Type} (scan : Scan) (view : View ε) : Nat → Cursor → Pull ε × Cursor
  | 0, c => (.ended, { c with progress := .finished })
  | fuel + 1, c =>
    let fetch (last? : Option Bytes) (spent : Spent) : Pull ε × Cursor :=
      match scan.nextBatch view last? with
      | .error e => (.failed e, ⟨.finished, spent, c.metrics⟩)
      | .ok rows => pullWithin scan view fuel ⟨scan.afterFetch rows, spent, c.metrics.fetched⟩
    match c.progress with
    | .finished => (.ended, c)
    | .fresh => fetch none c.spent
    | .within pending last more =>
      match walk scan.filter c.spent pending with
      | .found row rest spent =>
        (.row row, ⟨.within rest last more, spent, c.metrics.record row⟩)
      | .over spent => (.ended, ⟨.finished, spent, c.metrics⟩)
      | .through spent =>
        if more then fetch (some last) spent else (.ended, ⟨.finished, spent, c.metrics⟩)

/-- The number of entries of a table that can be read. -/
def viewSize {ε : Type} : Except ε Table → Nat
  | .ok t => t.entries.length
  | .error _ => 0

/-- Pulls one row from the table as it is now (`__iter__`). -/
def pull {ε : Type} (scan : Scan) (view : View ε) (c : Cursor) : Pull ε × Cursor :=
  scan.pullWithin view (viewSize view.table + 3) c

/-! ## The plain scan -/

/-- The rows that the filter lets through when it is asked about each row in turn. -/
def plainRows (filter? : Option RowFilter) (spent : Spent) : List Row → List Row
  | [] => []
  | row :: rest =>
    match filter? with
    | none => row :: plainRows filter? spent rest
    | some filter =>
      match filter.accepts spent row.key with
      | (true, spent) => row :: plainRows filter? spent rest
      | (false, spent) => plainRows filter? spent rest

/-- What a scan hands over in all: the rows from the start key upwards, through the filter. -/
def plain (scan : Scan) (spent : Spent) (t : Table) : List Row :=
  plainRows scan.filter spent
    ((t.rows scan.columns).filter fun row => !decide (row.key < scan.start))

end Scan

end HourlyUsage
