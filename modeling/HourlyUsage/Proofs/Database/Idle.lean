import HourlyUsage.Proofs.Database.Growth
import HourlyUsage.Proofs.Store.Serving
/-!
# Databases between transactions

Where no transaction is under way, every operation is done when it returns: reads leave nothing
behind, a write that is possible at all is committed at once, and the table of one database is all
that it has changed.

Sources: the statements of `bootstrap` and `put_row`, `_create_connection`, `_close_connection`.

Results:
* `put_of_idle`, `ensureTable_of_open`: what a write and the making of a table change.
* `Rewritten.fileTable?`, `fileTable?_connect`: what becomes of the tables in files.
-/
namespace HourlyUsage.Engine

def Idle (e : Engine) : Prop := ∀ c, (e.connection c).transaction = .idle

/-- One database has a new table, and all else is as it was. -/
structure Rewritten (e e' : Engine) (d : DatabaseId) (cells : Option Table) : Prop where
  connections : e'.connections = e.connections
  disk : e'.disk = e.disk
  length : e'.databases.length = e.databases.length
  cells : ∀ n, (e'.database n).cells = if n = d then cells else (e.database n).cells

variable {e e' : Engine} {c : ConnectionId} {d : DatabaseId}

theorem Idle.of_connections (hidle : e.Idle) (h : e'.connections = e.connections) : e'.Idle := by
  intro c
  rw [connection, h]
  exact hidle c

theorem rewritten_self (e : Engine) (d : DatabaseId) : e.Rewritten e d (e.database d).cells where
  connections := rfl
  disk := rfl
  length := rfl
  cells n := by
    split
    · next h => rw [h]
    · rfl

theorem rewritten_committed (hidle : e.Idle)
    (hd : (e.connection c).database < e.databases.length) (work : Option Table) :
    e.Rewritten (e.committed c work) (e.connection c).database work := by
  generalize hstate : (⟨work, (e.databaseOf c).version + 1⟩ : Database) = state
  have hsame : (e.setDatabase (e.connection c).database state).setTransaction c .idle =
      e.setDatabase (e.connection c).database state := by
    have hstill : ((e.setDatabase (e.connection c).database state).connection c).transaction =
        .idle := hidle c
    rw [← hstill, setTransaction_self]
  rw [committed, hstate, hsame]
  refine ⟨rfl, rfl, length_setDatabase _ _, ?_⟩
  intro n
  by_cases hn : n = (e.connection c).database
  · rw [hn, if_pos rfl, database_setDatabase hd, ← hstate]
  · rw [if_neg hn, database_setDatabase_of_ne hn]

/-- A write that can see its table is committed. -/
theorem put_of_idle (hidle : e.Idle) (hs : e.Sound) {t : Table} (hview : e.view c = .ok t)
    (key : Bytes) {family : Text} {cells : Cells} (haccepted : accepted family cells = cells) :
    ∃ e', e.put c key family cells = (.ok (), e') ∧
      e.Rewritten e' (e.connection c).database (some (t.putAll key family cells)) := by
  have hc := lt_of_view hview
  have hcells : (e.database (e.connection c).database).cells = some t := by
    have hseen := (view_eq_ok_iff.1 hview).2
    rwa [hidle c] at hseen
  cases cells with
  | nil =>
    refine ⟨e, ?_, hcells ▸ e.rewritten_self _⟩
    rw [put_eq hview hc, haccepted, if_pos rfl, (verdict_eq_ok_iff family []).2 haccepted]
    dsimp only
    rw [commit_of_idle (hidle c)]
  | cons cell rest =>
    refine ⟨_, put_of_lock hview hc (lock_of_idle hidle c) key (List.cons_ne_nil _ _) haccepted, ?_⟩
    exact rewritten_committed hidle (hs.databases c hc) _

/-- An open connection finds the table of its database, or makes it. -/
theorem ensureTable_of_open (hidle : e.Idle) (hs : e.Sound)
    (hopen : (e.connection c).isOpen = true) :
    ∃ e', e.ensureTable c = (.ok (), e') ∧
      e.Rewritten e' (e.connection c).database (some ((e.databaseOf c).cells.getD .empty)) := by
  have hc := lt_of_isOpen hopen
  cases hcells : (e.databaseOf c).cells with
  | none =>
    exact ⟨_, ensureTable_of_idle hc hopen hidle hcells,
      rewritten_committed hidle (hs.databases c hc) _⟩
  | some t =>
    have hself := e.rewritten_self (e.connection c).database
    rw [← databaseOf, hcells] at hself
    refine ⟨e, ?_, hself⟩
    unfold ensureTable
    rw [hopen]
    dsimp only [Bool.not_true]
    rw [commit_of_idle (hidle c), hcells]
    rfl

theorem connections_put (hidle : e.Idle) (hs : e.Sound) (c : ConnectionId) (key : Bytes)
    {family : Text} {cells : Cells} (haccepted : accepted family cells = cells) :
    (e.put c key family cells).2.connections = e.connections := by
  cases hview : e.view c with
  | error f => rw [put, hview]
  | ok t =>
    obtain ⟨e', hput, hrewritten⟩ := put_of_idle hidle hs hview key haccepted
    rw [hput]
    exact hrewritten.connections

theorem connections_ensureTable (hidle : e.Idle) (hs : e.Sound) (c : ConnectionId) :
    (e.ensureTable c).2.connections = e.connections := by
  cases hopen : (e.connection c).isOpen with
  | false =>
    unfold ensureTable
    rw [hopen]
    rfl
  | true =>
    obtain ⟨e', hensure, hrewritten⟩ := ensureTable_of_open hidle hs hopen
    rw [hensure]
    exact hrewritten.connections

theorem afterRead_of_idle (hidle : e.Idle) (c : ConnectionId) : e.afterRead c = e := by
  have hread : ∀ state, Transaction.idle.read state = .idle := fun _ => rfl
  rw [afterRead, hidle c, hread, ← hidle c, setTransaction_self]

/-! ## The tables in files -/

def databaseAt? (e : Engine) (p : Path) : Option DatabaseId :=
  match e.disk.node? p with
  | some (.database d) => some d
  | _ => none

theorem databaseAt?_eq_some_iff {p : Path} :
    e.databaseAt? p = some d ↔ e.disk.node? p = some (.database d) := by
  unfold databaseAt?
  split
  · next n hnode => simp [hnode]
  · next hnone => exact ⟨nofun, fun hnode => absurd hnode (hnone d)⟩

/-- The table of the database at a place, if it has been made. -/
def fileTable? (e : Engine) (p : Path) : Option Table :=
  (e.databaseAt? p).bind fun d => (e.database d).cells

theorem fileTable?_of_database {p : Path} (h : e.databaseAt? p = some d) :
    e.fileTable? p = (e.database d).cells := by
  rw [fileTable?, h, Option.bind_some]

theorem fileTable?_congr {p : Path} (hfile : e'.databaseAt? p = e.databaseAt? p)
    (hcells : ∀ n, (e'.database n).cells = (e.database n).cells) :
    e'.fileTable? p = e.fileTable? p := by
  rw [fileTable?, fileTable?, hfile]
  exact congrArg _ (funext hcells)

theorem Rewritten.databaseAt? {cells : Option Table} (h : e.Rewritten e' d cells) (p : Path) :
    e'.databaseAt? p = e.databaseAt? p := by
  rw [Engine.databaseAt?, Engine.databaseAt?, h.disk]

/-- A new table in one database is a new table in its files. -/
theorem Rewritten.fileTable? {cells : Option Table} (h : e.Rewritten e' d cells) (p : Path) :
    e'.fileTable? p = if e.databaseAt? p = some d then cells else e.fileTable? p := by
  rw [Engine.fileTable?, Engine.fileTable?, h.databaseAt?]
  cases hfile : e.databaseAt? p with
  | none => rfl
  | some n =>
    rw [Option.bind_some, Option.bind_some, h.cells]
    by_cases hn : n = d <;> simp [hn]

theorem cells_append (e : Engine) (disk : Disk) (n : DatabaseId) :
    (({ e with disk, databases := e.databases ++ [{}] } : Engine).database n).cells =
      (e.database n).cells := by
  unfold database
  dsimp only
  rw [List.getD_eq_getElem?_getD, List.getD_eq_getElem?_getD, List.getElem?_append]
  split
  · rfl
  · next hge =>
    rw [List.getElem?_eq_none (Nat.not_lt.1 hge)]
    cases n - e.databases.length <;> rfl

theorem fileTable?_of_sameFiles {disk : Disk} (h : e.disk.SameFiles disk) (p : Path) :
    fileTable? { e with disk } p = e.fileTable? p := by
  refine fileTable?_congr (e := e) (Option.ext fun d => ?_) fun _ => rfl
  rw [databaseAt?_eq_some_iff, databaseAt?_eq_some_iff]
  exact h.databases p d

/-- Connecting changes the table in no file, even where it makes the file. -/
theorem fileTable?_connect (e : Engine) (path : Text) (p : Path) :
    (e.connect path).2.fileTable? p = e.fileTable? p := by
  have hcases := e.connect_cases path
  generalize e.connect path = result at hcases ⊢
  obtain ⟨outcome, after⟩ := result
  cases hcases with
  | refused f => rfl
  | joined n _ _ => rfl
  | made disk hdisk =>
    have hcells := e.cells_append disk
    rcases hdisk with ⟨-, rfl⟩ | ⟨-, hfree, rfl⟩
    · exact fileTable?_congr (e := e) rfl fun n => hcells n
    · by_cases hp : Path.resolve e.disk.workingDirectory path = p
      · subst hp
        -- The file is there now, and its database has no table.
        have hself := Disk.node?_set_self hfree (.database e.databases.length)
        have hnone : e.fileTable? (Path.resolve e.disk.workingDirectory path) = none := by
          rw [fileTable?, databaseAt?, hfree]
          rfl
        have hnew : (e.database e.databases.length).cells = none := by
          rw [database, List.getD_eq_getElem?_getD, List.getElem?_eq_none (Nat.le_refl _)]
          rfl
        rw [hnone, fileTable?_of_database (databaseAt?_eq_some_iff.2 hself)]
        exact (hcells _).trans hnew
      · refine fileTable?_congr (e := e) ?_ fun n => hcells n
        have hother := Disk.node?_set_of_ne e.disk hp (.database e.databases.length)
        rw [databaseAt?, databaseAt?]
        exact hother ▸ rfl

end HourlyUsage.Engine
