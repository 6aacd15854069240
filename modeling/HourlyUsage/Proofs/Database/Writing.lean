import HourlyUsage.Proofs.Database.Engine
import HourlyUsage.Proofs.Table.Overwriting
/-!
# Writes, cell by cell

A write inserts its cells one after the other into the transaction of its connection. Here it is
described as a whole: how many cells are inserted before one is refused, what the transaction holds
then, and what is committed.

Sources: the statement of `put_row` that inserts the cells, and its commit.

Results:
* `putCells_eq`: what a list of cells leaves in the transaction.
* `put_cases`: a write that succeeds is committed as a whole; one that fails at a later cell leaves
  the cells before it in the transaction.
-/
namespace HourlyUsage

namespace Engine

variable {e : Engine} {c : ConnectionId}

/-! ## The cells of a write -/

/-- What keeps the name of a cell from being written. -/
def refusal? (family : Text) (cell : Text × Bytes) : Option Utf8.EncodeError :=
  (Utf8.surrogatesFrom? 0 family).or (Utf8.surrogatesFrom? 0 cell.1)

/-- The cells in front of the first one that is refused. -/
def accepted (family : Text) (cells : Cells) : Cells :=
  cells.takeWhile fun cell => (refusal? family cell).isNone

/-- Whether all cells are inserted, as far as their names are concerned. -/
def verdict (family : Text) (cells : Cells) : Except WriteError Unit :=
  match cells.findSome? (refusal? family) with
  | none => .ok ()
  | some x => .error (.notEncodable x)

theorem verdict_eq_ok_iff (family : Text) (cells : Cells) :
    verdict family cells = .ok () ↔ accepted family cells = cells := by
  induction cells with
  | nil => simp [verdict, accepted]
  | cons cell rest ih =>
    unfold verdict accepted at ih ⊢
    cases h : refusal? family cell <;> simp [h, ih]

theorem putCell_eq (key : Bytes) (family : Text) (cell : Text × Bytes) :
    e.putCell c key family cell =
      match refusal? family cell with
      | some x => (.error (.notEncodable x), e)
      | none =>
        match e.lock c with
        | .error f => (.error (.fault f), e)
        | .ok base =>
          (.ok (), e.setTransaction c (.writing (base.map fun t =>
            t.put key family cell.1 cell.2))) := by
  unfold putCell refusal? Utf8.encode
  cases Utf8.surrogatesFrom? 0 family with
  | some x => rfl
  | none => cases Utf8.surrogatesFrom? 0 cell.1 <;> rfl

theorem lock_of_writing {work : Option Table} (h : (e.connection c).transaction = .writing work) :
    e.lock c = .ok work := by
  rw [lock, h]; rfl

/-- Inside a write, cells are inserted up to the first one that is refused. -/
theorem putCells_of_writing (hc : c < e.connections.length) {work : Option Table}
    (h : (e.connection c).transaction = .writing work) (key : Bytes) (family : Text)
    (cells : Cells) :
    e.putCells c key family cells =
      (verdict family cells, e.setTransaction c (.writing (work.map fun t =>
        t.putAll key family (accepted family cells)))) := by
  induction cells generalizing e work with
  | nil =>
    have hself : e.setTransaction c (.writing work) = e := by rw [← h, setTransaction_self]
    simp [putCells, verdict, accepted, Table.putAll, hself]
  | cons cell rest ih =>
    rw [putCells, putCell_eq, lock_of_writing h]
    cases hr : refusal? family cell with
    | some x =>
      have hself : e.setTransaction c (.writing work) = e := by rw [← h, setTransaction_self]
      simp [verdict, accepted, hr, Table.putAll, hself]
    | none =>
      dsimp only
      have hnext := connection_setTransaction hc
        (.writing (work.map fun t => t.put key family cell.1 cell.2))
      rw [ih (by simpa using hc) (congrArg Connection.transaction hnext),
        setTransaction_setTransaction]
      simp [verdict, accepted, hr, Table.putAll_cons, Function.comp_def]

/-- The first cell takes the lock, and what it locks is what the others are inserted into. -/
theorem putCells_eq (hc : c < e.connections.length) (key : Bytes) (family : Text)
    (cells : Cells) :
    e.putCells c key family cells =
      if accepted family cells = [] then (verdict family cells, e)
      else
        match e.lock c with
        | .error f => (.error (.fault f), e)
        | .ok base =>
          (verdict family cells, e.setTransaction c (.writing (base.map fun t =>
            t.putAll key family (accepted family cells)))) := by
  cases cells with
  | nil => rfl
  | cons cell rest =>
    rw [putCells, putCell_eq]
    cases hr : refusal? family cell with
    | some x => simp [verdict, accepted, hr]
    | none =>
      have haccepted : accepted family (cell :: rest) = cell :: accepted family rest := by
        simp [accepted, hr]
      rw [haccepted, if_neg (List.cons_ne_nil _ _)]
      cases e.lock c with
      | error f => rfl
      | ok base =>
        dsimp only
        have hnext := connection_setTransaction hc
          (.writing (base.map fun t => t.put key family cell.1 cell.2))
        rw [putCells_of_writing (by simpa using hc) (congrArg Connection.transaction hnext),
          setTransaction_setTransaction]
        simp [verdict, hr, Table.putAll_cons, Function.comp_def]

/-! ## A whole write -/

theorem view_eq_ok_iff {t : Table} :
    e.view c = .ok t ↔
      (e.connection c).isOpen = true ∧
        (e.connection c).transaction.view (e.databaseOf c) = some t := by
  unfold view
  cases hopen : (e.connection c).isOpen with
  | false => simp [hopen]
  | true =>
    cases hsees : (e.connection c).transaction.view (e.databaseOf c) <;> simp [hopen, hsees]

/-- The lock is only given for the committed state or for a write that is under way. -/
theorem base_of_lock {base : Option Table} (hlock : e.lock c = .ok base) :
    (e.connection c).transaction.base? (e.databaseOf c) = some base := by
  unfold lock at hlock
  dsimp only at hlock
  split at hlock
  · next hwriting =>
    cases htr : (e.connection c).transaction with
    | writing work => rw [htr] at hlock; exact congrArg some (Except.ok.inj hlock)
    | _ => rw [htr] at hwriting; cases hwriting
  · split at hlock
    · cases hlock
    · split at hlock
      · cases hlock
      · next found hfound => exact (Except.ok.inj hlock) ▸ hfound

/-- What a write is given by the lock is what the connection saw before it. -/
theorem lock_eq_view {t : Table} (hview : e.view c = .ok t) {base : Option Table}
    (hlock : e.lock c = .ok base) : base = some t := by
  have hsees := (view_eq_ok_iff.1 hview).2
  have hbase := base_of_lock hlock
  cases htr : (e.connection c).transaction with
  | idle => rw [htr] at hsees hbase; exact (Option.some.inj hbase).symm.trans hsees
  | begun => rw [htr] at hsees hbase; exact (Option.some.inj hbase).symm.trans hsees
  | reading snapshot version =>
    rw [htr, Transaction.base?] at hbase
    rw [htr] at hsees
    split at hbase
    · exact (Option.some.inj hbase).symm.trans hsees
    · cases hbase
  | writing work => rw [htr] at hsees hbase; exact (Option.some.inj hbase).symm.trans hsees

theorem isLockedFor_iff :
    e.isLockedFor c = true ↔ ∃ x < e.connections.length, x ≠ c ∧
      (e.connection x).database = (e.connection c).database ∧
      (e.connection x).transaction.isWriting = true := by
  simp [isLockedFor, List.any_eq_true, and_assoc]

/-- Who is not writing gets the lock where nobody else is writing, unless the committed state is no
longer what has been read. -/
theorem lock_of_free (hfree : ∀ x < e.connections.length, x ≠ c →
      (e.connection x).database = (e.connection c).database →
      (e.connection x).transaction.isWriting = false) {base : Option Table}
    (hbase : (e.connection c).transaction.base? (e.databaseOf c) = some base) :
    e.lock c = .ok base := by
  have hunlocked : e.isLockedFor c = false := by
    rw [Bool.eq_false_iff]
    intro hlocked
    obtain ⟨x, hx, hne, hd, hw⟩ := isLockedFor_iff.1 hlocked
    rw [hfree x hx hne hd] at hw
    cases hw
  unfold lock
  dsimp only
  rw [hunlocked, hbase]
  cases htr : (e.connection c).transaction with
  | writing work => rw [htr] at hbase; rw [Option.some.inj hbase.symm]; rfl
  | _ => rfl

theorem lock_start (hc : c < e.connections.length) :
    (e.setTransaction c (e.connection c).transaction.start).lock c = e.lock c := by
  have hself := connection_setTransaction hc (e.connection c).transaction.start
  have hlocked : (e.setTransaction c (e.connection c).transaction.start).isLockedFor c =
      e.isLockedFor c := by
    unfold isLockedFor
    rw [length_setTransaction]
    congr 1
    funext other
    by_cases hne : other = c
    · simp [hne]
    · rw [connection_setTransaction_of_ne hne, hself]
  unfold lock databaseOf
  dsimp only
  rw [hlocked, hself, database_setTransaction]
  cases (e.connection c).transaction <;> rfl

theorem commit_of_not_writing (h : (e.connection c).transaction.isWriting = false) :
    e.commit c = e.setTransaction c .idle := by
  unfold commit
  dsimp only
  have hsame : (e.connection c).transaction.commit (e.databaseOf c) = e.databaseOf c := by
    cases htr : (e.connection c).transaction with
    | writing work => rw [htr] at h; cases h
    | _ => rfl
  rw [hsame, databaseOf, setDatabase_self]

/-- The engine after a connection has committed some work as the new state of its database. -/
def committed (e : Engine) (c : ConnectionId) (work : Option Table) : Engine :=
  (e.setDatabase (e.connection c).database
    ⟨work, (e.databaseOf c).version + 1⟩).setTransaction c .idle

theorem commit_writing (hc : c < e.connections.length) (work : Option Table) :
    (e.setTransaction c (.writing work)).commit c = e.committed c work := by
  unfold commit committed
  dsimp only
  rw [databaseOf, connection_setTransaction hc]
  dsimp only [Transaction.commit]
  rw [database_setTransaction, ← databaseOf]
  exact setTransaction_setTransaction (e := e.setDatabase _ _) _ _

theorem connection_commit (hc : c < e.connections.length) :
    (e.commit c).connection c = { e.connection c with transaction := .idle } := by
  unfold commit
  dsimp only
  exact connection_setTransaction (e := e.setDatabase _ _) hc .idle

theorem connection_commit_of_ne {x : ConnectionId} (hx : x ≠ c) :
    (e.commit c).connection x = e.connection x := by
  unfold commit
  dsimp only
  exact connection_setTransaction_of_ne (e := e.setDatabase _ _) hx .idle

theorem database_commit (hd : (e.connection c).database < e.databases.length) :
    (e.commit c).database (e.connection c).database =
      (e.connection c).transaction.commit (e.databaseOf c) := by
  unfold commit
  dsimp only
  rw [database_setTransaction, database_setDatabase hd]

theorem database_commit_of_ne {n : DatabaseId} (hn : n ≠ (e.connection c).database) :
    (e.commit c).database n = e.database n := by
  unfold commit
  dsimp only
  rw [database_setTransaction, database_setDatabase_of_ne hn]

theorem length_databases_commit (e : Engine) (c : ConnectionId) :
    (e.commit c).databases.length = e.databases.length := by
  unfold commit
  dsimp only
  rw [databases_setTransaction, length_setDatabase]

theorem start_of_ne_idle {tr : Transaction} (h : tr ≠ .idle) : tr.start = tr := by
  cases tr with
  | idle => exact absurd rfl h
  | _ => rfl

theorem commit_start (hc : c < e.connections.length) :
    (e.setTransaction c (e.connection c).transaction.start).commit c = e.commit c := by
  by_cases htr : (e.connection c).transaction = .idle
  · have hself := connection_setTransaction hc .begun
    rw [htr, Transaction.start, commit_of_not_writing (e := e) (by rw [htr]; rfl),
      commit_of_not_writing (by rw [hself]; rfl), setTransaction_setTransaction]
  · rw [start_of_ne_idle htr, setTransaction_self]

inductive PutResult (e : Engine) (c : ConnectionId) (key : Bytes) (family : Text) (cells : Cells) :
    Except WriteError Unit → Engine → Prop where
  /-- The connection cannot read the table. -/
  | unseen (f : Fault) (hview : e.view c = .error f) :
      PutResult e c key family cells (.error (.fault f)) e
  /-- There is nothing to write; what the transaction held before is committed. -/
  | empty (t : Table) (hview : e.view c = .ok t) (hcells : cells = []) :
      PutResult e c key family cells (.ok ()) (e.commit c)
  /-- The first cell has a name that cannot be written. -/
  | refused (t : Table) (hview : e.view c = .ok t) (x : Utf8.EncodeError)
      (haccepted : accepted family cells = [])
      (hverdict : verdict family cells = .error (.notEncodable x)) :
      PutResult e c key family cells (.error (.notEncodable x))
        (e.setTransaction c (e.connection c).transaction.start)
  /-- The first cell does not get the lock. -/
  | locked (t : Table) (hview : e.view c = .ok t) (f : Fault)
      (haccepted : accepted family cells ≠ []) (hlock : e.lock c = .error f) :
      PutResult e c key family cells (.error (.fault f))
        (e.setTransaction c (e.connection c).transaction.start)
  /-- A later cell has a name that cannot be written; those before it stay in the transaction. -/
  | stuck (t : Table) (hview : e.view c = .ok t) (x : Utf8.EncodeError)
      (haccepted : accepted family cells ≠ []) (hlock : e.lock c = .ok (some t))
      (hverdict : verdict family cells = .error (.notEncodable x)) :
      PutResult e c key family cells (.error (.notEncodable x))
        (e.setTransaction c (.writing (some (t.putAll key family (accepted family cells)))))
  /-- All cells are written and committed. -/
  | committed (t : Table) (hview : e.view c = .ok t) (hcells : cells ≠ [])
      (haccepted : accepted family cells = cells) (hlock : e.lock c = .ok (some t)) :
      PutResult e c key family cells (.ok ()) (e.committed c (some (t.putAll key family cells)))

theorem verdict_cases (family : Text) (cells : Cells) :
    verdict family cells = .ok () ∧ accepted family cells = cells ∨
      ∃ x, verdict family cells = .error (.notEncodable x) ∧ accepted family cells ≠ cells := by
  have hiff := verdict_eq_ok_iff family cells
  rw [verdict] at hiff ⊢
  cases h : cells.findSome? (refusal? family) with
  | none => rw [h] at hiff; exact .inl ⟨rfl, hiff.1 rfl⟩
  | some x => rw [h] at hiff; exact .inr ⟨x, rfl, fun heq => nomatch hiff.2 heq⟩

/-- A write where the table can be read: the first cell takes the lock, cells are inserted up to
the first one that is refused, and without such a one they are committed. -/
theorem put_eq {t : Table} (hview : e.view c = .ok t) (hc : c < e.connections.length) (key : Bytes)
    (family : Text) (cells : Cells) :
    e.put c key family cells =
      if accepted family cells = [] then
        match verdict family cells with
        | .error x => (.error x, e.setTransaction c (e.connection c).transaction.start)
        | .ok () => (.ok (), e.commit c)
      else
        match e.lock c with
        | .error f => (.error (.fault f), e.setTransaction c (e.connection c).transaction.start)
        | .ok _ =>
          let inserted := e.setTransaction c
            (.writing (some (t.putAll key family (accepted family cells))))
          match verdict family cells with
          | .error x => (.error x, inserted)
          | .ok () => (.ok (), inserted.commit c) := by
  unfold put
  rw [hview]
  dsimp only
  rw [putCells_eq (by simpa using hc), lock_start hc]
  by_cases hnone : accepted family cells = []
  · rw [if_pos hnone, if_pos hnone]
    cases verdict family cells with
    | error x => rfl
    | ok u => dsimp only; rw [commit_start hc]
  · rw [if_neg hnone, if_neg hnone]
    cases hlock : e.lock c with
    | error f => rfl
    | ok base =>
      obtain rfl := lock_eq_view hview hlock
      dsimp only [Option.map_some]
      rw [setTransaction_setTransaction]
      cases verdict family cells <;> rfl

theorem put_of_lock {t : Table} (hview : e.view c = .ok t) (hc : c < e.connections.length)
    {base : Option Table} (hlock : e.lock c = .ok base) (key : Bytes) {family : Text}
    {cells : Cells} (hne : cells ≠ []) (haccepted : accepted family cells = cells) :
    e.put c key family cells = (.ok (), e.committed c (some (t.putAll key family cells))) := by
  rw [put_eq hview hc, haccepted, if_neg hne, hlock, (verdict_eq_ok_iff family cells).2 haccepted]
  dsimp only
  rw [commit_writing hc]

theorem put_of_unlocked {t : Table} (hview : e.view c = .ok t) (hc : c < e.connections.length)
    {f : Fault} (hlock : e.lock c = .error f) (key : Bytes) {family : Text} {cells : Cells}
    (hne : cells ≠ []) (haccepted : accepted family cells = cells) :
    (e.put c key family cells).1 = .error (.fault f) := by
  rw [put_eq hview hc, haccepted, if_neg hne, hlock]

theorem put_cases (hc : c < e.connections.length) (key : Bytes) (family : Text) (cells : Cells) :
    PutResult e c key family cells (e.put c key family cells).1 (e.put c key family cells).2 := by
  cases hview : e.view c with
  | error f =>
    rw [put, hview]
    exact .unseen f hview
  | ok t =>
    rw [put_eq hview hc]
    by_cases hnone : accepted family cells = []
    · rw [if_pos hnone]
      rcases verdict_cases family cells with ⟨hok, haccepted⟩ | ⟨x, herror, -⟩
      · rw [hok]
        exact .empty t hview (haccepted.symm.trans hnone)
      · rw [herror]
        exact .refused t hview x hnone herror
    · rw [if_neg hnone]
      cases hlock : e.lock c with
      | error f => exact .locked t hview f hnone hlock
      | ok base =>
        obtain rfl := lock_eq_view hview hlock
        dsimp only
        rcases verdict_cases family cells with ⟨hok, haccepted⟩ | ⟨x, herror, -⟩
        · rw [hok, haccepted]
          dsimp only
          rw [commit_writing hc]
          exact .committed t hview (haccepted ▸ hnone) haccepted hlock
        · rw [herror]
          exact .stuck t hview x hnone hlock herror

end Engine

end HourlyUsage
