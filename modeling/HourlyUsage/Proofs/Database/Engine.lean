import HourlyUsage.Database.Engine
/-!
# Connections and databases by number

What the small operations of the engine do to one connection and to one database.

Sources: `_create_connection`, `_close_connection`, the statements of a store.

Results:
* `connection_setTransaction`, `database_setDatabase` and the like: what is set is read back, and
  nothing else changes.
* `view_afterRead`: a read does not change what a connection sees.
* `connect_cases`: a new connection has the next number and, unless the file was a database already,
  a database of its own.
-/
namespace HourlyUsage

theorem Transaction.view_read (d : Database) (tr : Transaction) :
    (tr.read d).view d = tr.view d := by
  cases tr with
  | begun => cases hcells : d.cells <;> simp [Transaction.read, Transaction.view, hcells]
  | _ => rfl

namespace Engine

variable {e : Engine} {c d : ConnectionId}

/-! ## One connection, one database -/

@[simp] theorem databases_setTransaction (tr : Transaction) :
    (e.setTransaction c tr).databases = e.databases := rfl

@[simp] theorem length_setTransaction (tr : Transaction) :
    (e.setTransaction c tr).connections.length = e.connections.length := List.length_modify ..

@[simp] theorem database_setTransaction (tr : Transaction) (n : DatabaseId) :
    (e.setTransaction c tr).database n = e.database n := rfl

theorem connection_setTransaction (hc : c < e.connections.length) (tr : Transaction) :
    (e.setTransaction c tr).connection c = { e.connection c with transaction := tr } := by
  simp [setTransaction, connection, hc]

theorem connection_setTransaction_of_ne (hne : d ≠ c) (tr : Transaction) :
    (e.setTransaction c tr).connection d = e.connection d := by
  simp [setTransaction, connection, Ne.symm hne]

theorem setTransaction_setTransaction (tr tr' : Transaction) :
    (e.setTransaction c tr).setTransaction c tr' = e.setTransaction c tr' := by
  unfold setTransaction
  rw [List.modify_modify_eq]
  rfl

theorem setTransaction_of_ge (hc : e.connections.length ≤ c) (tr : Transaction) :
    e.setTransaction c tr = e := by
  unfold setTransaction
  rw [List.modify_eq_self hc]

/-- A read does not change what a connection sees. -/
theorem view_afterRead (e : Engine) (c : ConnectionId) : (e.afterRead c).view c = e.view c := by
  rcases Nat.lt_or_ge c e.connections.length with hc | hc
  · have hself := connection_setTransaction hc
      ((e.connection c).transaction.read (e.databaseOf c))
    unfold afterRead view databaseOf
    rw [databaseOf] at hself
    rw [hself, database_setTransaction]
    dsimp only
    rw [Transaction.view_read]
  · rw [afterRead, setTransaction_of_ge hc]

theorem setTransaction_self : e.setTransaction c (e.connection c).transaction = e := by
  have hlist : e.connections.modify c
      (fun conn => { conn with transaction := (e.connection c).transaction }) = e.connections := by
    apply List.ext_getElem?
    intro n
    rw [List.getElem?_modify]
    by_cases hn : c = n
    · subst hn
      cases hget : e.connections[c]? with
      | none => rfl
      | some conn => simp [connection, hget]
    · simp [hn]
  unfold setTransaction
  rw [hlist]

theorem database_setDatabase {n : DatabaseId} (hn : n < e.databases.length) (state : Database) :
    (e.setDatabase n state).database n = state := by
  simp [setDatabase, database, hn]

theorem database_setDatabase_of_ne {n m : DatabaseId} (hne : m ≠ n) (state : Database) :
    (e.setDatabase n state).database m = e.database m := by
  simp [setDatabase, database, Ne.symm hne]

@[simp] theorem length_setDatabase (n : DatabaseId) (state : Database) :
    (e.setDatabase n state).databases.length = e.databases.length := List.length_set

theorem setDatabase_self (n : DatabaseId) : e.setDatabase n (e.database n) = e := by
  have hlist : e.databases.set n (e.database n) = e.databases := by
    apply List.ext_getElem?
    intro m
    rw [List.getElem?_set]
    split
    · next hn =>
      subst hn
      split
      · next hlt => simp [database, hlt]
      · next hge => rw [List.getElem?_eq_none (Nat.not_lt.1 hge)]
    · rfl
  unfold setDatabase
  rw [hlist]

/-! ## New connections -/

theorem connection_of_lt {e' : Engine} (hc : c < e.connections.length)
    (h : e'.connections[c]? = e.connections[c]?) : e'.connection c = e.connection c := by
  rw [List.getElem?_eq_getElem hc] at h
  simp [connection, h, hc]

theorem database_of_lt {e' : Engine} {n : DatabaseId} (hn : n < e.databases.length)
    (h : e'.databases[n]? = e.databases[n]?) : e'.database n = e.database n := by
  rw [List.getElem?_eq_getElem hn] at h
  simp [database, h, hn]

theorem connection_addConnection_self (n : DatabaseId) :
    (e.addConnection n).2.connection e.connections.length = { database := n } := by
  simp [addConnection, connection]

theorem connection_addConnection_of_lt (hc : c < e.connections.length) (n : DatabaseId) :
    (e.addConnection n).2.connection c = e.connection c :=
  connection_of_lt hc (List.getElem?_append_left hc)

@[simp] theorem length_addConnection (n : DatabaseId) :
    (e.addConnection n).2.connections.length = e.connections.length + 1 := by
  simp [addConnection]

theorem connection_of_ge (hc : e.connections.length ≤ c) :
    e.connection c = { database := 0, isOpen := false } := by
  simp [connection, List.getElem?_eq_none hc]

inductive ConnectResult (e : Engine) (path : Text) : Except Fault ConnectionId → Engine → Prop where
  | refused (f : Fault) : ConnectResult e path (.error f) e
  /-- The file is a database. -/
  | joined (n : DatabaseId) (hshared : isPrivate path = false)
      (hnode : e.disk.node? (Path.resolve e.disk.workingDirectory path) = some (.database n)) :
      ConnectResult e path (.ok e.connections.length) (e.addConnection n).2
  /-- There is a new database, in a file or for this connection only. -/
  | made (disk : Disk)
      (hdisk : isPrivate path = true ∧ disk = e.disk ∨
        isPrivate path = false ∧
          e.disk.node? (Path.resolve e.disk.workingDirectory path) = none ∧
          disk = e.disk.set (Path.resolve e.disk.workingDirectory path)
            (.database e.databases.length)) :
      ConnectResult e path (.ok e.connections.length)
        (addConnection { e with disk, databases := e.databases ++ [{}] } e.databases.length).2

theorem connect_cases (e : Engine) (path : Text) :
    ConnectResult e path (e.connect path).1 (e.connect path).2 := by
  unfold connect
  cases hprivate : isPrivate path with
  | true => exact .made e.disk (.inl ⟨hprivate, rfl⟩)
  | false =>
    rw [if_neg Bool.false_ne_true]
    dsimp only
    split
    · exact .refused .cannotOpen
    · exact .refused .notADatabase
    · next n hnode => exact .joined n hprivate hnode
    · next hnode =>
      split
      · exact .made _ (.inr ⟨hprivate, hnode, rfl⟩)
      · exact .refused .cannotOpen

end Engine

end HourlyUsage
