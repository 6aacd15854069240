import HourlyUsage.Proofs.Database.Growth
/-!
# Where connections belong

A connection belongs to one database for good. Reads, writes, commits and the making of a table
leave all connections where they are; a connection can only be closed.

Sources: `_create_connection`, `_close_connection`, the statements of a store.

Results:
* `same_put`, `same_ensureTable` and the like: no operation on a connection moves a connection.
* `Secluded.same`: who has a database alone goes on having it alone.
* `lock_addConnection_iff`: a new connection can write where nobody is writing.
-/
namespace HourlyUsage.Engine

/-- The database of a connection has no file, and no other connection. -/
structure Secluded (e : Engine) (c : ConnectionId) : Prop where
  noFile : ∀ p, e.disk.node? p ≠ some (.database (e.connection c).database)
  alone : ∀ x < e.connections.length, (e.connection x).database = (e.connection c).database → x = c

/-- The connections are the same and belong where they belonged; some may have been closed. -/
structure SameConnections (e e' : Engine) : Prop where
  disk : e.disk.SameFiles e'.disk
  length : e'.connections.length = e.connections.length
  database : ∀ c, (e'.connection c).database = (e.connection c).database
  isOpen : ∀ c, (e'.connection c).isOpen = true → (e.connection c).isOpen = true

variable {e e' : Engine} {c : ConnectionId}

theorem SameConnections.refl (e : Engine) : e.SameConnections e :=
  ⟨.refl _, rfl, fun _ => rfl, fun _ h => h⟩

theorem SameConnections.trans {e'' : Engine} (h : e.SameConnections e')
    (h' : e'.SameConnections e'') : e.SameConnections e'' :=
  ⟨h.disk.trans h'.disk, h'.length.trans h.length, fun c => (h'.database c).trans (h.database c),
    fun c hc => h.isOpen c (h'.isOpen c hc)⟩

theorem Secluded.same (hsame : e.SameConnections e') (h : e.Secluded c) : e'.Secluded c where
  noFile p hnode := by
    rw [hsame.database] at hnode
    exact h.noFile p ((hsame.disk.databases p _).1 hnode)
  alone x hx hd := by
    rw [hsame.length] at hx
    rw [hsame.database, hsame.database] at hd
    exact h.alone x hx hd

theorem same_setTransaction (e : Engine) (c : ConnectionId) (tr : Transaction) :
    e.SameConnections (e.setTransaction c tr) := by
  have hconnection : ∀ x, ((e.setTransaction c tr).connection x).database =
      (e.connection x).database ∧
        ((e.setTransaction c tr).connection x).isOpen = (e.connection x).isOpen := by
    intro x
    by_cases hx : x = c
    · subst hx
      rcases Nat.lt_or_ge x e.connections.length with hlt | hge
      · rw [connection_setTransaction hlt]; exact ⟨rfl, rfl⟩
      · rw [connection_of_ge hge, connection_of_ge (by rw [length_setTransaction]; exact hge)]
        exact ⟨rfl, rfl⟩
    · rw [connection_setTransaction_of_ne hx]; exact ⟨rfl, rfl⟩
  exact ⟨.refl _, length_setTransaction tr, fun x => (hconnection x).1,
    fun x hx => (hconnection x).2 ▸ hx⟩

theorem same_setDatabase (e : Engine) (d : DatabaseId) (state : Database) :
    e.SameConnections (e.setDatabase d state) := ⟨.refl _, rfl, fun _ => rfl, fun _ h => h⟩

theorem same_commit (e : Engine) (c : ConnectionId) : e.SameConnections (e.commit c) := by
  unfold commit
  exact (same_setDatabase e _ _).trans (same_setTransaction _ c .idle)

theorem same_close (e : Engine) (c : ConnectionId) : e.SameConnections (e.close c) := by
  refine ⟨.refl _, List.length_modify .., ?_, ?_⟩
  · intro x
    by_cases hx : x = c
    · rw [hx, connection_close]
    · rw [connection_close_of_ne hx]
  · intro x hx
    by_cases hxc : x = c
    · rw [hxc, connection_close] at hx; cases hx
    · rwa [connection_close_of_ne hxc] at hx

theorem same_put (e : Engine) (c : ConnectionId) (key : Bytes) (family : Text) (cells : Cells) :
    e.SameConnections (e.put c key family cells).2 := by
  cases hview : e.view c with
  | error f =>
    rw [put, hview]
    exact .refl e
  | ok t =>
    have hcases := put_cases (lt_of_view hview) key family cells
    generalize e.put c key family cells = result at hcases ⊢
    obtain ⟨outcome, after⟩ := result
    cases hcases with
    | unseen f _ => exact .refl _
    | empty t _ _ => exact same_commit _ c
    | refused t _ x _ _ => exact same_setTransaction _ c _
    | locked t _ f _ _ => exact same_setTransaction _ c _
    | stuck t _ x _ _ _ => exact same_setTransaction _ c _
    | committed t _ _ _ _ => exact (same_setDatabase _ _ _).trans (same_setTransaction _ c .idle)

theorem same_ensureTable (e : Engine) (c : ConnectionId) :
    e.SameConnections (e.ensureTable c).2 := by
  unfold ensureTable
  split
  · exact .refl e
  · dsimp only
    have hcommit := same_commit e c
    split
    · exact hcommit
    · split
      · exact hcommit
      · exact (hcommit.trans (same_setTransaction _ c _)).trans (same_commit _ c)

/-! ## A new connection -/

theorem view_addConnection {d : DatabaseId} {t : Table} (hcells : (e.database d).cells = some t) :
    (e.addConnection d).2.view e.connections.length = .ok t := by
  rw [view_eq_ok_iff, databaseOf, connection_addConnection_self]
  exact ⟨rfl, hcells⟩

/-- A new connection gets the lock where nobody is writing. -/
theorem lock_addConnection_iff (e : Engine) (d : DatabaseId) :
    (∃ base, (e.addConnection d).2.lock e.connections.length = .ok base) ↔
      ∀ x < e.connections.length, (e.connection x).database = d →
        (e.connection x).transaction.isWriting = false := by
  have hnew := e.connection_addConnection_self d
  constructor
  · rintro ⟨base, hlock⟩ x hx hd
    rw [Bool.eq_false_iff]
    intro hw
    have hlocked : (e.addConnection d).2.isLockedFor e.connections.length = true := by
      refine isLockedFor_iff.2 ⟨x, ?_, Nat.ne_of_lt hx, ?_, ?_⟩
      · rw [length_addConnection]; omega
      · rw [connection_addConnection_of_lt hx, hnew, hd]
      · rw [connection_addConnection_of_lt hx, hw]
    unfold lock at hlock
    rw [hlocked, hnew] at hlock
    cases hlock
  · intro hfree
    refine ⟨_, lock_of_free ?_ (by rw [hnew]; rfl)⟩
    intro x hx hne hd
    rw [length_addConnection] at hx
    have hlt : x < e.connections.length := Nat.lt_of_le_of_ne (Nat.le_of_lt_succ hx) hne
    rw [connection_addConnection_of_lt hlt, hnew] at hd
    rw [connection_addConnection_of_lt hlt]
    exact hfree x hlt hd

end HourlyUsage.Engine
