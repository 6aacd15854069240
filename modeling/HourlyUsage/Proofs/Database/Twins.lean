import HourlyUsage.Proofs.Database.Connections
import HourlyUsage.Proofs.Database.Failing
/-!
# Engines that cannot be told apart

A database that has no file and one connection is changed and read through that connection only. Two
engines in which this connection sees the same table, and everything else is the same, answer every
operation alike, although in one of them the connection may be in the middle of a transaction.

Sources: the statements of a store on a database without a file.

Results:
* `Twins.view`, `Twins.lock`: what can be read is the same, and so is who gets the lock.
* `Twins.put`, `Twins.ensureTable` and the like: every operation answers alike and leaves twins.
-/
namespace HourlyUsage

/-- What a transaction has read is the committed state. -/
def Transaction.Current (d : Database) : Transaction → Prop
  | reading snapshot version => d.cells = some snapshot ∧ version = d.version
  | _ => True

namespace Transaction

variable {d : Database} {tr : Transaction}

theorem Current.base? (h : tr.Current d) : tr.base? d = some (tr.view d) := by
  cases tr with
  | reading snapshot version => rw [Transaction.base?, if_pos h.2]; rfl
  | _ => rfl

theorem Current.cells_commit (h : tr.Current d) : (tr.commit d).cells = tr.view d := by
  cases tr with
  | reading snapshot version => exact h.1
  | _ => rfl

theorem Current.cells_of_not_writing (h : tr.Current d) (hquiet : tr.isWriting = false) :
    d.cells = tr.view d := by
  cases tr with
  | reading snapshot version => exact h.1
  | writing work => cases hquiet
  | _ => rfl

theorem Current.start (h : tr.Current d) : tr.start.Current d := by
  cases tr with
  | idle => exact True.intro
  | _ => exact h

theorem Current.read (h : tr.Current d) : (tr.read d).Current d := by
  cases tr with
  | begun =>
    cases hcells : d.cells with
    | none => rw [Transaction.read, hcells]; exact h
    | some t => rw [Transaction.read, hcells]; exact ⟨hcells, rfl⟩
  | _ => exact h

theorem view_start (d : Database) (tr : Transaction) : tr.start.view d = tr.view d := by
  cases tr <;> rfl

end Transaction

namespace Engine

/-- The connection has its database to itself, and has read nothing but its committed state. -/
structure Owns (e : Engine) (c : ConnectionId) : Prop where
  isConnection : c < e.connections.length
  isDatabase : (e.connection c).database < e.databases.length
  secluded : e.Secluded c
  current : (e.connection c).transaction.Current (e.databaseOf c)

/-- The engines differ at most in the state of one database that one connection has to itself, and
that connection sees the same. -/
structure Twins (e e' : Engine) (c : ConnectionId) : Prop where
  disk : e'.disk = e.disk
  databases : e'.databases.length = e.databases.length
  connections : e'.connections.length = e.connections.length
  others : ∀ x, x ≠ c → e'.connection x = e.connection x
  home : (e'.connection c).database = (e.connection c).database
  isOpen : (e'.connection c).isOpen = (e.connection c).isOpen
  elsewhere : ∀ d, d ≠ (e.connection c).database → e'.database d = e.database d
  cells : (e'.databaseOf c).cells = (e.databaseOf c).cells
  sees : (e'.connection c).transaction.view (e'.databaseOf c) =
    (e.connection c).transaction.view (e.databaseOf c)
  owns : e.Owns c
  owns' : e'.Owns c

variable {e e' : Engine} {c : ConnectionId}

theorem Secluded.ne_database (h : e.Secluded c) {x : ConnectionId} (hx : x < e.connections.length)
    (hne : x ≠ c) : (e.connection x).database ≠ (e.connection c).database :=
  fun heq => hne (h.alone x hx heq)

/-- Who has a database to himself always gets the lock. -/
theorem Owns.lock (h : e.Owns c) :
    e.lock c = .ok ((e.connection c).transaction.view (e.databaseOf c)) := by
  have hfree : e.isLockedFor c = false := by
    rw [isLockedFor, List.any_eq_false]
    intro x hx
    by_cases hxc : x = c
    · simp [hxc]
    · simp [h.secluded.ne_database (List.mem_range.1 hx) hxc]
  rw [Engine.lock, hfree, h.current.base?]
  dsimp only
  split <;> rfl

theorem current_of_lock (hs : e.Sound) {base : Option Table} (hlock : e.lock c = .ok base) :
    (e.connection c).transaction.Current (e.databaseOf c) := by
  have hbase := base_of_lock hlock
  have hfits := hs.fits c
  cases htr : (e.connection c).transaction with
  | reading snapshot version =>
    rw [htr] at hbase hfits
    obtain ⟨t, ht, -, -, hcurrent⟩ := hfits
    rw [Transaction.base?] at hbase
    split at hbase
    · next hversion => exact ⟨hcurrent hversion ▸ ht, hversion⟩
    · cases hbase
  | _ => exact True.intro

namespace Twins

theorem refl (h : e.Owns c) : e.Twins e c :=
  ⟨rfl, rfl, rfl, fun _ _ => rfl, rfl, rfl, fun _ _ => rfl, rfl, rfl, h, h⟩

theorem database (h : e.Twins e' c) (x : ConnectionId) :
    (e'.connection x).database = (e.connection x).database := by
  by_cases hx : x = c
  · rw [hx]; exact h.home
  · rw [h.others x hx]

theorem openAlike (h : e.Twins e' c) (x : ConnectionId) :
    (e'.connection x).isOpen = (e.connection x).isOpen := by
  by_cases hx : x = c
  · rw [hx]; exact h.isOpen
  · rw [h.others x hx]

theorem databaseOf (h : e.Twins e' c) {x : ConnectionId} (hx : x < e.connections.length)
    (hne : x ≠ c) : e'.databaseOf x = e.databaseOf x := by
  rw [Engine.databaseOf, h.database, h.elsewhere _ (h.owns.secluded.ne_database hx hne)]
  rfl

/-- Every connection sees the same in both engines. -/
theorem view (h : e.Twins e' c) (x : ConnectionId) : e'.view x = e.view x := by
  cases hopen : (e.connection x).isOpen with
  | false => rw [view_of_closed hopen, view_of_closed ((h.openAlike x).trans hopen)]
  | true =>
    rw [Engine.view, Engine.view, h.openAlike x, hopen]
    by_cases hx : x = c
    · rw [hx, h.sees]
    · rw [h.others x hx, h.databaseOf (lt_of_isOpen hopen) hx]

/-- The lock is given for the same state in both engines. -/
theorem lock (h : e.Twins e' c) {x : ConnectionId} (hx : x < e.connections.length) :
    e'.lock x = e.lock x := by
  by_cases hxc : x = c
  · rw [hxc, h.owns.lock, h.owns'.lock, h.sees]
  · have hlocked : e'.isLockedFor x = e.isLockedFor x := by
      unfold isLockedFor
      rw [h.connections]
      congr 1
      funext other
      by_cases hother : other = c
      · have hne : ((e.connection c).database == (e.connection x).database) = false :=
          beq_eq_false_iff_ne.2 (h.owns.secluded.ne_database hx hxc).symm
        simp [hother, h.database, hne]
      · rw [h.others other hother, h.others x hxc]
    rw [Engine.lock, Engine.lock, hlocked, h.others x hxc, h.databaseOf hx hxc]

/-! ## Operations -/

/-- What the connections are in the middle of changes in both engines, and no database does. -/
theorem replaced (h : e.Twins e' c) {f f' : Engine} (hsame : e.SameConnections f)
    (hsame' : e'.SameConnections f') (hdisk : f'.disk = f.disk)
    (hdatabases : f.databases = e.databases) (hdatabases' : f'.databases = e'.databases)
    (hothers : ∀ x, x ≠ c → f'.connection x = f.connection x)
    (hopen : (f'.connection c).isOpen = (f.connection c).isOpen)
    (hsees : (f'.connection c).transaction.view (e'.databaseOf c) =
      (f.connection c).transaction.view (e.databaseOf c))
    (hcurrent : (f.connection c).transaction.Current (e.databaseOf c))
    (hcurrent' : (f'.connection c).transaction.Current (e'.databaseOf c)) : f.Twins f' c := by
  have hdatabase : ∀ d, f.database d = e.database d := by
    intro d
    rw [Engine.database, Engine.database, hdatabases]
  have hdatabase' : ∀ d, f'.database d = e'.database d := by
    intro d
    rw [Engine.database, Engine.database, hdatabases']
  have hdatabaseOf : f.databaseOf c = e.databaseOf c := by
    rw [Engine.databaseOf, hsame.database, hdatabase]; rfl
  have hdatabaseOf' : f'.databaseOf c = e'.databaseOf c := by
    rw [Engine.databaseOf, hsame'.database, hdatabase']; rfl
  refine ⟨hdisk, ?_, ?_, hothers, ?_, hopen, ?_, ?_, ?_,
    ⟨?_, ?_, h.owns.secluded.same hsame, ?_⟩, ⟨?_, ?_, h.owns'.secluded.same hsame', ?_⟩⟩
  · rw [hdatabases, hdatabases', h.databases]
  · rw [hsame.length, hsame'.length, h.connections]
  · rw [hsame.database, hsame'.database, h.home]
  · intro d hd
    rw [hsame.database] at hd
    rw [hdatabase, hdatabase', h.elsewhere d hd]
  · rw [hdatabaseOf, hdatabaseOf', h.cells]
  · rw [hdatabaseOf, hdatabaseOf', hsees]
  · rw [hsame.length]; exact h.owns.isConnection
  · rw [hsame.database, hdatabases]; exact h.owns.isDatabase
  · rw [hdatabaseOf]; exact hcurrent
  · rw [hsame'.length]; exact h.owns'.isConnection
  · rw [hsame'.database, hdatabases']; exact h.owns'.isDatabase
  · rw [hdatabaseOf']; exact hcurrent'

/-- A transaction is replaced in both engines: by the same one, or by two that see the same. -/
theorem setTransaction (h : e.Twins e' c) (x : ConnectionId) {tr tr' : Transaction}
    (hother : x ≠ c → tr' = tr)
    (hself : x = c → tr'.view (e'.databaseOf c) = tr.view (e.databaseOf c) ∧
      tr.Current (e.databaseOf c) ∧ tr'.Current (e'.databaseOf c)) :
    (e.setTransaction x tr).Twins (e'.setTransaction x tr') c := by
  have hsame := same_setTransaction e x tr
  have hsame' := same_setTransaction e' x tr'
  have hothers : ∀ y, y ≠ c →
      (e'.setTransaction x tr').connection y = (e.setTransaction x tr).connection y := by
    intro y hy
    by_cases hyx : y = x
    · subst hyx
      rw [hother hy]
      rcases Nat.lt_or_ge y e.connections.length with hlt | hge
      · rw [connection_setTransaction hlt, connection_setTransaction (h.connections ▸ hlt),
          h.others y hy]
      · rw [setTransaction_of_ge hge, setTransaction_of_ge (h.connections ▸ hge), h.others y hy]
    · rw [connection_setTransaction_of_ne hyx, connection_setTransaction_of_ne hyx, h.others y hy]
  by_cases hx : c = x
  · subst hx
    obtain ⟨hview, hcurrent, hcurrent'⟩ := hself rfl
    have hset := connection_setTransaction h.owns.isConnection tr
    have hset' := connection_setTransaction h.owns'.isConnection tr'
    refine h.replaced hsame hsame' h.disk rfl rfl hothers ?_ ?_ ?_ ?_
    · rw [hset, hset']; exact h.isOpen
    · rw [hset, hset']; exact hview
    · rw [hset]; exact hcurrent
    · rw [hset']; exact hcurrent'
  · have hset := connection_setTransaction_of_ne (e := e) hx tr
    have hset' := connection_setTransaction_of_ne (e := e') hx tr'
    refine h.replaced hsame hsame' h.disk rfl rfl hothers ?_ ?_ ?_ ?_
    · rw [hset, hset']; exact h.isOpen
    · rw [hset, hset']; exact h.sees
    · rw [hset]; exact h.owns.current
    · rw [hset']; exact h.owns'.current

theorem close (h : e.Twins e' c) (x : ConnectionId) : (e.close x).Twins (e'.close x) c := by
  have hsame := same_close e x
  have hsame' := same_close e' x
  have hothers : ∀ y, y ≠ c → (e'.close x).connection y = (e.close x).connection y := by
    intro y hy
    by_cases hyx : y = x
    · subst hyx
      rw [connection_close, connection_close, h.others y hy]
    · rw [connection_close_of_ne hyx, connection_close_of_ne hyx, h.others y hy]
  by_cases hx : c = x
  · subst hx
    refine h.replaced hsame hsame' h.disk rfl rfl hothers ?_ ?_ ?_ ?_ <;>
      simp only [connection_close]
    · exact h.cells
    · exact True.intro
    · exact True.intro
  · have hset := connection_close_of_ne (e := e) hx
    have hset' := connection_close_of_ne (e := e') hx
    refine h.replaced hsame hsame' h.disk rfl rfl hothers ?_ ?_ ?_ ?_
    · rw [hset, hset']; exact h.isOpen
    · rw [hset, hset']; exact h.sees
    · rw [hset]; exact h.owns.current
    · rw [hset']; exact h.owns'.current

theorem setDatabase (h : e.Twins e' c) {d : DatabaseId} (hd : d ≠ (e.connection c).database)
    (state : Database) : (e.setDatabase d state).Twins (e'.setDatabase d state) c := by
  have hold : (e.setDatabase d state).databaseOf c = e.databaseOf c :=
    database_setDatabase_of_ne (Ne.symm hd) state
  have hold' : (e'.setDatabase d state).databaseOf c = e'.databaseOf c :=
    database_setDatabase_of_ne (h.home ▸ Ne.symm hd) state
  refine ⟨h.disk, ?_, h.connections, h.others, h.home, h.isOpen, ?_, ?_, ?_,
    ⟨h.owns.isConnection, ?_, h.owns.secluded.same (same_setDatabase e d state), ?_⟩,
    ⟨h.owns'.isConnection, ?_, h.owns'.secluded.same (same_setDatabase e' d state), ?_⟩⟩
  · rw [length_setDatabase, length_setDatabase, h.databases]
  · intro n hn
    by_cases hnd : n = d
    · subst hnd
      rcases Nat.lt_or_ge n e.databases.length with hlt | hge
      · rw [database_setDatabase hlt, database_setDatabase (h.databases ▸ hlt)]
      · rw [Engine.setDatabase, Engine.setDatabase, List.set_eq_of_length_le hge,
          List.set_eq_of_length_le (h.databases ▸ hge)]
        exact h.elsewhere n hn
    · rw [database_setDatabase_of_ne hnd, database_setDatabase_of_ne hnd]
      exact h.elsewhere n hn
  · rw [hold, hold']; exact h.cells
  · rw [hold, hold']; exact h.sees
  · rw [length_setDatabase]; exact h.owns.isDatabase
  · rw [hold]; exact h.owns.current
  · rw [length_setDatabase]; exact h.owns'.isDatabase
  · rw [hold']; exact h.owns'.current

/-- A commit of the connection itself makes what it sees the committed state in both engines. -/
theorem commit_self (h : e.Twins e' c) : (e.commit c).Twins (e'.commit c) c := by
  have hself := connection_commit h.owns.isConnection
  have hself' := connection_commit h.owns'.isConnection
  have hdatabaseOf : (e.commit c).databaseOf c =
      (e.connection c).transaction.commit (e.databaseOf c) := by
    rw [Engine.databaseOf, hself]
    exact database_commit h.owns.isDatabase
  have hdatabaseOf' : (e'.commit c).databaseOf c =
      (e'.connection c).transaction.commit (e'.databaseOf c) := by
    rw [Engine.databaseOf, hself']
    exact database_commit h.owns'.isDatabase
  have hcells : ((e'.commit c).databaseOf c).cells = ((e.commit c).databaseOf c).cells := by
    rw [hdatabaseOf, hdatabaseOf', h.owns.current.cells_commit, h.owns'.current.cells_commit,
      h.sees]
  refine ⟨h.disk, ?_, ?_, ?_, ?_, ?_, ?_, hcells, ?_, ⟨?_, ?_, ?_, ?_⟩, ⟨?_, ?_, ?_, ?_⟩⟩
  · rw [length_databases_commit, length_databases_commit, h.databases]
  · rw [(same_commit e c).length, (same_commit e' c).length, h.connections]
  · intro x hx
    rw [connection_commit_of_ne hx, connection_commit_of_ne hx, h.others x hx]
  · rw [hself, hself']; exact h.home
  · rw [hself, hself']; exact h.isOpen
  · intro d hd
    rw [hself] at hd
    rw [database_commit_of_ne hd, database_commit_of_ne (h.home.symm ▸ hd), h.elsewhere d hd]
  · rw [hself, hself']; exact hcells
  · rw [(same_commit e c).length]; exact h.owns.isConnection
  · rw [hself, length_databases_commit]; exact h.owns.isDatabase
  · exact h.owns.secluded.same (same_commit e c)
  · rw [hself]; exact True.intro
  · rw [(same_commit e' c).length]; exact h.owns'.isConnection
  · rw [hself', length_databases_commit]; exact h.owns'.isDatabase
  · exact h.owns'.secluded.same (same_commit e' c)
  · rw [hself']; exact True.intro

theorem idle (h : e.Twins e' c) {x : ConnectionId} (hx : x ≠ c) :
    (e.setTransaction x .idle).Twins (e'.setTransaction x .idle) c :=
  h.setTransaction x (fun _ => rfl) fun heq => absurd heq hx

theorem commit (h : e.Twins e' c) {x : ConnectionId} (hx : x < e.connections.length) :
    (e.commit x).Twins (e'.commit x) c := by
  by_cases hxc : x = c
  · rw [hxc]; exact h.commit_self
  · have hset := (h.setDatabase (h.owns.secluded.ne_database hx hxc)
      ((e.connection x).transaction.commit (e.databaseOf x))).idle hxc
    have heq : e'.commit x = (e'.setDatabase (e.connection x).database
        ((e.connection x).transaction.commit (e.databaseOf x))).setTransaction x .idle := by
      rw [Engine.commit, h.others x hxc, h.databaseOf hx hxc]
    rw [heq]
    exact hset

theorem start (h : e.Twins e' c) (x : ConnectionId) :
    (e.setTransaction x (e.connection x).transaction.start).Twins
      (e'.setTransaction x (e'.connection x).transaction.start) c := by
  refine h.setTransaction x (fun hx => by rw [h.others x hx]) ?_
  rintro rfl
  rw [Transaction.view_start, Transaction.view_start]
  exact ⟨h.sees, h.owns.current.start, h.owns'.current.start⟩

theorem write (h : e.Twins e' c) (x : ConnectionId) (work : Option Table) :
    (e.setTransaction x (.writing work)).Twins (e'.setTransaction x (.writing work)) c :=
  h.setTransaction x (fun _ => rfl) fun _ => ⟨rfl, True.intro, True.intro⟩

theorem afterRead (h : e.Twins e' c) (x : ConnectionId) :
    (e.afterRead x).Twins (e'.afterRead x) c := by
  unfold Engine.afterRead
  rcases Nat.lt_or_ge x e.connections.length with hx | hx
  · refine h.setTransaction x (fun hxc => by rw [h.others x hxc, h.databaseOf hx hxc]) ?_
    rintro rfl
    simp only [Transaction.view_read]
    exact ⟨h.sees, h.owns.current.read, h.owns'.current.read⟩
  · rw [setTransaction_of_ge hx, setTransaction_of_ge (by rw [h.connections]; exact hx)]
    exact h

/-- A write ends alike in both engines. -/
theorem put (h : e.Twins e' c) (x : ConnectionId) (key : Bytes) (family : Text) (cells : Cells) :
    (e'.put x key family cells).1 = (e.put x key family cells).1 ∧
      (e.put x key family cells).2.Twins (e'.put x key family cells).2 c := by
  cases hview : e.view x with
  | error f =>
    rw [put_unseen hview, put_unseen ((h.view x).trans hview)]
    exact ⟨rfl, h⟩
  | ok t =>
    have hx := lt_of_view hview
    have hwritten := h.write x (some (t.putAll key family (accepted family cells)))
    have hstarted := h.start x
    rw [put_eq hview hx, put_eq ((h.view x).trans hview) (h.connections ▸ hx), h.lock hx]
    split
    · split
      · exact ⟨rfl, hstarted⟩
      · exact ⟨rfl, h.commit hx⟩
    · split
      · exact ⟨rfl, hstarted⟩
      · split
        · exact ⟨rfl, hwritten⟩
        · exact ⟨rfl, hwritten.commit (by rw [length_setTransaction]; exact hx)⟩

/-- The table is made alike in both engines. -/
theorem ensureTable (h : e.Twins e' c) (x : ConnectionId) :
    (e'.ensureTable x).1 = (e.ensureTable x).1 ∧
      (e.ensureTable x).2.Twins (e'.ensureTable x).2 c := by
  unfold Engine.ensureTable
  rw [h.openAlike x]
  cases hopen : (e.connection x).isOpen with
  | false => exact ⟨rfl, h⟩
  | true =>
    have hx := lt_of_isOpen hopen
    have hcommit := h.commit hx
    have hself := connection_commit hx
    have hself' := connection_commit (e := e') (h.connections ▸ hx)
    have hin : x < (e.commit x).connections.length := by rw [(same_commit e x).length]; exact hx
    -- After the commit the connection sees what is committed.
    have hcells : ((e'.commit x).databaseOf x).cells = ((e.commit x).databaseOf x).cells := by
      by_cases hxc : x = c
      · subst hxc
        have hsees := hcommit.sees
        rw [hself, hself'] at hsees
        exact hsees
      · rw [hcommit.databaseOf hin hxc]
    rw [if_neg (by simp), if_neg (by simp)]
    dsimp only
    rw [hcells, hcommit.lock hin]
    split
    · exact ⟨rfl, hcommit⟩
    · split
      · exact ⟨rfl, hcommit⟩
      · refine ⟨rfl, (hcommit.write x (some .empty)).commit ?_⟩
        rw [length_setTransaction]
        exact hin

/-! ## New connections and databases -/

theorem withDisk (h : e.Twins e' c) {disk : Disk} (hfiles : e.disk.SameFiles disk) :
    Twins { e with disk } { e' with disk } c := by
  have hnoFile : ∀ p, disk.node? p ≠ some (.database (e.connection c).database) := by
    intro p hp
    exact h.owns.secluded.noFile p ((hfiles.databases p _).1 hp)
  refine ⟨rfl, h.databases, h.connections, h.others, h.home, h.isOpen, h.elsewhere, h.cells, h.sees,
    ⟨h.owns.isConnection, h.owns.isDatabase, ⟨hnoFile, h.owns.secluded.alone⟩, h.owns.current⟩,
    ⟨h.owns'.isConnection, h.owns'.isDatabase, ⟨?_, h.owns'.secluded.alone⟩, h.owns'.current⟩⟩
  intro p hp
  have hp : disk.node? p = some (.database (e'.connection c).database) := hp
  rw [h.home] at hp
  exact hnoFile p hp

theorem owns_addConnection {e : Engine} (h : e.Owns c) {d : DatabaseId}
    (hd : d ≠ (e.connection c).database) : (e.addConnection d).2.Owns c := by
  have hold := connection_addConnection_of_lt h.isConnection d
  refine ⟨?_, ?_, ⟨?_, ?_⟩, ?_⟩
  · simpa using Nat.lt_succ_of_lt h.isConnection
  · rw [hold]; exact h.isDatabase
  · intro p
    rw [hold]; exact h.secluded.noFile p
  · intro x hx heq
    rw [hold] at heq
    rw [length_addConnection] at hx
    rcases Nat.lt_or_eq_of_le (Nat.le_of_lt_succ hx) with hlt | rfl
    · rw [connection_addConnection_of_lt hlt] at heq
      exact h.secluded.alone x hlt heq
    · rw [connection_addConnection_self] at heq
      exact absurd heq hd
  · rw [Engine.databaseOf, hold]; exact h.current

theorem addConnection (h : e.Twins e' c) {d : DatabaseId} (hd : d ≠ (e.connection c).database) :
    (e.addConnection d).2.Twins (e'.addConnection d).2 c := by
  have hold := connection_addConnection_of_lt h.owns.isConnection d
  have hold' := connection_addConnection_of_lt h.owns'.isConnection d
  refine ⟨h.disk, h.databases, ?_, ?_, ?_, ?_, ?_, ?_, ?_,
    owns_addConnection h.owns hd, owns_addConnection h.owns' (h.home.symm ▸ hd)⟩
  · simp [h.connections]
  · intro x hx
    rcases Nat.lt_trichotomy x e.connections.length with hlt | rfl | hgt
    · rw [connection_addConnection_of_lt hlt, connection_addConnection_of_lt (h.connections ▸ hlt)]
      exact h.others x hx
    · rw [connection_addConnection_self, ← h.connections, connection_addConnection_self]
    · rw [connection_of_ge (by rw [length_addConnection, h.connections]; exact hgt),
        connection_of_ge (by rw [length_addConnection]; exact hgt)]
  · rw [hold, hold', h.home]
  · rw [hold, hold', h.isOpen]
  · intro n hn
    rw [hold] at hn
    exact h.elsewhere n hn
  · rw [Engine.databaseOf, Engine.databaseOf, hold, hold']; exact h.cells
  · rw [Engine.databaseOf, Engine.databaseOf, hold, hold']; exact h.sees

theorem owns_addDatabase {e : Engine} (h : e.Owns c) {disk : Disk}
    (hnoFile : ∀ p, disk.node? p ≠ some (.database (e.connection c).database)) :
    Owns { e with disk, databases := e.databases ++ [{}] } c := by
  have hsame : Engine.database { e with disk, databases := e.databases ++ [{}] }
      (e.connection c).database = e.databaseOf c :=
    database_of_lt h.isDatabase (List.getElem?_append_left h.isDatabase)
  refine ⟨h.isConnection, ?_, ⟨hnoFile, h.secluded.alone⟩, ?_⟩
  · dsimp only
    rw [List.length_append]
    exact Nat.lt_succ_of_lt h.isDatabase
  · have hcurrent := h.current
    rw [← hsame] at hcurrent
    exact hcurrent

theorem addDatabase (h : e.Twins e' c) {disk : Disk}
    (hnoFile : ∀ p, disk.node? p ≠ some (.database (e.connection c).database)) :
    Twins { e with disk, databases := e.databases ++ [{}] }
      { e' with disk, databases := e'.databases ++ [{}] } c := by
  have hsame : ∀ {e : Engine}, e.Owns c →
      Engine.database { e with disk, databases := e.databases ++ [{}] }
        (e.connection c).database = e.databaseOf c :=
    fun h => database_of_lt h.isDatabase (List.getElem?_append_left h.isDatabase)
  refine ⟨rfl, ?_, h.connections, h.others, h.home, h.isOpen, ?_, ?_, ?_,
    owns_addDatabase h.owns hnoFile, owns_addDatabase h.owns' (h.home.symm ▸ hnoFile)⟩
  · simp [h.databases]
  · intro d hd
    rcases Nat.lt_or_ge d e.databases.length with hlt | hge
    · have hold : Engine.database { e with disk, databases := e.databases ++ [{}] } d =
          e.database d := database_of_lt hlt (List.getElem?_append_left hlt)
      have hlt' : d < e'.databases.length := h.databases ▸ hlt
      have hold' : Engine.database { e' with disk, databases := e'.databases ++ [{}] } d =
          e'.database d := database_of_lt hlt' (List.getElem?_append_left hlt')
      rw [hold, hold', h.elsewhere d hd]
    · have hfresh : ∀ e : Engine, e.databases.length ≤ d →
          Engine.database { e with disk, databases := e.databases ++ [{}] } d = {} := by
        intro e hge
        unfold Engine.database
        rcases Nat.lt_or_eq_of_le hge with hlt | rfl
        · have hbeyond : (e.databases ++ [({} : Database)]).length ≤ d := by
            rw [List.length_append]
            exact hlt
          rw [List.getD_eq_getElem?_getD, List.getElem?_eq_none hbeyond]
          rfl
        · simp
      rw [hfresh e hge, hfresh e' (h.databases ▸ hge)]
  · exact (congrArg Database.cells (hsame h.owns')).trans
      (h.cells.trans (congrArg Database.cells (hsame h.owns)).symm)
  · have hview := h.sees
    rw [← hsame h.owns, ← hsame h.owns'] at hview
    exact hview

theorem connect (h : e.Twins e' c) (path : Text) :
    (e'.connect path).1 = (e.connect path).1 ∧ (e.connect path).2.Twins (e'.connect path).2 c := by
  have hhome : e.databases.length ≠ (e.connection c).database := Nat.ne_of_gt h.owns.isDatabase
  unfold Engine.connect
  rw [h.disk]
  split
  · refine ⟨congrArg Except.ok h.connections, ?_⟩
    have hadd := (h.addDatabase h.owns.secluded.noFile).addConnection hhome
    dsimp only [Engine.addDatabase]
    rw [h.databases, h.disk]
    exact hadd
  · dsimp only
    split
    · exact ⟨rfl, h⟩
    · exact ⟨rfl, h⟩
    · next d hnode =>
      refine ⟨congrArg Except.ok h.connections, h.addConnection ?_⟩
      rintro rfl
      exact h.owns.secluded.noFile _ hnode
    · next hfree =>
      split
      · refine ⟨congrArg Except.ok h.connections, ?_⟩
        dsimp only [Engine.addDatabase]
        rw [h.databases, h.disk]
        refine (h.addDatabase ?_).addConnection hhome
        intro p hp
        by_cases hplace : Path.resolve e.disk.workingDirectory path = p
        · rw [← hplace, Disk.node?_set_self hfree] at hp
          exact hhome (Node.database.inj (Option.some.inj hp))
        · rw [Disk.node?_set_of_ne _ hplace] at hp
          exact h.owns.secluded.noFile p hp
      · exact ⟨rfl, h⟩

end Twins

end Engine

end HourlyUsage
