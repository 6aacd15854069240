import HourlyUsage.Proofs.Database.Connections
import HourlyUsage.Proofs.Store.Growth
import HourlyUsage.Proofs.Store.Serving
/-!
# Whose connections they are

Every open connection belongs to one worker of one store, who can go on using it, or to a database
that nobody else can reach. A connection of a store in a file is a connection to the database in
that file; a connection of a private store has its database for itself.

Sources: `get_connection`, `close`, `close_all`, `_create_connection`.

Results:
* `registered_perform`: what one step of any worker preserves.
* `registered_after`: so it is whatever was done since the start.
-/
namespace HourlyUsage

namespace Store

theorem current?_eq_some_iff {store : Store} {w : Worker} {c : ConnectionId} :
    store.current? w = some c ↔
      (store.slot w).generation = some store.generation ∧ (store.slot w).connection = some c := by
  unfold current?
  dsimp only
  split
  · next h => simp [h]
  · next h => simp [h]

theorem slot_vacate_self (store : Store) (w : Worker) :
    (store.vacate w).slot w = { store.slot w with connection := none } := by
  rw [slot, vacate, Assoc.get?_set_self]; rfl

theorem slot_vacate_of_ne (store : Store) {w w' : Worker} (hne : w' ≠ w) :
    (store.vacate w).slot w' = store.slot w' := by
  rw [slot, vacate, Assoc.get?_set_of_ne (Ne.symm hne)]; rfl

theorem generation_slot_vacate (store : Store) (w w' : Worker) :
    ((store.vacate w).slot w').generation = (store.slot w').generation := by
  by_cases hw : w' = w
  · rw [hw, slot_vacate_self]
  · rw [slot_vacate_of_ne store hw]

/-- Who has a connection after a slot was emptied had it before, and is somebody else. -/
theorem current?_vacate {store : Store} {w w' : Worker} {c : ConnectionId}
    (h : (store.vacate w).current? w' = some c) : w' ≠ w ∧ store.current? w' = some c := by
  rw [current?_eq_some_iff, generation_slot_vacate] at h
  by_cases hw : w' = w
  · rw [hw, slot_vacate_self] at h
    cases h.2
  · rw [slot_vacate_of_ne store hw] at h
    exact ⟨hw, current?_eq_some_iff.2 h⟩

theorem current?_vacate_of_ne (store : Store) {w w' : Worker} (hne : w' ≠ w) :
    (store.vacate w).current? w' = store.current? w' := by
  rw [current?, current?, slot_vacate_of_ne store hne]; rfl

end Store

namespace Host

/-- Every open connection belongs to somebody, and every connection to its own file. -/
structure Registered (h : Host) : Prop where
  inRange : ∀ s w c, (h.store s).current? w = some c → c < h.engine.connections.length
  generation : ∀ s w g, ((h.store s).slot w).generation = some g → g ≤ (h.store s).generation
  /-- A store can close every connection that somebody can use. -/
  listed : ∀ s w c, (h.store s).current? w = some c → (h.engine.connection c).isOpen = true →
    c ∈ (h.store s).connections
  owner : ∀ c, (h.engine.connection c).isOpen = true →
    (∃ s w, (h.store s).current? w = some c) ∨ h.engine.Secluded c
  home : ∀ s w c, (h.store s).current? w = some c → Engine.isPrivate (h.store s).path = false →
    h.engine.disk.node? (Path.resolve h.engine.disk.workingDirectory (h.store s).path) =
      some (.database (h.engine.connection c).database)
  secluded : ∀ s w c, (h.store s).current? w = some c →
    Engine.isPrivate (h.store s).path = true → h.engine.Secluded c

variable {h : Host}

theorem Registered.engine (hr : h.Registered) {e' : Engine}
    (hsame : h.engine.SameConnections e') : Registered { h with engine := e' } where
  inRange s w c hc := by rw [hsame.length]; exact hr.inRange s w c hc
  generation := hr.generation
  listed s w c hc hopen := hr.listed s w c hc (hsame.isOpen c hopen)
  owner c hopen := (hr.owner c (hsame.isOpen c hopen)).imp id (.same hsame)
  home s w c hc hshared := by
    rw [hsame.disk.workingDirectory, hsame.disk.databases, hsame.database]
    exact hr.home s w c hc hshared
  secluded s w c hc hprivate := (hr.secluded s w c hc hprivate).same hsame

theorem Registered.congr {h' : Host} (hr : h.Registered) (hengine : h'.engine = h.engine)
    (hstores : h'.stores = h.stores) : h'.Registered := by
  have hstore : ∀ s, h'.store s = h.store s := by
    intro s
    rw [Host.store, Host.store, hstores]
  refine ⟨?_, ?_, ?_, ?_, ?_, ?_⟩
  · intro s w c hc
    rw [hstore] at hc; rw [hengine]; exact hr.inRange s w c hc
  · intro s w g hg
    rw [hstore] at hg ⊢; exact hr.generation s w g hg
  · intro s w c hc hopen
    rw [hstore] at hc ⊢; rw [hengine] at hopen; exact hr.listed s w c hc hopen
  · intro c hopen
    rw [hengine] at hopen ⊢
    rcases hr.owner c hopen with ⟨s, w, hc⟩ | hsecluded
    · refine .inl ⟨s, w, ?_⟩
      rw [hstore]; exact hc
    · exact .inr hsecluded
  · intro s w c hc hshared
    rw [hstore] at hc hshared ⊢; rw [hengine]; exact hr.home s w c hc hshared
  · intro s w c hc hprivate
    rw [hstore] at hc hprivate; rw [hengine]; exact hr.secluded s w c hc hprivate

theorem store_of_ge {s : StoreId} (hs : h.stores.length ≤ s) : h.store s = { path := [] } := by
  rw [Host.store, List.getD_eq_getElem?_getD, List.getElem?_eq_none hs]
  rfl

/-! ## A new connection -/

theorem slot_adopt (store : Store) (w w' : Worker) (c : ConnectionId) :
    (store.adopt w c).slot w' =
      if w' = w then ⟨some c, some store.generation⟩ else store.slot w' := by
  by_cases hw : w' = w
  · rw [if_pos hw, hw, Store.slot, Store.adopt, Assoc.get?_set_self]; rfl
  · rw [if_neg hw, Store.slot_adopt_of_ne store hw]

/-- Who has a connection after one was made has it from then, or had it before. -/
theorem current?_adopted {w w' : Worker} {s s' : StoreId} {engine : Engine} {c c' : ConnectionId}
    (hcurrent : ((h.adopted w s engine c).store s').current? w' = some c') :
    (c' = c ∧ s' = s ∧ w' = w) ∨ (h.store s').current? w' = some c' := by
  by_cases hs' : s' = s
  · subst hs'
    rcases Nat.lt_or_ge s' h.stores.length with hlt | hge
    · rw [store_adopted hlt] at hcurrent
      by_cases hw : w' = w
      · rw [hw, Store.current?_adopt_self] at hcurrent
        exact .inl ⟨(Option.some.inj hcurrent).symm, rfl, hw⟩
      · rw [Store.current?_adopt_of_ne _ hw] at hcurrent
        exact .inr hcurrent
    · rw [store_of_ge (by simpa using hge)] at hcurrent
      cases hcurrent
  · rw [store_adopted_of_ne h hs'] at hcurrent
    exact .inr hcurrent

theorem current?_adopted_of_current {w w' : Worker} {s s' : StoreId} {engine : Engine}
    {c c' : ConnectionId} (hnone : (h.store s).current? w = none)
    (hcurrent : (h.store s').current? w' = some c') :
    ((h.adopted w s engine c).store s').current? w' = some c' := by
  by_cases hs' : s' = s
  · subst hs'
    have hw : w' ≠ w := by
      rintro rfl
      rw [hnone] at hcurrent
      cases hcurrent
    rcases Nat.lt_or_ge s' h.stores.length with hlt | hge
    · rw [store_adopted hlt, Store.current?_adopt_of_ne _ hw]; exact hcurrent
    · rw [store_of_ge hge] at hcurrent; cases hcurrent
  · rw [store_adopted_of_ne h hs']; exact hcurrent

theorem path_adopted (h : Host) (w : Worker) (s s' : StoreId) (engine : Engine)
    (c : ConnectionId) : ((h.adopted w s engine c).store s').path = (h.store s').path := by
  by_cases hs' : s' = s
  · subst hs'
    rcases Nat.lt_or_ge s' h.stores.length with hlt | hge
    · rw [store_adopted hlt]; rfl
    · rw [store_of_ge (by simpa using hge), store_of_ge hge]
  · rw [store_adopted_of_ne h hs']

structure Joins (h : Host) (s : StoreId) (engine : Engine) : Prop where
  length : engine.connections.length = h.engine.connections.length + 1
  old : ∀ c < h.engine.connections.length, engine.connection c = h.engine.connection c
  workingDirectory : engine.disk.workingDirectory = h.engine.disk.workingDirectory
  files : ∀ p d, h.engine.disk.node? p = some (.database d) →
    engine.disk.node? p = some (.database d)
  /-- No old connection that had its database for itself loses that. -/
  secluded : ∀ c < h.engine.connections.length, h.engine.Secluded c → engine.Secluded c
  home : Engine.isPrivate (h.store s).path = false →
    engine.disk.node? (Path.resolve h.engine.disk.workingDirectory (h.store s).path) =
      some (.database (engine.connection h.engine.connections.length).database)
  fresh : Engine.isPrivate (h.store s).path = true →
    engine.Secluded h.engine.connections.length

theorem Registered.adopted (hr : h.Registered) {w : Worker} {s : StoreId}
    (hnone : (h.store s).current? w = none) {engine : Engine} (hj : h.Joins s engine) :
    (h.adopted w s engine h.engine.connections.length).Registered := by
  have hlt : ∀ {c}, c < h.engine.connections.length → c < engine.connections.length := by
    intro c hc
    rw [hj.length]
    omega
  refine ⟨?_, ?_, ?_, ?_, ?_, ?_⟩
  · intro s' w' c hc
    rcases current?_adopted hc with ⟨rfl, -, -⟩ | hold
    · rw [engine_adopted, hj.length]; exact Nat.lt_succ_self _
    · exact hlt (hr.inRange s' w' c hold)
  · intro s' w' g hg
    by_cases hs' : s' = s
    · subst hs'
      rcases Nat.lt_or_ge s' h.stores.length with hin | hge
      · rw [store_adopted hin] at hg ⊢
        rw [slot_adopt] at hg
        split at hg
        · exact Nat.le_of_eq (Option.some.inj hg).symm
        · exact hr.generation s' w' g hg
      · rw [store_of_ge (by simpa using hge)] at hg
        cases hg
    · rw [store_adopted_of_ne h hs'] at hg ⊢
      exact hr.generation s' w' g hg
  · intro s' w' c hc hopen
    rcases current?_adopted hc with ⟨rfl, rfl, rfl⟩ | hold
    · rcases Nat.lt_or_ge s' h.stores.length with hin | hge
      · rw [store_adopted hin]
        exact List.mem_append_right _ (List.mem_singleton.2 rfl)
      · rw [store_of_ge (by simpa using hge)] at hc
        cases hc
    · rw [engine_adopted, hj.old c (hr.inRange s' w' c hold)] at hopen
      have hmem := hr.listed s' w' c hold hopen
      by_cases hs' : s' = s
      · subst hs'
        rcases Nat.lt_or_ge s' h.stores.length with hin | hge
        · rw [store_adopted hin]
          exact List.mem_append_left _ hmem
        · rw [store_of_ge hge] at hold; cases hold
      · rw [store_adopted_of_ne h hs']; exact hmem
  · intro c hopen
    rw [engine_adopted] at hopen ⊢
    have hc : c < h.engine.connections.length + 1 := hj.length ▸ Engine.lt_of_isOpen hopen
    rcases Nat.lt_or_ge c h.engine.connections.length with hold | hnew
    · rw [hj.old c hold] at hopen
      rcases hr.owner c hopen with ⟨s', w', hcurrent⟩ | hsecluded
      · exact .inl ⟨s', w', current?_adopted_of_current hnone hcurrent⟩
      · exact .inr (hj.secluded c hold hsecluded)
    · obtain rfl : c = h.engine.connections.length := Nat.le_antisymm (Nat.le_of_lt_succ hc) hnew
      rcases Nat.lt_or_ge s h.stores.length with hin | hge
      · exact .inl ⟨s, w, by rw [store_adopted hin]; exact Store.current?_adopt_self _ _ _⟩
      · exact .inr (hj.fresh (by rw [store_of_ge hge]; rfl))
  · intro s' w' c hc hshared
    rw [path_adopted] at hshared ⊢
    rw [engine_adopted, hj.workingDirectory]
    rcases current?_adopted hc with ⟨rfl, rfl, -⟩ | hold
    · exact hj.home hshared
    · rw [hj.old c (hr.inRange s' w' c hold)]
      exact hj.files _ _ (hr.home s' w' c hold hshared)
  · intro s' w' c hc hprivate
    rw [path_adopted] at hprivate
    rw [engine_adopted]
    rcases current?_adopted hc with ⟨rfl, rfl, -⟩ | hold
    · exact hj.fresh hprivate
    · exact hj.secluded c (hr.inRange s' w' c hold) (hr.secluded s' w' c hold hprivate)

theorem joins_addConnection {s : StoreId}
    (hshared : Engine.isPrivate (h.store s).path = false) {d : DatabaseId}
    (hnode : h.engine.disk.node? (Path.resolve h.engine.disk.workingDirectory (h.store s).path) =
      some (.database d)) : h.Joins s (h.engine.addConnection d).2 := by
  have hold : ∀ c < h.engine.connections.length,
      (h.engine.addConnection d).2.connection c = h.engine.connection c :=
    fun c hc => Engine.connection_addConnection_of_lt hc d
  refine ⟨Engine.length_addConnection d, hold, rfl, fun _ _ h => h, ?_, ?_, ?_⟩
  · intro c hc hsecluded
    refine ⟨?_, ?_⟩
    · intro p
      rw [hold c hc]; exact hsecluded.noFile p
    · intro x hx hd
      rw [hold c hc] at hd
      rcases Nat.lt_or_ge x h.engine.connections.length with hlt | hge
      · rw [hold x hlt] at hd
        exact hsecluded.alone x hlt hd
      · rw [Engine.length_addConnection] at hx
        obtain rfl : x = h.engine.connections.length := Nat.le_antisymm (Nat.le_of_lt_succ hx) hge
        rw [Engine.connection_addConnection_self] at hd
        have hd : d = (h.engine.connection c).database := hd
        exact absurd (hd ▸ hnode) (hsecluded.noFile _)
  · intro _
    rw [Engine.connection_addConnection_self]; exact hnode
  · intro hprivate
    rw [hshared] at hprivate; cases hprivate

/-- What becomes of the files when a database is made: it has the file of the store, or none. -/
structure Makes (h : Host) (s : StoreId) (disk : Disk) : Prop where
  workingDirectory : disk.workingDirectory = h.engine.disk.workingDirectory
  old : ∀ p d, h.engine.disk.node? p = some (.database d) → disk.node? p = some (.database d)
  new : ∀ p d, disk.node? p = some (.database d) →
    h.engine.disk.node? p = some (.database d) ∨ d = h.engine.databases.length
  home : Engine.isPrivate (h.store s).path = false →
    disk.node? (Path.resolve h.engine.disk.workingDirectory (h.store s).path) =
      some (.database h.engine.databases.length)
  fresh : Engine.isPrivate (h.store s).path = true →
    ∀ p, disk.node? p ≠ some (.database h.engine.databases.length)

theorem makes_of_private (hs : h.engine.Sound) {s : StoreId}
    (hprivate : Engine.isPrivate (h.store s).path = true) : h.Makes s h.engine.disk := by
  refine ⟨rfl, fun _ _ hnode => hnode, fun _ _ hnode => .inl hnode, ?_, ?_⟩
  · intro hshared
    rw [hprivate] at hshared
    cases hshared
  · intro _ p hnode
    exact absurd (hs.files p _ hnode) (Nat.lt_irrefl _)

theorem makes_of_free {s : StoreId} (hshared : Engine.isPrivate (h.store s).path = false)
    (hfree : h.engine.disk.node?
      (Path.resolve h.engine.disk.workingDirectory (h.store s).path) = none) :
    h.Makes s (h.engine.disk.set (Path.resolve h.engine.disk.workingDirectory (h.store s).path)
      (.database h.engine.databases.length)) := by
  have hself := Disk.node?_set_self hfree (.database h.engine.databases.length)
  refine ⟨rfl, ?_, ?_, fun _ => hself, ?_⟩
  · intro p d hnode
    rw [Disk.node?_set_of_ne _ (by rintro rfl; rw [hfree] at hnode; cases hnode)]
    exact hnode
  · intro p d hnode
    by_cases hp : Path.resolve h.engine.disk.workingDirectory (h.store s).path = p
    · rw [← hp, hself] at hnode
      exact .inr (Node.database.inj (Option.some.inj hnode)).symm
    · rw [Disk.node?_set_of_ne _ hp] at hnode
      exact .inl hnode
  · intro hprivate
    rw [hshared] at hprivate
    cases hprivate

theorem joins_made (hs : h.engine.Sound) {s : StoreId} {disk : Disk} (hdisk : h.Makes s disk) :
    h.Joins s (Engine.addConnection { h.engine with
      disk, databases := h.engine.databases ++ [{}] } h.engine.databases.length).2 := by
  generalize hbetween : ({ h.engine with disk, databases := h.engine.databases ++ [{}] } : Engine) =
    between
  have hconnections : between.connections = h.engine.connections := by rw [← hbetween]
  have hbetweendisk : between.disk = disk := by rw [← hbetween]
  have hlength : between.connections.length = h.engine.connections.length := by rw [hconnections]
  have hnew : (between.addConnection h.engine.databases.length).2.connection
      h.engine.connections.length = { database := h.engine.databases.length } := by
    rw [← hlength]; exact Engine.connection_addConnection_self _
  have hold : ∀ c < h.engine.connections.length,
      (between.addConnection h.engine.databases.length).2.connection c = h.engine.connection c := by
    intro c hc
    rw [Engine.connection_addConnection_of_lt (hlength ▸ hc), Engine.connection, hconnections]
    rfl
  have hfiles : (between.addConnection h.engine.databases.length).2.disk = disk := hbetweendisk
  refine ⟨by rw [Engine.length_addConnection, hlength], hold, ?_, ?_, ?_, ?_, ?_⟩
  · rw [hfiles, hdisk.workingDirectory]
  · rw [hfiles]
    exact hdisk.old
  · intro c hc hsecluded
    have hne := Nat.ne_of_lt (hs.databases c hc)
    refine ⟨?_, ?_⟩
    · intro p hnode
      rw [hfiles, hold c hc] at hnode
      exact (hdisk.new _ _ hnode).elim (hsecluded.noFile p) hne
    · intro x hx hd
      rw [Engine.length_addConnection, hlength] at hx
      rw [hold c hc] at hd
      rcases Nat.lt_or_eq_of_le (Nat.le_of_lt_succ hx) with hlt | rfl
      · rw [hold x hlt] at hd
        exact hsecluded.alone x hlt hd
      · rw [hnew] at hd
        exact absurd hd.symm hne
  · intro hshared
    rw [hfiles, hnew]
    exact hdisk.home hshared
  · intro hprivate
    refine ⟨?_, ?_⟩
    · intro p
      rw [hfiles, hnew]
      exact hdisk.fresh hprivate p
    · intro x hx hd
      rw [Engine.length_addConnection, hlength] at hx
      rw [hnew] at hd
      rcases Nat.lt_or_eq_of_le (Nat.le_of_lt_succ hx) with hlt | heq
      · rw [hold x hlt] at hd
        exact absurd hd (Nat.ne_of_lt (hs.databases x hlt))
      · exact heq

/-! ## What a step preserves -/

theorem registered_connection (hr : h.Registered) (hs : h.engine.Sound) (w : Worker)
    (s : StoreId) : (h.connection w s).2.Registered := by
  unfold connection
  dsimp only
  split
  · exact hr
  · next hnone =>
    have hcases := Engine.connect_cases h.engine (h.store s).path
    generalize h.engine.connect (h.store s).path = result at hcases
    obtain ⟨outcome, engine⟩ := result
    cases hcases with
    | refused f => exact hr
    | joined d hshared hnode => exact hr.adopted hnone (joins_addConnection hshared hnode)
    | made disk hdisk =>
      refine hr.adopted hnone (joins_made hs ?_)
      rcases hdisk with ⟨hprivate, rfl⟩ | ⟨hshared, hfree, rfl⟩
      · exact makes_of_private hs hprivate
      · exact makes_of_free hshared hfree

/-- The worker's connection is one of the engine's, and it is the worker's from then on. -/
theorem current?_connection {w : Worker} {s : StoreId} (hin : s < h.stores.length)
    {c : ConnectionId} {h' : Host} (hconnection : h.connection w s = (.ok c, h')) :
    (h'.store s).current? w = some c := by
  unfold connection at hconnection
  dsimp only at hconnection
  split at hconnection
  · next c' hcurrent => cases hconnection; exact hcurrent
  · split at hconnection
    · cases hconnection
    · cases hconnection
      change ((h.adopted w s _ c).store s).current? w = some c
      rw [store_adopted hin]
      exact Store.current?_adopt_self _ _ _

theorem store_setStore (h : Host) (s s' : StoreId) (store : Store) :
    (h.setStore s store).store s' =
      if s' = s ∧ s < h.stores.length then store else h.store s' := by
  unfold Host.store setStore
  by_cases hs : s' = s
  · subst hs
    rcases Nat.lt_or_ge s' h.stores.length with hlt | hge
    · simp [hlt]
    · simp [Nat.not_lt.2 hge]
  · simp [hs, Ne.symm hs]

/-- What a store has to keep when it lets go of connections: only of closed ones, and whoever has a
connection after that had it before. -/
theorem Registered.setStore (hr : h.Registered) {s : StoreId} {store : Store}
    (hpath : store.path = (h.store s).path)
    (hcurrent : ∀ w c, store.current? w = some c → (h.store s).current? w = some c)
    (hgeneration : ∀ w g, (store.slot w).generation = some g → g ≤ store.generation)
    (hlisted : ∀ w c, store.current? w = some c → (h.engine.connection c).isOpen = true →
      c ∈ store.connections)
    (howner : ∀ w c, (h.store s).current? w = some c → (h.engine.connection c).isOpen = true →
      store.current? w = some c) : (h.setStore s store).Registered := by
  rcases Nat.lt_or_ge s h.stores.length with hin | hge
  · have hself : (h.setStore s store).store s = store := by
      rw [store_setStore, if_pos ⟨rfl, hin⟩]
    have hother : ∀ s', s' ≠ s → (h.setStore s store).store s' = h.store s' := by
      intro s' hs'
      rw [store_setStore, if_neg fun h => hs' h.1]
    have hold : ∀ s' w c, ((h.setStore s store).store s').current? w = some c →
        (h.store s').current? w = some c ∧
          ((h.setStore s store).store s').path = (h.store s').path := by
      intro s' w c hc
      by_cases hs' : s' = s
      · subst hs'
        rw [hself] at hc ⊢
        exact ⟨hcurrent w c hc, hpath⟩
      · rw [hother s' hs'] at hc ⊢
        exact ⟨hc, rfl⟩
    refine ⟨?_, ?_, ?_, ?_, ?_, ?_⟩
    · intro s' w c hc
      exact hr.inRange s' w c (hold s' w c hc).1
    · intro s' w g hg
      by_cases hs' : s' = s
      · subst hs'
        rw [hself] at hg ⊢
        exact hgeneration w g hg
      · rw [hother s' hs'] at hg ⊢
        exact hr.generation s' w g hg
    · intro s' w c hc hopen
      by_cases hs' : s' = s
      · subst hs'
        rw [hself] at hc ⊢
        exact hlisted w c hc hopen
      · rw [hother s' hs'] at hc ⊢
        exact hr.listed s' w c hc hopen
    · intro c hopen
      rcases hr.owner c hopen with ⟨s', w, hc⟩ | hsecluded
      · refine .inl ⟨s', w, ?_⟩
        by_cases hs' : s' = s
        · subst hs'
          rw [hself]
          exact howner w c hc hopen
        · rw [hother s' hs']
          exact hc
      · exact .inr hsecluded
    · intro s' w c hc hshared
      obtain ⟨hc, hsame⟩ := hold s' w c hc
      rw [hsame] at hshared ⊢
      exact hr.home s' w c hc hshared
    · intro s' w c hc hprivate
      obtain ⟨hc, hsame⟩ := hold s' w c hc
      rw [hsame] at hprivate
      exact hr.secluded s' w c hc hprivate
  · rw [Host.setStore, List.set_eq_of_length_le hge]
    exact hr

theorem registered_close (hr : h.Registered) (w : Worker) (s : StoreId) :
    (h.close w s).Registered := by
  unfold close
  dsimp only
  split
  · exact hr
  · next c hslot =>
    have hsame := Engine.same_close h.engine c
    have hclosed : ((h.engine.close c).connection c).isOpen = false := by
      rw [Engine.connection_close]
    refine (hr.engine hsame).setStore rfl ?_ ?_ ?_ ?_
    · intro w' c' hcurrent
      exact (Store.current?_vacate hcurrent).2
    · intro w' g hg
      rw [Store.release, Store.generation_slot_vacate] at hg
      exact hr.generation s w' g hg
    · intro w' c' hcurrent hopen
      have hne : c' ≠ c := by
        rintro rfl
        rw [hclosed] at hopen
        cases hopen
      have hmem := hr.listed s w' c' (Store.current?_vacate hcurrent).2 (hsame.isOpen c' hopen)
      exact (List.mem_erase_of_ne hne).2 hmem
    · intro w' c' hcurrent hopen
      have hne : w' ≠ w := by
        rintro rfl
        have hsome := (Store.current?_eq_some_iff.1 hcurrent).2
        obtain rfl : c = c' := Option.some.inj (hslot.symm.trans hsome)
        rw [hclosed] at hopen
        cases hopen
      rw [Store.release, Store.current?_vacate_of_ne _ hne]
      exact hcurrent

theorem current?_retire {store : Store}
    (hgeneration : ∀ w g, (store.slot w).generation = some g → g ≤ store.generation)
    (w w' : Worker) : (store.retire w).current? w' = none := by
  rw [Option.eq_none_iff_forall_ne_some]
  intro c hcurrent
  have hslot := (Store.current?_eq_some_iff.1 hcurrent).1
  rw [Store.retire, Store.generation_slot_vacate] at hslot
  exact absurd (hgeneration w' (store.generation + 1) hslot) (Nat.not_succ_le_self _)

theorem same_foldl_close (cs : List ConnectionId) (e : Engine) :
    e.SameConnections (cs.foldl Engine.close e) := by
  induction cs generalizing e with
  | nil => exact .refl e
  | cons c rest ih => exact (Engine.same_close e c).trans (ih (e.close c))

theorem closed_of_mem {cs : List ConnectionId} {c : ConnectionId} (hc : c ∈ cs) (e : Engine) :
    ((cs.foldl Engine.close e).connection c).isOpen = false := by
  induction cs generalizing e with
  | nil => cases hc
  | cons x rest ih =>
    rcases List.mem_cons.1 hc with rfl | hc
    · have hclosed : ((e.close c).connection c).isOpen = false := by rw [Engine.connection_close]
      cases hafter : ((rest.foldl Engine.close (e.close c)).connection c).isOpen with
      | false => exact hafter
      | true => rw [(same_foldl_close rest _).isOpen c hafter] at hclosed; cases hclosed
    · exact ih hc (e.close x)

theorem registered_closeAll (hr : h.Registered) (w : Worker) (s : StoreId) :
    (h.closeAll w s).Registered := by
  have hsame := same_foldl_close (h.store s).connections h.engine
  have hnone : ∀ w', ((h.store s).retire w).current? w' = none :=
    current?_retire (hr.generation s) w
  have hset : (Host.setStore { h with
      engine := (h.store s).connections.foldl Engine.close h.engine } s
        ((h.store s).retire w)).Registered := by
    refine (hr.engine hsame).setStore rfl ?_ ?_ ?_ ?_
    · intro w' c hcurrent
      rw [hnone] at hcurrent
      cases hcurrent
    · intro w' g hg
      rw [Store.retire, Store.generation_slot_vacate] at hg
      exact Nat.le_succ_of_le (hr.generation s w' g hg)
    · intro w' c hcurrent
      rw [hnone] at hcurrent
      cases hcurrent
    · intro w' c hcurrent hopen
      have hmem := hr.listed s w' c hcurrent (hsame.isOpen c hopen)
      rw [closed_of_mem hmem] at hopen
      cases hopen
  exact hset.congr rfl rfl

theorem registered_sever (hr : h.Registered) (hs : h.engine.Sound) (w : Worker) (s : StoreId) :
    (h.sever w s).2.Registered := by
  have hconn := registered_connection hr hs w s
  unfold sever
  split
  · next heq => rw [heq] at hconn; exact hconn
  · next c _ heq => rw [heq] at hconn; exact hconn.engine (Engine.same_close _ c)

theorem registered_putRow (hr : h.Registered) (hs : h.engine.Sound) (w : Worker) (s : StoreId)
    (key : Bytes) (family : Text) (cells : Cells) :
    (h.putRow w s key family cells).2.Registered := by
  have hconn := registered_connection hr hs w s
  refine putRow_leaves (fun e h' heq => ?_) (fun c h' heq => ?_)
  · rw [heq] at hconn; exact hconn
  · rw [heq] at hconn; exact hconn.engine (Engine.same_put h'.engine c key family cells)

theorem registered_bootstrap (hr : h.Registered) (hs : h.engine.Sound) (w : Worker)
    (s : StoreId) : (h.bootstrap w s).2.Registered := by
  refine bootstrap_leaves hr (fun disk e h' hmake heq => ?_) (fun disk c h' log hmake heq => ?_)
  all_goals
    have hfiles := Disk.sameFiles_makeParents hmake
    have hdisk : Registered { h with engine := { h.engine with disk } } :=
      hr.engine ⟨hfiles, rfl, fun _ => rfl, fun _ hopen => hopen⟩
    have hconn := registered_connection hdisk (Engine.preserves_disk hfiles hs).1 w s
    rw [heq] at hconn
  · exact hconn
  · exact (hconn.engine (Engine.same_ensureTable h'.engine c)).congr rfl rfl

theorem store_addStore (h : Host) (path : Text) (s : StoreId) :
    (h.addStore path).2.store s = if s = h.stores.length then { path } else h.store s := by
  unfold addStore Host.store
  dsimp only
  rcases Nat.lt_trichotomy s h.stores.length with hlt | rfl | hgt
  · simp [List.getElem?_append_left hlt, Nat.ne_of_lt hlt]
  · simp
  · have hlength : (h.stores ++ [({ path } : Store)]).length ≤ s := by
      rw [List.length_append, List.length_singleton]
      exact hgt
    rw [if_neg (Nat.ne_of_gt hgt), List.getD_eq_getElem?_getD, List.getD_eq_getElem?_getD,
      List.getElem?_eq_none hlength, List.getElem?_eq_none (Nat.le_of_lt hgt)]

theorem registered_addStore (hr : h.Registered) (path : Text) :
    (h.addStore path).2.Registered := by
  have hold : ∀ s w c, ((h.addStore path).2.store s).current? w = some c →
      (h.addStore path).2.store s = h.store s := by
    intro s w c hcurrent
    rw [store_addStore] at hcurrent ⊢
    split at hcurrent
    · cases hcurrent
    · next hs => exact if_neg hs
  refine ⟨?_, ?_, ?_, ?_, ?_, ?_⟩
  · intro s w c hc
    have heq := hold s w c hc
    rw [heq] at hc
    exact hr.inRange s w c hc
  · intro s w g hg
    rw [store_addStore] at hg ⊢
    split at hg
    · cases hg
    · next hs => rw [if_neg hs]; exact hr.generation s w g hg
  · intro s w c hc hopen
    have heq := hold s w c hc
    rw [heq] at hc ⊢
    exact hr.listed s w c hc hopen
  · intro c hopen
    refine (hr.owner c hopen).imp (fun ⟨s, w, hc⟩ => ⟨s, w, ?_⟩) id
    have hlt : s ≠ h.stores.length := by
      rintro rfl
      rw [store_of_ge (Nat.le_refl _)] at hc
      cases hc
    rw [store_addStore, if_neg hlt]
    exact hc
  · intro s w c hc hshared
    have heq := hold s w c hc
    rw [heq] at hc hshared ⊢
    exact hr.home s w c hc hshared
  · intro s w c hc hprivate
    have heq := hold s w c hc
    rw [heq] at hc hprivate
    exact hr.secluded s w c hc hprivate

theorem registered_checkpoint (hr : h.Registered) (hs : h.engine.Sound) (w : Worker)
    (s : StoreId) : (h.checkpoint w s).Registered := by
  obtain ⟨log, hcheckpoint⟩ := checkpoint_eq h w s
  rw [hcheckpoint]
  exact (registered_connection hr hs w s).congr rfl rfl

theorem registered_openScanner (hr : h.Registered) (hs : h.engine.Sound) (w : Worker)
    (s : StoreId) (scan : Scan) : (h.openScanner w s scan).2.Registered := by
  obtain ⟨scanners, hopen⟩ := openScanner_eq h w s scan
  rw [hopen]
  exact (registered_connection hr hs w s).congr rfl rfl

theorem registered_pull (hr : h.Registered) (it : IterationId) : (h.pull it).2.Registered := by
  have hread : Registered { h with
      engine := h.engine.afterRead (h.scanner (h.iteration it).scanner).connection } :=
    hr.engine (Engine.same_setTransaction _ _ _)
  unfold pull
  dsimp only
  split
  · exact hr.congr rfl rfl
  · split
    · exact hread.congr rfl rfl
    · exact hr.congr rfl rfl

theorem registered_closeScanner (hr : h.Registered) (i : ScannerId) :
    (h.closeScanner i).2.Registered := by
  obtain ⟨scanners, hclose⟩ := closeScanner_eq h i
  rw [hclose]
  exact hr.congr rfl rfl

/-- What one step of any worker preserves. -/
theorem registered_perform (hr : h.Registered) (hs : h.Sound) {step : Step}
    (hkeeps : step.Keeps) : (h.perform step).2.Registered := by
  obtain ⟨w, operation⟩ := step
  cases operation with
  | newStore path => exact registered_addStore hr path
  | bootstrap s => exact registered_bootstrap hr hs.engine w s
  | putRow s key family cells => exact registered_putRow hr hs.engine w s key family cells
  | checkpoint s => exact registered_checkpoint hr hs.engine w s
  | close s => exact registered_close hr w s
  | closeAll s => exact registered_closeAll hr w s
  | newFilter => exact hr.congr rfl rfl
  | openScanner s scan => exact registered_openScanner hr hs.engine w s scan
  | iterate i => exact hr.congr rfl rfl
  | pull it => exact registered_pull hr it
  | closeScanner i => exact registered_closeScanner hr i
  | dropTable s => exact absurd rfl (hkeeps s)
  | sever s => exact registered_sever hr hs.engine w s

theorem Begins.registered (hb : h.Begins) : h.Registered := by
  have hstore : ∀ s, h.store s = { path := [] } :=
    fun s => store_of_ge (by rw [hb.stores]; exact Nat.zero_le s)
  refine ⟨?_, ?_, ?_, ?_, ?_, ?_⟩
  · intro s w c hc
    rw [hstore] at hc; cases hc
  · intro s w g hg
    rw [hstore] at hg; cases hg
  · intro s w c hc
    rw [hstore] at hc; cases hc
  · intro c hopen
    have hlt := Engine.lt_of_isOpen hopen
    rw [hb.connections] at hlt
    exact absurd hlt (Nat.not_lt_zero c)
  · intro s w c hc
    rw [hstore] at hc; cases hc
  · intro s w c hc
    rw [hstore] at hc; cases hc

/-- Whatever was done since the start, every open connection belongs to somebody. -/
theorem registered_after (hr : h.Registered) (hs : h.Sound) (steps : List Step)
    (hkeep : ∀ step ∈ steps, step.Keeps) : (h.after steps).Registered := by
  induction steps generalizing h with
  | nil => exact hr
  | cons step rest ih =>
    have hfirst := hkeep step (List.mem_cons_self ..)
    exact ih (registered_perform hr hs hfirst) (sound_perform hs hfirst)
      fun x hx => hkeep x (List.mem_cons_of_mem _ hx)

end Host

end HourlyUsage
