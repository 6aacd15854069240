import HourlyUsage.Proofs.Database.Idle
import HourlyUsage.Proofs.Store.Registry
/-!
# Runs without interruption

When every write can be written and nobody closes connections behind a store's back, no operation
leaves a transaction under way, and the connection that a worker can use is open. For the latter no
two workers may ever share a connection, not even a worker who has one of an older generation with
one who uses it: closing it would close it for both.

Sources: the operations of a store and of its scanners.

Results:
* `Quiet.adopted`, `quiet_close`, `quiet_closeAll`: connections come and go.
* `quiet_perform`: what one step of any worker preserves.
-/
namespace HourlyUsage

/-- The names of a write can be written, and neither the table is removed nor a connection closed
behind the back of its store. -/
structure Step.Plain (step : Step) : Prop where
  keeps : step.Keeps
  unsevered : ∀ s, step.operation ≠ .sever s
  family : ∀ s key family cells, step.operation = .putRow s key family cells →
    Utf8.Encodable family
  qualifiers : ∀ s key family cells, step.operation = .putRow s key family cells →
    ∀ cell ∈ cells, Utf8.Encodable cell.1

theorem Step.plain_putRow {w : Worker} {s : StoreId} {key : Bytes} {family : Text} {cells : Cells}
    (hfamily : Utf8.Encodable family) (hcells : ∀ cell ∈ cells, Utf8.Encodable cell.1) :
    Step.Plain ⟨w, .putRow s key family cells⟩ where
  keeps := nofun
  unsevered := nofun
  family _ _ _ _ hop := by cases hop; exact hfamily
  qualifiers _ _ _ _ hop := by cases hop; exact hcells

theorem Engine.refusal?_of_encodable {family : Text} {cell : Text × Bytes}
    (hfamily : Utf8.Encodable family) (hcell : Utf8.Encodable cell.1) :
    refusal? family cell = none := by
  rw [refusal?, Option.or_eq_none_iff, Utf8.surrogatesFrom?_eq_none_iff,
    Utf8.surrogatesFrom?_eq_none_iff, ← Utf8.encodable_iff, ← Utf8.encodable_iff]
  exact ⟨hfamily, hcell⟩

theorem Engine.accepted_of_encodable {family : Text} {cells : Cells}
    (hfamily : Utf8.Encodable family) (hcells : ∀ cell ∈ cells, Utf8.Encodable cell.1) :
    accepted family cells = cells := by
  rw [← verdict_eq_ok_iff, verdict]
  have hnone : cells.findSome? (refusal? family) = none := by
    rw [List.findSome?_eq_none_iff]
    exact fun cell hcell => refusal?_of_encodable hfamily (hcells cell hcell)
  rw [hnone]

theorem Step.Plain.accepted {w : Worker} {s : StoreId} {key : Bytes} {family : Text}
    {cells : Cells} (h : Step.Plain ⟨w, .putRow s key family cells⟩) :
    Engine.accepted family cells = cells :=
  Engine.accepted_of_encodable (h.family s key family cells rfl) (h.qualifiers s key family cells rfl)

namespace Host

/-- No transaction is under way, no two workers have one connection, and who can use a connection
has an open one. -/
structure Quiet (h : Host) : Prop where
  idle : h.engine.Idle
  slots : ∀ s w c, ((h.store s).slot w).connection = some c → c < h.engine.connections.length
  lists : ∀ s c, c ∈ (h.store s).connections → c < h.engine.connections.length
  single : ∀ s w s' w' c, ((h.store s).slot w).connection = some c →
    ((h.store s').slot w').connection = some c → s' = s ∧ w' = w
  /-- A store closes no connection of another store. -/
  apart : ∀ s w s' c, ((h.store s).slot w).connection = some c → c ∈ (h.store s').connections →
    s' = s
  isOpen : ∀ s w c, (h.store s).current? w = some c → (h.engine.connection c).isOpen = true

variable {h : Host}

theorem Quiet.congr {h' : Host} (hq : h.Quiet)
    (hconnections : h'.engine.connections = h.engine.connections) (hstores : h'.stores = h.stores) :
    h'.Quiet := by
  have hstore : ∀ s, h'.store s = h.store s := by
    intro s
    rw [Host.store, Host.store, hstores]
  have hconnection : ∀ c, h'.engine.connection c = h.engine.connection c := by
    intro c
    rw [Engine.connection, Engine.connection, hconnections]
  refine ⟨hq.idle.of_connections hconnections, ?_, ?_, ?_, ?_, ?_⟩
  · intro s w c hc
    rw [hstore] at hc
    rw [hconnections]
    exact hq.slots s w c hc
  · intro s c hc
    rw [hstore] at hc
    rw [hconnections]
    exact hq.lists s c hc
  · intro s w s' w' c hc hc'
    rw [hstore] at hc hc'
    exact hq.single s w s' w' c hc hc'
  · intro s w s' c hc hc'
    rw [hstore] at hc hc'
    exact hq.apart s w s' c hc hc'
  · intro s w c hc
    rw [hstore] at hc
    rw [hconnection]
    exact hq.isOpen s w c hc

/-! ## A new connection -/

theorem slot_adopted (h : Host) (w w' : Worker) (s s' : StoreId) (engine : Engine)
    (c : ConnectionId) :
    ((h.adopted w s engine c).store s').slot w' =
      if (s' = s ∧ w' = w) ∧ s < h.stores.length then ⟨some c, some (h.store s).generation⟩
      else (h.store s').slot w' := by
  rw [adopted, store_setStore]
  by_cases hs : s' = s
  · subst hs
    by_cases hin : s' < h.stores.length
    · rw [if_pos ⟨rfl, hin⟩, slot_adopt]
      by_cases hw : w' = w <;> simp [hw, hin]
    · simp [hin, Host.store]
  · simp [hs, Host.store]

theorem mem_connections_adopted {w : Worker} {s s' : StoreId} {engine : Engine}
    {c c' : ConnectionId} (hmem : c' ∈ ((h.adopted w s engine c).store s').connections) :
    c' ∈ (h.store s').connections ∨ (s' = s ∧ s < h.stores.length) ∧ c' = c := by
  rw [adopted, store_setStore] at hmem
  split at hmem
  · next hs =>
    obtain ⟨rfl, hin⟩ := hs
    rcases List.mem_append.1 hmem with hold | hnew
    · exact .inl hold
    · exact .inr ⟨⟨rfl, hin⟩, List.mem_singleton.1 hnew⟩
  · exact .inl hmem

/-- A new connection is nobody else's. -/
theorem Quiet.adopted (hq : h.Quiet) (w : Worker) (s : StoreId) {engine : Engine} {d : DatabaseId}
    (hconnections : engine.connections = h.engine.connections ++ [{ database := d }]) :
    (h.adopted w s engine h.engine.connections.length).Quiet := by
  have hlength : engine.connections.length = h.engine.connections.length + 1 := by
    rw [hconnections, List.length_append, List.length_singleton]
  have hold : ∀ c < h.engine.connections.length,
      engine.connection c = h.engine.connection c := by
    intro c hc
    exact Engine.connection_of_lt hc (by rw [hconnections, List.getElem?_append_left hc])
  have hnew : engine.connection h.engine.connections.length = { database := d } := by
    simp [Engine.connection, hconnections]
  have hslot : ∀ {s' w' c}, (((h.adopted w s engine h.engine.connections.length).store s').slot
      w').connection = some c → (c < h.engine.connections.length ∧
        ((h.store s').slot w').connection = some c) ∨
      c = h.engine.connections.length ∧ s' = s ∧ w' = w := by
    intro s' w' c hc
    rw [slot_adopted] at hc
    split at hc
    · next hself => exact .inr ⟨(Option.some.inj hc).symm, hself.1.1, hself.1.2⟩
    · exact .inl ⟨hq.slots s' w' c hc, hc⟩
  refine ⟨?_, ?_, ?_, ?_, ?_, ?_⟩
  · intro c
    rw [engine_adopted]
    rcases Nat.lt_trichotomy c h.engine.connections.length with hlt | rfl | hgt
    · rw [hold c hlt]; exact hq.idle c
    · rw [hnew]
    · rw [Engine.connection_of_ge (by rw [hlength]; exact hgt)]
  · intro s' w' c hc
    rw [engine_adopted, hlength]
    rcases hslot hc with ⟨hlt, -⟩ | ⟨rfl, -⟩
    · exact Nat.lt_succ_of_lt hlt
    · exact Nat.lt_succ_self _
  · intro s' c hc
    rw [engine_adopted, hlength]
    rcases mem_connections_adopted hc with hmem | ⟨-, rfl⟩
    · exact Nat.lt_succ_of_lt (hq.lists s' c hmem)
    · exact Nat.lt_succ_self _
  · intro s₁ w₁ s₂ w₂ c hc hc'
    rcases hslot hc with ⟨hlt, hc⟩ | ⟨rfl, rfl, rfl⟩
    · rcases hslot hc' with ⟨-, hc'⟩ | ⟨rfl, -⟩
      · exact hq.single s₁ w₁ s₂ w₂ c hc hc'
      · exact absurd hlt (Nat.lt_irrefl _)
    · rcases hslot hc' with ⟨hlt, -⟩ | ⟨-, hs, hw⟩
      · exact absurd hlt (Nat.lt_irrefl _)
      · exact ⟨hs, hw⟩
  · intro s₁ w₁ s₂ c hc hc'
    rcases mem_connections_adopted hc' with hmem | ⟨⟨rfl, -⟩, rfl⟩
    · rcases hslot hc with ⟨-, hc⟩ | ⟨rfl, -⟩
      · exact hq.apart s₁ w₁ s₂ c hc hmem
      · exact absurd (hq.lists s₂ _ hmem) (Nat.lt_irrefl _)
    · rcases hslot hc with ⟨hlt, -⟩ | ⟨-, rfl, -⟩
      · exact absurd hlt (Nat.lt_irrefl _)
      · rfl
  · intro s' w' c hc
    rw [engine_adopted]
    rcases current?_adopted hc with ⟨rfl, -, -⟩ | hcurrent
    · rw [hnew]
    · rw [hold c (hq.slots s' w' c (Store.current?_eq_some_iff.1 hcurrent).2)]
      exact hq.isOpen s' w' c hcurrent

theorem quiet_connection (hq : h.Quiet) (w : Worker) (s : StoreId) :
    (h.connection w s).2.Quiet := by
  unfold connection
  dsimp only
  split
  · exact hq
  · have hcases := Engine.connect_cases h.engine (h.store s).path
    generalize h.engine.connect (h.store s).path = result at hcases
    obtain ⟨outcome, engine⟩ := result
    cases hcases with
    | refused f => exact hq
    | joined d _ _ => exact hq.adopted w s rfl
    | made disk _ => exact hq.adopted w s rfl

/-! ## Letting go of connections -/

/-- A store lets go of connections, and those that somebody can still use are open. -/
theorem Quiet.setStore (hq : h.Quiet) {e' : Engine} {s : StoreId} {store : Store}
    (hlength : e'.connections.length = h.engine.connections.length) (hidle : e'.Idle)
    (hslots : ∀ w c, (store.slot w).connection = some c →
      ((h.store s).slot w).connection = some c)
    (hlists : ∀ c ∈ store.connections, c ∈ (h.store s).connections)
    (hopen : ∀ s' w c, ((Host.setStore { h with engine := e' } s store).store s').current? w = some c →
      (e'.connection c).isOpen = true) :
    (Host.setStore { h with engine := e' } s store).Quiet := by
  have hslot : ∀ {s' w c},
      (((Host.setStore { h with engine := e' } s store).store s').slot w).connection = some c →
        ((h.store s').slot w).connection = some c := by
    intro s' w c hc
    rw [store_setStore] at hc
    split at hc
    · next hs => rw [hs.1]; exact hslots w c hc
    · exact hc
  have hlist : ∀ {s' c}, c ∈ ((Host.setStore { h with engine := e' } s store).store s').connections →
      c ∈ (h.store s').connections := by
    intro s' c hc
    rw [store_setStore] at hc
    split at hc
    · next hs => rw [hs.1]; exact hlists c hc
    · exact hc
  refine ⟨hidle, ?_, ?_, ?_, ?_, hopen⟩
  · intro s' w c hc
    exact hlength ▸ hq.slots s' w c (hslot hc)
  · intro s' c hc
    exact hlength ▸ hq.lists s' c (hlist hc)
  · intro s₁ w₁ s₂ w₂ c hc hc'
    exact hq.single s₁ w₁ s₂ w₂ c (hslot hc) (hslot hc')
  · intro s₁ w₁ s₂ c hc hc'
    exact hq.apart s₁ w₁ s₂ c (hslot hc) (hlist hc')

theorem quiet_close (hq : h.Quiet) (w : Worker) (s : StoreId) : (h.close w s).Quiet := by
  unfold close
  dsimp only
  split
  · exact hq
  · next c hslot =>
    have hslots : ∀ w' c', (((h.store s).release w c).slot w').connection = some c' →
        w' ≠ w ∧ ((h.store s).slot w').connection = some c' := by
      intro w' c' hc'
      by_cases hw : w' = w
      · rw [hw, Store.release, Store.slot_vacate_self] at hc'
        cases hc'
      · rw [Store.release, Store.slot_vacate_of_ne _ hw] at hc'
        exact ⟨hw, hc'⟩
    refine hq.setStore (List.length_modify ..) ?_ (fun w' c' hc' => (hslots w' c' hc').2)
      (fun _ => List.mem_of_mem_erase) ?_
    · intro x
      by_cases hx : x = c
      · rw [hx, Engine.connection_close]
      · rw [Engine.connection_close_of_ne hx]; exact hq.idle x
    · intro s' w' c' hc'
      rw [store_setStore] at hc'
      -- Whoever can use a connection still is not the one whose connection was closed.
      have hother : ((h.store s').current? w' = some c') ∧ ¬ (s' = s ∧ w' = w) := by
        split at hc'
        · next hs =>
          obtain ⟨hw, hcurrent⟩ := Store.current?_vacate hc'
          rw [hs.1]
          exact ⟨hcurrent, fun h => hw h.2⟩
        · next hs =>
          refine ⟨hc', fun hself => hs ⟨hself.1, ?_⟩⟩
          rcases Nat.lt_or_ge s h.stores.length with hlt | hge
          · exact hlt
          · rw [store_of_ge hge] at hslot; cases hslot
      have hne : c' ≠ c := by
        rintro rfl
        exact hother.2 (hq.single s w s' w' c' hslot (Store.current?_eq_some_iff.1 hother.1).2)
      rw [Engine.connection_close_of_ne hne]
      exact hq.isOpen s' w' c' hother.1

theorem connection_foldl_close {c : ConnectionId} {cs : List ConnectionId} (hc : c ∉ cs)
    (e : Engine) : (cs.foldl Engine.close e).connection c = e.connection c := by
  induction cs generalizing e with
  | nil => rfl
  | cons x rest ih =>
    rw [List.mem_cons, not_or] at hc
    rw [List.foldl_cons, ih hc.2, Engine.connection_close_of_ne hc.1]

theorem idle_foldl_close {e : Engine} (hidle : e.Idle) (cs : List ConnectionId) :
    (cs.foldl Engine.close e).Idle := by
  induction cs generalizing e with
  | nil => exact hidle
  | cons c rest ih =>
    refine ih fun x => ?_
    by_cases hx : x = c
    · rw [hx, Engine.connection_close]
    · rw [Engine.connection_close_of_ne hx]; exact hidle x

theorem quiet_closeAll (hq : h.Quiet) (hr : h.Registered) (w : Worker) (s : StoreId) :
    (h.closeAll w s).Quiet := by
  have hslots : ∀ w' c, (((h.store s).retire w).slot w').connection = some c →
      ((h.store s).slot w').connection = some c := by
    intro w' c hc
    by_cases hw : w' = w
    · rw [hw, Store.retire, Store.slot_vacate_self] at hc
      cases hc
    · rw [Store.retire, Store.slot_vacate_of_ne _ hw] at hc
      exact hc
  have hset : (Host.setStore { h with
      engine := (h.store s).connections.foldl Engine.close h.engine } s
        ((h.store s).retire w)).Quiet := by
    refine hq.setStore (same_foldl_close _ _).length (idle_foldl_close hq.idle _) hslots
      (fun _ hlisted => absurd hlisted List.not_mem_nil) ?_
    intro s' w' c hc
    rw [store_setStore] at hc
    split at hc
    · rw [current?_retire (hr.generation s)] at hc
      cases hc
    · next hs =>
      have hslot := (Store.current?_eq_some_iff.1 hc).2
      have hunlisted : c ∉ (h.store s).connections := by
        intro hmem
        obtain rfl := hq.apart s' w' s c hslot hmem
        refine hs ⟨rfl, ?_⟩
        rcases Nat.lt_or_ge s h.stores.length with hlt | hge
        · exact hlt
        · rw [store_of_ge hge] at hmem; cases hmem
      rw [connection_foldl_close hunlisted]
      exact hq.isOpen s' w' c hc
  exact hset.congr rfl rfl

/-! ## Whole steps -/

theorem quiet_addStore (hq : h.Quiet) (path : Text) : (h.addStore path).2.Quiet := by
  have hold : ∀ s, (h.addStore path).2.store s = h.store s ∨
      (h.addStore path).2.store s = { path } := by
    intro s
    rw [store_addStore]
    split
    · exact .inr rfl
    · exact .inl rfl
  have hslot : ∀ {s w c}, (((h.addStore path).2.store s).slot w).connection = some c →
      ((h.store s).slot w).connection = some c := by
    intro s w c hc
    rcases hold s with heq | heq
    · rwa [heq] at hc
    · rw [heq] at hc; cases hc
  have hlist : ∀ {s c}, c ∈ ((h.addStore path).2.store s).connections →
      c ∈ (h.store s).connections := by
    intro s c hc
    rcases hold s with heq | heq
    · rwa [heq] at hc
    · rw [heq] at hc; cases hc
  refine ⟨hq.idle, ?_, ?_, ?_, ?_, ?_⟩
  · intro s w c hc
    exact hq.slots s w c (hslot hc)
  · intro s c hc
    exact hq.lists s c (hlist hc)
  · intro s w s' w' c hc hc'
    exact hq.single s w s' w' c (hslot hc) (hslot hc')
  · intro s w s' c hc hc'
    exact hq.apart s w s' c (hslot hc) (hlist hc')
  · intro s w c hc
    rcases hold s with heq | heq
    · rw [heq] at hc; exact hq.isOpen s w c hc
    · rw [heq] at hc; cases hc

theorem quiet_putRow (hq : h.Quiet) (hs : h.engine.Sound) (w : Worker) (s : StoreId) (key : Bytes)
    {family : Text} {cells : Cells} (haccepted : Engine.accepted family cells = cells) :
    (h.putRow w s key family cells).2.Quiet := by
  have hconn := quiet_connection hq w s
  have hsound := (connection_preserves w s h hs).1
  refine putRow_leaves (fun e h' heq => ?_) (fun c h' heq => ?_)
  · rw [heq] at hconn; exact hconn
  · rw [heq] at hconn hsound
    exact hconn.congr (Engine.connections_put hconn.idle hsound c key haccepted) rfl

theorem quiet_bootstrap (hq : h.Quiet) (hs : h.engine.Sound) (w : Worker) (s : StoreId) :
    (h.bootstrap w s).2.Quiet := by
  refine bootstrap_leaves hq (fun disk e h' hmake heq => ?_) (fun disk c h' log hmake heq => ?_)
  all_goals
    have hmade : Quiet { h with engine := { h.engine with disk } } := hq.congr rfl rfl
    have hdisk := (Engine.preserves_disk (Disk.sameFiles_makeParents hmake) hs).1
    have hconn := quiet_connection hmade w s
    have hsound := (connection_preserves w s { h with engine := { h.engine with disk } } hdisk).1
    rw [heq] at hconn hsound
  · exact hconn
  · exact hconn.congr (Engine.connections_ensureTable hconn.idle hsound c) rfl

theorem quiet_checkpoint (hq : h.Quiet) (w : Worker) (s : StoreId) : (h.checkpoint w s).Quiet := by
  obtain ⟨log, hcheckpoint⟩ := checkpoint_eq h w s
  rw [hcheckpoint]
  exact (quiet_connection hq w s).congr rfl rfl

theorem quiet_openScanner (hq : h.Quiet) (w : Worker) (s : StoreId) (scan : Scan) :
    (h.openScanner w s scan).2.Quiet := by
  obtain ⟨scanners, hopen⟩ := openScanner_eq h w s scan
  rw [hopen]
  exact (quiet_connection hq w s).congr rfl rfl

/-- A pull between transactions leaves the databases and the connections as they were. -/
theorem engine_pull (hq : h.Quiet) (it : IterationId) : (h.pull it).2.engine = h.engine := by
  cases hclosed : (h.scanner (h.iteration it).scanner).isClosed with
  | true =>
    rw [pull_of_closed h it hclosed]
    rfl
  | false =>
    rw [pull_engine h it hclosed, Engine.afterRead_of_idle hq.idle]
    exact ite_self _

theorem stores_pull (h : Host) (it : IterationId) : (h.pull it).2.stores = h.stores := by
  unfold pull
  dsimp only
  split <;> rfl

theorem quiet_closeScanner (hq : h.Quiet) (i : ScannerId) : (h.closeScanner i).2.Quiet := by
  obtain ⟨scanners, hclose⟩ := closeScanner_eq h i
  rw [hclose]
  exact hq.congr rfl rfl

/-- What one step of any worker preserves. -/
theorem quiet_perform (hq : h.Quiet) (hr : h.Registered) (hs : h.Sound) {step : Step}
    (hplain : step.Plain) : (h.perform step).2.Quiet := by
  obtain ⟨w, operation⟩ := step
  cases operation with
  | newStore path => exact quiet_addStore hq path
  | bootstrap s => exact quiet_bootstrap hq hs.engine w s
  | putRow s key family cells => exact quiet_putRow hq hs.engine w s key hplain.accepted
  | checkpoint s => exact quiet_checkpoint hq w s
  | close s => exact quiet_close hq w s
  | closeAll s => exact quiet_closeAll hq hr w s
  | newFilter => exact hq.congr rfl rfl
  | openScanner s scan => exact quiet_openScanner hq w s scan
  | iterate i => exact hq.congr rfl rfl
  | pull it => exact hq.congr (congrArg Engine.connections (engine_pull hq it)) (stores_pull h it)
  | closeScanner i => exact quiet_closeScanner hq i
  | dropTable s => exact absurd rfl (hplain.keeps s)
  | sever s => exact absurd rfl (hplain.unsevered s)

theorem Begins.quiet (hb : h.Begins) : h.Quiet := by
  have hstore : ∀ s, h.store s = { path := [] } :=
    fun s => store_of_ge (by rw [hb.stores]; exact Nat.zero_le s)
  refine ⟨?_, ?_, ?_, ?_, ?_, ?_⟩
  · intro c
    rw [Engine.connection_of_ge (by rw [hb.connections]; exact Nat.zero_le c)]
  · intro s w c hc
    rw [hstore] at hc; cases hc
  · intro s c hc
    rw [hstore] at hc; cases hc
  · intro s w s' w' c hc
    rw [hstore] at hc; cases hc
  · intro s w s' c hc
    rw [hstore] at hc; cases hc
  · intro s w c hc
    rw [hstore] at hc; cases hc

end Host

end HourlyUsage
