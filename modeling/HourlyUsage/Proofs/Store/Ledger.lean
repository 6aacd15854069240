import HourlyUsage.Proofs.Database.Standing
import HourlyUsage.Proofs.Store.Quiet
/-!
# A ledger of connections

`Ledger` ties what stores and engine show to what was done before: who was given which connection,
and which of them were closed. A store lists exactly the connections that its workers can use, these
are the open ones, and no connection was ever given to two workers. A slot of an older generation
holds a connection that is closed for good.

Sources: `get_connection`, `close`, `close_all`, `_create_connection`.

Results:
* `ledger_connection`: a worker asks for a connection.
* `Ledger.drop`: a store lets go of some connections.
* `ledger_close`, `ledger_closeAll`: it does so for one worker, or for all.
* `ledger_addStore`: a new store.
-/
namespace HourlyUsage.Host

/-- The connections that were given to workers and those that are gone, and what is there of
them. -/
structure Ledger (given : StoreId → Worker → ConnectionId → Prop) (gone : ConnectionId → Prop)
    (h : Host) : Prop where
  known : ∀ s w c, given s w c → s < h.stores.length ∧ c < h.engine.connections.length
  single : ∀ s w s' w' c, given s w c → given s' w' c → s' = s ∧ w' = w
  slot : ∀ s w c, ((h.store s).slot w).connection = some c → given s w c
  generation : ∀ s w g, ((h.store s).slot w).generation = some g → g ≤ (h.store s).generation
  current : ∀ s w c, given s w c → ((h.store s).current? w = some c ↔ ¬ gone c)
  isOpen : ∀ s w c, given s w c → ((h.engine.connection c).isOpen = true ↔ ¬ gone c)
  owner : ∀ c, gone c → ∃ s w, given s w c
  listed : ∀ s c, c ∈ (h.store s).connections ↔ ∃ w, (h.store s).current? w = some c
  nodup : ∀ s, (h.store s).connections.Nodup

/-- The stores are the same, and the connections still there. -/
structure Continues (h h' : Host) : Prop where
  stores : h'.stores = h.stores
  standing : h.engine.Standing h'.engine

variable {h : Host} {given : StoreId → Worker → ConnectionId → Prop} {gone : ConnectionId → Prop}

theorem Ledger.of_iff {given' : StoreId → Worker → ConnectionId → Prop}
    {gone' : ConnectionId → Prop} (hl : h.Ledger given gone)
    (hgiven : ∀ s w c, given' s w c ↔ given s w c) (hgone : ∀ c, gone' c ↔ gone c) :
    h.Ledger given' gone' := by
  obtain rfl : given' = given := funext fun s => funext fun w => funext fun c =>
    propext (hgiven s w c)
  obtain rfl : gone' = gone := funext fun c => propext (hgone c)
  exact hl

/-- A worker's connection of the current generation is the worker's, and open. -/
theorem Ledger.of_current (hl : h.Ledger given gone) {s : StoreId} {w : Worker} {c : ConnectionId}
    (hcurrent : (h.store s).current? w = some c) :
    given s w c ∧ (h.engine.connection c).isOpen = true := by
  have hgiven := hl.slot s w c (Store.current?_eq_some_iff.1 hcurrent).2
  exact ⟨hgiven, (hl.isOpen s w c hgiven).2 ((hl.current s w c hgiven).1 hcurrent)⟩

theorem Ledger.continues (hl : h.Ledger given gone) {h' : Host} (hf : h.Continues h') :
    h'.Ledger given gone := by
  have hstore : ∀ s, h'.store s = h.store s := fun s => by
    rw [Host.store, Host.store, hf.stores]
  refine ⟨?_, hl.single, ?_, ?_, ?_, ?_, hl.owner, ?_, ?_⟩
  · intro s w c hgiven
    obtain ⟨hs, hc⟩ := hl.known s w c hgiven
    exact ⟨hf.stores ▸ hs, Nat.lt_of_lt_of_le hc hf.standing.length⟩
  · intro s w c
    rw [hstore]
    exact hl.slot s w c
  · intro s w g
    rw [hstore]
    exact hl.generation s w g
  · intro s w c
    rw [hstore]
    exact hl.current s w c
  · intro s w c hgiven
    rw [hf.standing.isOpen c (hl.known s w c hgiven).2]
    exact hl.isOpen s w c hgiven
  · intro s c
    rw [hstore]
    exact hl.listed s c
  · intro s
    rw [hstore]
    exact hl.nodup s

/-! ## A new connection -/

section

variable {w : Worker} {s : StoreId} {engine : Engine} {d : DatabaseId}

theorem current?_adopted_self (hin : s < h.stores.length) (w : Worker) (engine : Engine)
    (c : ConnectionId) : ((h.adopted w s engine c).store s).current? w = some c := by
  rw [store_adopted hin, Store.current?_adopt_self]

theorem current?_adopted_of_other (hin : s < h.stores.length) {w' : Worker} {s' : StoreId}
    (hother : ¬ (s' = s ∧ w' = w)) (engine : Engine) (c : ConnectionId) :
    ((h.adopted w s engine c).store s').current? w' = (h.store s').current? w' := by
  by_cases hs : s' = s
  · subst hs
    rw [store_adopted hin, Store.current?_adopt_of_ne _ fun hw => hother ⟨rfl, hw⟩]
  · rw [store_adopted_of_ne h hs]

theorem generation_adopted {w' : Worker} {s' : StoreId} {c : ConnectionId}
    (hgeneration : ∀ s w g, ((h.store s).slot w).generation = some g → g ≤ (h.store s).generation)
    {g : Nat} (hg : (((h.adopted w s engine c).store s').slot w').generation = some g) :
    g ≤ ((h.adopted w s engine c).store s').generation := by
  have hstore : ((h.adopted w s engine c).store s').generation = (h.store s').generation := by
    rw [adopted, store_setStore]
    split
    · next hs => rw [hs.1]; rfl
    · rfl
  rw [slot_adopted] at hg
  rw [hstore]
  split at hg
  · next hself => rw [hself.1.1]; exact Nat.le_of_eq (Option.some.inj hg).symm
  · exact hgeneration s' w' g hg

theorem Ledger.fresh (hl : h.Ledger given gone) :
    (∀ s w, ¬ given s w h.engine.connections.length) ∧ ¬ gone h.engine.connections.length := by
  have hfresh : ∀ s w, ¬ given s w h.engine.connections.length :=
    fun s w hgiven => Nat.lt_irrefl _ (hl.known s w _ hgiven).2
  refine ⟨hfresh, fun hgone => ?_⟩
  obtain ⟨s, w, hgiven⟩ := hl.owner _ hgone
  exact hfresh s w hgiven

theorem Ledger.listed_adopted (hl : h.Ledger given gone) (hin : s < h.stores.length)
    (hnone : (h.store s).current? w = none) (s' : StoreId) (c : ConnectionId) :
    (c ∈ ((h.adopted w s engine h.engine.connections.length).store s').connections ↔
      ∃ w', ((h.adopted w s engine h.engine.connections.length).store s').current? w' = some c) ∧
    ((h.adopted w s engine h.engine.connections.length).store s').connections.Nodup := by
  by_cases hs : s' = s
  · subst hs
    have hself := current?_adopted_self hin w engine h.engine.connections.length
    have hconnections :
        ((h.adopted w s' engine h.engine.connections.length).store s').connections =
          (h.store s').connections ++ [h.engine.connections.length] := by
      rw [store_adopted hin, Store.adopt]
    rw [hconnections]
    constructor
    · rw [List.mem_append, List.mem_singleton, hl.listed]
      constructor
      · rintro (⟨w', hcurrent⟩ | rfl)
        · refine ⟨w', ?_⟩
          rw [current?_adopted_of_other hin]
          · exact hcurrent
          · rintro ⟨-, rfl⟩
            rw [hnone] at hcurrent
            cases hcurrent
        · exact ⟨w, hself⟩
      · rintro ⟨w', hcurrent⟩
        by_cases hw : w' = w
        · rw [hw, hself] at hcurrent
          exact .inr (Option.some.inj hcurrent).symm
        · rw [current?_adopted_of_other hin fun hsame => hw hsame.2] at hcurrent
          exact .inl ⟨w', hcurrent⟩
    · refine List.nodup_append.2 ⟨hl.nodup s', List.pairwise_singleton _ _, ?_⟩
      rintro x hx y hy rfl
      obtain ⟨w', hcurrent⟩ := (hl.listed s' x).1 hx
      rw [List.mem_singleton.1 hy] at hcurrent
      exact hl.fresh.1 s' w' (hl.of_current hcurrent).1
  · rw [store_adopted_of_ne h hs]
    exact ⟨hl.listed s' c, hl.nodup s'⟩

theorem Ledger.adopted (hl : h.Ledger given gone) (hin : s < h.stores.length)
    (hnone : (h.store s).current? w = none)
    (hconnections : engine.connections = h.engine.connections ++ [{ database := d }]) :
    (h.adopted w s engine h.engine.connections.length).Ledger
      (fun s' w' c => given s' w' c ∨ s' = s ∧ w' = w ∧ c = h.engine.connections.length) gone := by
  have hlength : engine.connections.length = h.engine.connections.length + 1 := by
    rw [hconnections, List.length_append, List.length_singleton]
  have hold : ∀ c < h.engine.connections.length, engine.connection c = h.engine.connection c :=
    fun c hc => Engine.connection_of_lt hc (by rw [hconnections, List.getElem?_append_left hc])
  have hnew : engine.connection h.engine.connections.length = { database := d } := by
    simp [Engine.connection, hconnections]
  have hself := current?_adopted_self hin w engine h.engine.connections.length
  obtain ⟨hfresh, hkept⟩ := hl.fresh
  refine ⟨?_, ?_, ?_, fun _ _ _ => generation_adopted hl.generation, ?_, ?_, ?_,
    fun s' c => (hl.listed_adopted hin hnone s' c).1,
    fun s' => (hl.listed_adopted hin hnone s' 0).2⟩
  · rintro s' w' c (hgiven | ⟨rfl, rfl, rfl⟩)
    · obtain ⟨hs', hc⟩ := hl.known s' w' c hgiven
      rw [length_adopted, engine_adopted, hlength]
      exact ⟨hs', Nat.lt_succ_of_lt hc⟩
    · rw [length_adopted, engine_adopted, hlength]
      exact ⟨hin, Nat.lt_succ_self _⟩
  · rintro s₁ w₁ s₂ w₂ c (hgiven | ⟨rfl, rfl, rfl⟩) (hgiven' | ⟨hs, hw, hc⟩)
    · exact hl.single s₁ w₁ s₂ w₂ c hgiven hgiven'
    · exact absurd (hc ▸ hgiven) (hfresh s₁ w₁)
    · exact absurd hgiven' (hfresh s₂ w₂)
    · exact ⟨hs, hw⟩
  · intro s' w' c hslot
    rw [slot_adopted] at hslot
    split at hslot
    · next hself => exact .inr ⟨hself.1.1, hself.1.2, (Option.some.inj hslot).symm⟩
    · exact .inl (hl.slot s' w' c hslot)
  · rintro s' w' c (hgiven | ⟨rfl, rfl, rfl⟩)
    · by_cases hsame : s' = s ∧ w' = w
      · -- The worker could use none, so what it was given before is gone.
        obtain ⟨rfl, rfl⟩ := hsame
        have hgone : gone c := Classical.not_not.1 fun hnot => by
          rw [(hl.current s' w' c hgiven).2 hnot] at hnone
          cases hnone
        rw [hself, Option.some.injEq]
        refine iff_of_false ?_ (not_not_intro hgone)
        rintro rfl
        exact hfresh s' w' hgiven
      · rw [current?_adopted_of_other hin hsame]
        exact hl.current s' w' c hgiven
    · exact iff_of_true hself hkept
  · rintro s' w' c (hgiven | ⟨rfl, rfl, rfl⟩)
    · rw [engine_adopted, hold c (hl.known s' w' c hgiven).2]
      exact hl.isOpen s' w' c hgiven
    · rw [engine_adopted, hnew]
      exact iff_of_true rfl hkept
  · intro c hgone
    obtain ⟨s', w', hgiven⟩ := hl.owner c hgone
    exact ⟨s', w', .inl hgiven⟩

end

/-- How it can go when a worker asks for a connection. -/
inductive ConnectionResult (h : Host) (w : Worker) (s : StoreId) :
    Except StoreError ConnectionId × Host → Prop where
  | kept (c : ConnectionId) (hcurrent : (h.store s).current? w = some c) :
      ConnectionResult h w s (.ok c, h)
  | refused (e : StoreError) : ConnectionResult h w s (.error e, h)
  | made (engine : Engine) (d : DatabaseId) (hnone : (h.store s).current? w = none)
      (hconnections : engine.connections = h.engine.connections ++ [{ database := d }]) :
      ConnectionResult h w s (.ok h.engine.connections.length,
        h.adopted w s engine h.engine.connections.length)

theorem connection_cases (h : Host) (w : Worker) (s : StoreId) :
    ConnectionResult h w s (h.connection w s) := by
  cases hcurrent : (h.store s).current? w with
  | some c =>
    rw [connection_of_current hcurrent]
    exact .kept c hcurrent
  | none =>
    have hcases := Engine.connect_cases h.engine (h.store s).path
    rw [connection, hcurrent]
    dsimp only
    generalize h.engine.connect (h.store s).path = result at hcases ⊢
    obtain ⟨outcome, engine⟩ := result
    cases hcases with
    | refused f => exact .refused _
    | joined d _ _ => exact .made _ d hcurrent rfl
    | made disk _ => exact .made _ _ hcurrent rfl

/-- A worker asks for a connection of a store. -/
theorem ledger_connection (hl : h.Ledger given gone) (w : Worker) (s : StoreId) :
    (h.connection w s).2.Ledger
      (fun s' w' c => given s' w' c ∨
        s' = s ∧ w' = w ∧ s < h.stores.length ∧ (h.connection w s).1 = .ok c) gone := by
  have hcases := connection_cases h w s
  generalize h.connection w s = result at hcases ⊢
  cases hcases with
  | kept c hcurrent =>
    refine hl.of_iff (fun s' w' c' => or_iff_left_of_imp ?_) fun _ => .rfl
    rintro ⟨rfl, rfl, -, hc⟩
    cases hc
    exact (hl.of_current hcurrent).1
  | refused e =>
    refine hl.of_iff (fun s' w' c => or_iff_left_of_imp ?_) fun _ => .rfl
    rintro ⟨-, -, -, hc⟩
    cases hc
  | made engine d hnone hconnections =>
    rcases Nat.lt_or_ge s h.stores.length with hin | hge
    · refine (hl.adopted hin hnone hconnections).of_iff (fun s' w' c => ?_) fun _ => .rfl
      simp [hin, eq_comm]
    · -- Nobody owns the store, so nobody is given the connection.
      have hf : h.Continues (h.adopted w s engine h.engine.connections.length) :=
        ⟨List.set_eq_of_length_le hge, Engine.standing_of_append hconnections⟩
      exact (hl.continues hf).of_iff (fun s' w' c => or_iff_left_of_imp fun hnew =>
        absurd hnew.2.2.1 (Nat.not_lt.2 hge)) fun _ => .rfl

/-! ## Letting go of connections -/

/-- A store lets go of some connections that it has given to its workers: they are closed and no
others, and the store neither lists nor holds them any longer. -/
structure Drops (given : Worker → ConnectionId → Prop) (dropped : ConnectionId → Prop)
    (store : Store) (engine : Engine) (store' : Store) (engine' : Engine) : Prop where
  length : engine'.connections.length = engine.connections.length
  owner : ∀ c, dropped c → ∃ w, given w c
  closed : ∀ c, dropped c → (engine'.connection c).isOpen = false
  kept : ∀ c, ¬ dropped c → engine'.connection c = engine.connection c
  slot : ∀ w c, (store'.slot w).connection = some c → (store.slot w).connection = some c
  generation : ∀ w g, (store'.slot w).generation = some g → g ≤ store'.generation
  current : ∀ w c, store'.current? w = some c ↔ store.current? w = some c ∧ ¬ dropped c
  listed : ∀ c, c ∈ store'.connections ↔ c ∈ store.connections ∧ ¬ dropped c
  nodup : store'.connections.Nodup

section

variable {s : StoreId} {store : Store} {engine : Engine} {dropped : ConnectionId → Prop}

theorem Drops.isOpen_iff (hdrops : Drops (given s) dropped (h.store s) h.engine store engine)
    (c : ConnectionId) : (engine.connection c).isOpen = true ↔
      (h.engine.connection c).isOpen = true ∧ ¬ dropped c := by
  by_cases hc : dropped c
  · simp [hdrops.closed c hc, hc]
  · simp [hdrops.kept c hc, hc]

theorem Ledger.kept_iff (hl : h.Ledger given gone)
    (hdrops : Drops (given s) dropped (h.store s) h.engine store engine) {s' : StoreId} {w : Worker}
    {c : ConnectionId} (hgiven : given s' w c) :
    ¬ (gone c ∨ (h.engine.connection c).isOpen = true ∧ (engine.connection c).isOpen = false) ↔
      ¬ gone c ∧ ¬ dropped c := by
  have hwas := hl.isOpen s' w c hgiven
  rw [← Bool.not_eq_true, hdrops.isOpen_iff, not_or]
  by_cases hlost : gone c
  · simp [hlost]
  · simp [hlost, hwas.2 hlost]

/-- A store of its workers lets go of some connections. -/
theorem Ledger.drop (hl : h.Ledger given gone) (hin : s < h.stores.length)
    (hdrops : Drops (given s) dropped (h.store s) h.engine store engine) :
    (Host.setStore { h with engine } s store).Ledger given (fun c => gone c ∨
      (h.engine.connection c).isOpen = true ∧ (engine.connection c).isOpen = false) := by
  have hself : (Host.setStore { h with engine } s store).store s = store := by
    rw [store_setStore, if_pos ⟨rfl, hin⟩]
  have hother : ∀ s', s' ≠ s →
      (Host.setStore { h with engine } s store).store s' = h.store s' := by
    intro s' hs
    rw [store_setStore, if_neg fun h => hs h.1]
    rfl
  refine ⟨?_, hl.single, ?_, ?_, ?_, ?_, ?_, ?_, ?_⟩
  · intro s' w c hc
    rw [setStore, List.length_set, hdrops.length]
    exact hl.known s' w c hc
  · intro s' w c hslot
    by_cases hs : s' = s
    · subst hs
      rw [hself] at hslot
      exact hl.slot s' w c (hdrops.slot w c hslot)
    · rw [hother s' hs] at hslot
      exact hl.slot s' w c hslot
  · intro s' w g hg
    by_cases hs : s' = s
    · subst hs
      rw [hself] at hg ⊢
      exact hdrops.generation w g hg
    · rw [hother s' hs] at hg ⊢
      exact hl.generation s' w g hg
  · intro s' w c hc
    rw [hl.kept_iff hdrops hc, ← hl.current s' w c hc]
    by_cases hs : s' = s
    · subst hs
      rw [hself, hdrops.current]
    · -- What the store drops was given to its own workers.
      have hstill : ¬ dropped c := by
        intro hdropped
        obtain ⟨w', hc'⟩ := hdrops.owner c hdropped
        exact hs (hl.single s w' s' w c hc' hc).1
      rw [hother s' hs, and_iff_left hstill]
  · intro s' w c hc
    rw [hl.kept_iff hdrops hc, ← hl.isOpen s' w c hc]
    exact hdrops.isOpen_iff c
  · rintro c (hlost | ⟨hwas, hnow⟩)
    · exact hl.owner c hlost
    · refine ⟨s, hdrops.owner c (Classical.not_not.1 fun hstill => ?_)⟩
      rw [hdrops.kept c hstill, hwas] at hnow
      cases hnow
  · intro s' c
    by_cases hs : s' = s
    · subst hs
      simp only [hself, hdrops.listed, hdrops.current, hl.listed, exists_and_right]
    · rw [hother s' hs]
      exact hl.listed s' c
  · intro s'
    by_cases hs : s' = s
    · subst hs
      rw [hself]
      exact hdrops.nodup
    · rw [hother s' hs]
      exact hl.nodup s'

theorem Ledger.drops_release (hl : h.Ledger given gone) {w : Worker} {c : ConnectionId}
    (hslot : ((h.store s).slot w).connection = some c) :
    Drops (given s) (· = c) (h.store s) h.engine ((h.store s).release w c)
      (h.engine.close c) := by
  have hgiven := hl.slot s w c hslot
  -- Nobody else was ever given the connection, so nobody else loses one.
  have honly : ∀ w' x, (h.store s).current? w' = some x → (x = c ↔ w' = w) := by
    intro w' x hcurrent
    constructor
    · rintro rfl
      exact (hl.single s w s w' x hgiven (hl.of_current hcurrent).1).2
    · rintro rfl
      exact Option.some.inj ((Store.current?_eq_some_iff.1 hcurrent).2.symm.trans hslot)
  refine ⟨List.length_modify .., ?_, ?_, fun _ => Engine.connection_close_of_ne, ?_, ?_, ?_, ?_,
    (hl.nodup s).erase c⟩
  · rintro x rfl
    exact ⟨w, hgiven⟩
  · rintro x rfl
    rw [Engine.connection_close]
  · intro w' x hx
    by_cases hw : w' = w
    · rw [hw, Store.release, Store.slot_vacate_self] at hx
      cases hx
    · rwa [Store.release, Store.slot_vacate_of_ne _ hw] at hx
  · intro w' g hg
    rw [Store.release, Store.generation_slot_vacate] at hg
    exact hl.generation s w' g hg
  · intro w' x
    constructor
    · intro hcurrent
      obtain ⟨hw, hcurrent⟩ := Store.current?_vacate hcurrent
      exact ⟨hcurrent, fun hx => hw ((honly w' x hcurrent).1 hx)⟩
    · rintro ⟨hcurrent, hx⟩
      have hw : w' ≠ w := fun hw => hx ((honly w' x hcurrent).2 hw)
      rw [Store.release, Store.current?_vacate_of_ne _ hw]
      exact hcurrent
  · intro x
    rw [and_comm]
    exact (hl.nodup s).mem_erase_iff

theorem Ledger.drops_retire (hl : h.Ledger given gone) (w : Worker) :
    Drops (given s) (· ∈ (h.store s).connections) (h.store s) h.engine ((h.store s).retire w)
      ((h.store s).connections.foldl Engine.close h.engine) := by
  have hnone : ∀ w', ((h.store s).retire w).current? w' = none :=
    current?_retire (hl.generation s) w
  refine ⟨(same_foldl_close (h.store s).connections h.engine).length, ?_,
    fun c hc => closed_of_mem hc h.engine, fun c hc => connection_foldl_close hc h.engine,
    ?_, ?_, ?_, ?_, List.nodup_nil⟩
  · intro c hc
    obtain ⟨w', hcurrent⟩ := (hl.listed s c).1 hc
    exact ⟨w', (hl.of_current hcurrent).1⟩
  · intro w' c hc
    by_cases hw : w' = w
    · rw [hw, Store.retire, Store.slot_vacate_self] at hc
      cases hc
    · rwa [Store.retire, Store.slot_vacate_of_ne _ hw] at hc
  · intro w' g hg
    rw [Store.retire, Store.generation_slot_vacate] at hg
    exact Nat.le_succ_of_le (hl.generation s w' g hg)
  · intro w' c
    rw [hnone]
    refine iff_of_false (Option.some_ne_none c).symm ?_
    rintro ⟨hcurrent, hunlisted⟩
    exact hunlisted ((hl.listed s c).2 ⟨w', hcurrent⟩)
  · intro c
    exact iff_of_false List.not_mem_nil fun hboth => hboth.2 hboth.1

end

theorem Ledger.unclosed (hl : h.Ledger given gone) : h.Ledger given (fun c => gone c ∨
    (h.engine.connection c).isOpen = true ∧ (h.engine.connection c).isOpen = false) := by
  refine hl.of_iff (fun _ _ _ => .rfl) fun c => or_iff_left_of_imp ?_
  rintro ⟨hopen, hclosed⟩
  rw [hopen] at hclosed
  cases hclosed

/-- A worker closes its connection of a store. -/
theorem ledger_close (hl : h.Ledger given gone) (w : Worker) (s : StoreId) :
    (h.close w s).Ledger given (fun c => gone c ∨ (h.engine.connection c).isOpen = true ∧
      ((h.close w s).engine.connection c).isOpen = false) := by
  unfold close
  dsimp only
  split
  · exact hl.unclosed
  · next c hslot =>
    exact hl.drop (hl.known s w c (hl.slot s w c hslot)).1 (hl.drops_release hslot)

/-- All connections of a store are closed. -/
theorem ledger_closeAll (hl : h.Ledger given gone) (w : Worker) (s : StoreId) :
    (h.closeAll w s).Ledger given (fun c => gone c ∨ (h.engine.connection c).isOpen = true ∧
      ((h.closeAll w s).engine.connection c).isOpen = false) := by
  rcases Nat.lt_or_ge s h.stores.length with hin | hge
  · exact (hl.drop hin (hl.drops_retire w)).continues ⟨rfl, .refl _⟩
  · have hengine : (h.closeAll w s).engine = h.engine := by
      unfold closeAll
      dsimp only
      rw [store_of_ge hge]
      rfl
    have hf : h.Continues (h.closeAll w s) :=
      ⟨List.set_eq_of_length_le hge, Engine.standing_of_connections (by rw [hengine])⟩
    rw [hengine]
    exact hl.unclosed.continues hf

/-! ## A new store -/

theorem ledger_addStore (hl : h.Ledger given gone) (path : Text) :
    (h.addStore path).2.Ledger given gone := by
  have hnew := store_addStore h path
  have hold : ∀ s w c, given s w c → (h.addStore path).2.store s = h.store s := by
    intro s w c hgiven
    rw [hnew, if_neg (Nat.ne_of_lt (hl.known s w c hgiven).1)]
  refine ⟨?_, hl.single, ?_, ?_, ?_, hl.isOpen, hl.owner, ?_, ?_⟩
  · intro s w c hgiven
    obtain ⟨hs, hc⟩ := hl.known s w c hgiven
    refine ⟨?_, hc⟩
    rw [addStore, List.length_append]
    exact Nat.lt_add_right _ hs
  · intro s w c hslot
    rw [hnew] at hslot
    split at hslot
    · cases hslot
    · exact hl.slot s w c hslot
  · intro s w g hg
    rw [hnew] at hg ⊢
    split at hg
    · cases hg
    · next hs =>
      rw [if_neg hs]
      exact hl.generation s w g hg
  · intro s w c hgiven
    rw [hold s w c hgiven]
    exact hl.current s w c hgiven
  · intro s c
    rw [hnew]
    split
    · refine iff_of_false List.not_mem_nil ?_
      rintro ⟨w, hcurrent⟩
      cases hcurrent
    · exact hl.listed s c
  · intro s
    rw [hnew]
    split
    · exact List.nodup_nil
    · exact hl.nodup s

end HourlyUsage.Host
