import HourlyUsage.Proofs.Store.Telltales
import HourlyUsage.Proofs.Store.Twins
/-!
# When a failed write leaves no trace

A write that fails should be as if it had never been made. It is not: the transaction that it
started stays open, with the cells in front of the one that was refused. `Harmless` says exactly
when nobody can tell.

Sources: `put_row`.

Hypotheses: the failed write comes at the end of any run in which nobody removes the table as a
whole (`Step.Keeps`).

Results:
* `sameAnswers_leftover_iff`: what can be told from the transaction that a failed write leaves.
* `failed_put_unnoticed_iff`: the same for every state that can be reached.
* `failed_put_is_committed`: a cell of a failed write that a later write commits.
-/
namespace HourlyUsage.Host

variable {h : Host} {w : Worker} {s : StoreId} {c : ConnectionId} {t : Table}

/-- The host with the transaction of a connection replaced. -/
def withTransaction (h : Host) (c : ConnectionId) (tr : Transaction) : Host :=
  { h with engine := h.engine.setTransaction c tr }

theorem SameAnswers.refl (h : Host) : h.SameAnswers h := fun _ _ _ _ => rfl

/-! ## What gives a transaction away -/

theorem cell?_of_sameAnswers (hcurrent : (h.store s).current? w = some c)
    (hview : h.engine.view c = .ok t) {t' : Table} {key : Bytes} {family q : Text}
    (hfamily : Utf8.Encodable family) (hq : Utf8.Encodable q)
    (hcell : (t'.cell? key family q).isSome = true)
    (hsame : h.SameAnswers (h.withTransaction c (.writing (some t')))) :
    t'.cell? key family q = t.cell? key family q := by
  have hvalid : (cellScan key family q).Valid := by
    refine ⟨by show (0 : Int) < 100; decide, by show (100 : Int) < Cell.intBound; decide, ?_⟩
    intro column hcolumn
    obtain rfl := List.mem_singleton.1 hcolumn
    exact ⟨hfamily, hq⟩
  have hview' : (h.withTransaction c (.writing (some t'))).engine.view c = .ok t' :=
    Engine.view_setTransaction (Engine.view_eq_ok_iff.1 hview).1 rfl
  have hlook := hsame (h.look w s (cellScan key family q)) ⟨w, .pull h.iterations.length⟩
    (by simp [look, Step.Keeps]) nofun
  have hfits : ∀ t, (cellScan key family q).Fits t := fun t =>
    fits_of_batchSize (by show 4 ≤ mostDepth; decide) (by show 102 ≤ mostVariables; decide)
  have hfirst := (first_pull hcurrent hvalid rfl (hfits t) hview).1
  have hfirst' := (first_pull (h := h.withTransaction c (.writing (some t'))) hcurrent hvalid rfl
    (hfits t') hview').1
  obtain ⟨v, hv⟩ := Option.isSome_iff_exists.1 hcell
  have hanswers : firstAnswer (cellScan key family q) t = firstAnswer (cellScan key family q) t' :=
    hfirst.symm.trans (hlook.trans hfirst')
  rw [hv, cell?_of_firstAnswer hv hanswers]

/-- While the worker holds the write lock, somebody who is new to the store cannot write. -/
theorem told_by_lock (hfinds : h.Finds s (h.engine.connection c).database)
    (hc : c < h.engine.connections.length) (hcells : (h.engine.databaseOf c).cells = some t)
    (hquiet : ∀ x < h.engine.connections.length,
      (h.engine.connection x).database = (h.engine.connection c).database →
      (h.engine.connection x).transaction.isWriting = false) (work : Option Table) :
    ¬ h.SameAnswers (h.withTransaction c (.writing work)) := by
  intro hsame
  obtain ⟨z, hz⟩ := exists_stranger (h.store s)
  have hput := hsame [] ⟨z, .putRow s [] [] mark⟩ nofun Step.keeps_putRow
  obtain ⟨base, hlock⟩ := (Engine.lock_addConnection_iff h.engine _).2 hquiet
  have hdone := congrArg Prod.fst
    (putRow_of_lock (connection_of_finds hz hfinds) (Engine.view_addConnection hcells) hlock)
  have hself := Engine.connection_setTransaction hc (.writing work)
  obtain ⟨base', hlock'⟩ := lock_of_putRow
    (connection_of_finds (h := h.withTransaction c (.writing work)) hz hfinds)
    (hput.symm.trans hdone)
  have hnot := (Engine.lock_addConnection_iff _ _).1 ⟨base', hlock'⟩ c
    (by rw [withTransaction, Engine.length_setTransaction]; exact hc)
    (by rw [withTransaction, hself])
  rw [withTransaction, hself] at hnot
  cases hnot

/-- Once a transaction has read, a write of somebody else keeps the worker from writing. -/
theorem told_by_reading (hr : h.Registered) (hs : h.engine.Sound)
    (hcurrent : (h.store s).current? w = some c)
    (hfinds : h.Finds s (h.engine.connection c).database) (hview : h.engine.view c = .ok t)
    (hidle : (h.engine.connection c).transaction = .idle) :
    ¬ h.SameAnswers (h.withTransaction c .begun) := by
  intro hsame
  have hc := hr.inRange s w c hcurrent
  obtain ⟨hopen, hsees⟩ := Engine.view_eq_ok_iff.1 hview
  have hcells : (h.engine.databaseOf c).cells = some t := by rw [hidle] at hsees; exact hsees
  obtain ⟨step, hkeeps, hover⟩ := overtaken hr hs hcurrent hfinds hcells
  have hvalid : Scan.Valid {} := ⟨by decide, by decide, nofun⟩
  have hview' : (h.withTransaction c .begun).engine.view c = .ok t :=
    Engine.view_setTransaction hopen hcells
  have hfits : Scan.Fits {} t := fits_of_batchSize (by decide) (by decide)
  obtain ⟨-, hengine, hstores⟩ := first_pull hcurrent hvalid rfl hfits hview
  obtain ⟨-, hengine', hstores'⟩ := first_pull (h := h.withTransaction c .begun) hcurrent hvalid rfl
    hfits hview'
  have hkeep : ∀ x ∈ h.look w s {} ++ [⟨w, .pull h.iterations.length⟩, step], x.Keeps := by
    simpa [look, Step.Keeps] using hkeeps
  have hputs := hsame _ ⟨w, .putRow s [] [] mark⟩ hkeep Step.keeps_putRow
  rw [after_append, after_append] at hputs
  have hself := Engine.connection_setTransaction hc
  -- Without the transaction the worker writes after the other one.
  have hread : h.engine.afterRead c = h.engine.setTransaction c .idle := by
    rw [Engine.afterRead, hidle]; rfl
  have hwrites := (hover _ .idle rfl (hengine.trans hread) hstores).writes
    (by rw [hengine, hread, hself]) (by rw [hengine, hread, hself]; exact hopen)
  -- With the transaction it has read what is stale by then.
  have hread' : (h.withTransaction c .begun).engine.afterRead c =
      h.engine.setTransaction c (.reading t (h.engine.databaseOf c).version) := by
    have hdatabaseOf := (Engine.differsAt_setTransaction hc .begun).databaseOf c
    rw [withTransaction, Engine.afterRead, hdatabaseOf, hself]
    dsimp only
    rw [Transaction.read, hcells, Engine.setTransaction_setTransaction]
  have hdatabaseOf := (Engine.differsAt_setTransaction hc
    (.reading t (h.engine.databaseOf c).version)).databaseOf c
  refine (hover _ (.reading t _) rfl (hengine'.trans hread') hstores').fails (t := t) ?_
    (hputs.symm.trans hwrites)
  rw [hengine', hread', hself, hdatabaseOf]

/-! ## What a failed write leaves -/

/-- A write that fails leaves no trace: the cells that it has inserted were in the table before, and
nobody else can reach the database, or else the connection was in the middle of a transaction
before: of one that was writing, if a cell has been inserted. -/
structure Harmless (h : Host) (s : StoreId) (c : ConnectionId) (t : Table) (key : Bytes)
    (family : Text) (cells : Cells) : Prop where
  same : t.putAll key family (h.engine.inserted c family cells) = t
  quiet : Engine.isPrivate (h.store s).path = true ∨
    h.engine.inserted c family cells = [] ∧ (h.engine.connection c).transaction ≠ .idle ∨
    (h.engine.connection c).transaction.isWriting = true

section

variable (hr : h.Registered) (hs : h.engine.Sound) (hcurrent : (h.store s).current? w = some c)
  (hview : h.engine.view c = .ok t) {key : Bytes} {family : Text} {cells : Cells}
include hr hs hcurrent hview

/-- Nobody can tell a transaction in a database that nobody else can reach. -/
theorem twins_leftover (hprivate : Engine.isPrivate (h.store s).path = true)
    (hsame : t.putAll key family (h.engine.inserted c family cells) = t)
    (hcurrent' : (h.engine.connection c).transaction.Current (h.engine.databaseOf c)) :
    h.Twins (h.withTransaction c (h.engine.leftover c t key family cells)) c := by
  have hc := hr.inRange s w c hcurrent
  have hsees := (Engine.view_eq_ok_iff.1 hview).2
  have howns : h.engine.Owns c :=
    ⟨hc, hs.databases c hc, hr.secluded s w c hcurrent hprivate, hcurrent'⟩
  have hset : (h.engine.setTransaction c (h.engine.connection c).transaction).Twins
      (h.engine.setTransaction c (h.engine.leftover c t key family cells)) c := by
    refine (Engine.Twins.refl howns).setTransaction c (fun hne => absurd rfl hne) ?_
    intro _
    unfold Engine.leftover
    split
    · exact ⟨Transaction.view_start _ _, hcurrent', hcurrent'.start⟩
    · rw [hsame, hsees]
      exact ⟨rfl, hcurrent', True.intro⟩
  rw [Engine.setTransaction_self] at hset
  exact ⟨hset, rfl, rfl, rfl, rfl, rfl⟩

theorem sameAnswers_of_harmless (hharmless : h.Harmless s c t key family cells) :
    h.SameAnswers (h.withTransaction c (h.engine.leftover c t key family cells)) := by
  have hself : ∀ tr, tr = (h.engine.connection c).transaction →
      h.SameAnswers (h.withTransaction c tr) := by
    rintro tr rfl
    rw [withTransaction, Engine.setTransaction_self]
    exact .refl h
  rcases hharmless.quiet with hprivate | hunderway
  · by_cases hnone : h.engine.inserted c family cells = []
    · by_cases hidle : (h.engine.connection c).transaction = .idle
      · exact (twins_leftover hr hs hcurrent hview hprivate hharmless.same
          (by rw [hidle]; exact True.intro)).sameAnswers
      · exact hself _ (by rw [Engine.leftover, if_pos hnone, Engine.start_of_ne_idle hidle])
    · obtain ⟨base, hlock⟩ := Engine.lock_of_inserted hnone
      exact (twins_leftover hr hs hcurrent hview hprivate hharmless.same
        (Engine.current_of_lock hs hlock)).sameAnswers
  · exact hself _ (Engine.leftover_unchanged hview hharmless.same hunderway)

theorem harmless_of_sameAnswers
    (hsame : h.SameAnswers (h.withTransaction c (h.engine.leftover c t key family cells))) :
    h.Harmless s c t key family cells := by
  have hc := hr.inRange s w c hcurrent
  unfold Engine.leftover at hsame
  by_cases hnone : h.engine.inserted c family cells = []
  · rw [if_pos hnone] at hsame
    refine ⟨by rw [hnone]; rfl, ?_⟩
    cases hprivate : Engine.isPrivate (h.store s).path with
    | true => exact .inl rfl
    | false =>
      refine .inr (.inl ⟨hnone, ?_⟩)
      intro hidle
      rw [hidle] at hsame
      exact told_by_reading hr hs hcurrent ⟨hprivate, hr.home s w c hcurrent hprivate⟩ hview hidle
        hsame
  · rw [if_neg hnone] at hsame
    obtain ⟨base, hlock⟩ := Engine.lock_of_inserted hnone
    refine ⟨Table.putAll_eq_self t key family ?_, ?_⟩
    · intro q hq
      obtain ⟨cell, hcell, rfl⟩ := List.mem_map.1 hq
      obtain ⟨hfamily, hname⟩ := Engine.encodable_of_inserted hcell
      exact cell?_of_sameAnswers hcurrent hview hfamily hname
        (t.isSome_cell?_putAll key family (.inr hq)) hsame
    · cases hprivate : Engine.isPrivate (h.store s).path with
      | true => exact .inl rfl
      | false =>
        refine .inr (.inr ?_)
        cases hw : (h.engine.connection c).transaction.isWriting with
        | true => rfl
        | false =>
          have hcells := ((Engine.current_of_lock hs hlock).cells_of_not_writing hw).trans
            (Engine.view_eq_ok_iff.1 hview).2
          refine absurd hsame (told_by_lock ⟨hprivate, hr.home s w c hcurrent hprivate⟩ hc hcells
            ?_ _)
          intro x hx hd
          by_cases hxc : x = c
          · rw [hxc]; exact hw
          · exact Engine.others_of_lock hs hlock hxc hd

/-- What a failed write leaves can be told exactly if it is not harmless. -/
theorem sameAnswers_leftover_iff :
    h.SameAnswers (h.withTransaction c (h.engine.leftover c t key family cells)) ↔
      h.Harmless s c t key family cells :=
  ⟨harmless_of_sameAnswers hr hs hcurrent hview, sameAnswers_of_harmless hr hs hcurrent hview⟩

end

theorem view_of_unlisted (hge : h.stores.length ≤ s) {g : Host}
    (hconnection : h.connection w s = (.ok c, g)) : g.engine.view c = .error .noTable := by
  rw [connection, store_of_ge hge] at hconnection
  cases hconnection
  change (Engine.addConnection { h.engine with databases := h.engine.databases ++ [{}] }
    h.engine.databases.length).2.view h.engine.connections.length = _
  have hnew := Engine.connection_addConnection_self
    (e := { h.engine with databases := h.engine.databases ++ [{}] }) h.engine.databases.length
  rw [Engine.view, Engine.databaseOf, hnew]
  simp [Engine.addConnection, Engine.database, Transaction.view]

theorem putRow_failed {g : Host} (hconnection : h.connection w s = (.ok c, g))
    (hview : g.engine.view c = .ok t) {key : Bytes} {family : Text} {cells : Cells} {e : StoreError}
    (hfail : (h.putRow w s key family cells).1 = .error e) :
    (h.putRow w s key family cells).2 =
      g.withTransaction c (g.engine.leftover c t key family cells) := by
  have hleft : ∀ x, (g.engine.put c key family cells).1 = .error x →
      (g.engine.put c key family cells).2 =
        g.engine.setTransaction c (g.engine.leftover c t key family cells) :=
    fun _ => Engine.put_failed hview
  rw [putRow, hconnection] at hfail ⊢
  dsimp only at hfail ⊢
  generalize g.engine.put c key family cells = r at hleft hfail ⊢
  obtain ⟨outcome, after⟩ := r
  rcases outcome with (f | x) | u
  · exact congrArg (fun e => { g with engine := e }) (hleft _ rfl)
  · exact congrArg (fun e => { g with engine := e }) (hleft _ rfl)
  · cases hfail

/-- **A failed write goes unnoticed exactly if it is harmless.** Whatever was done before, what a
worker can tell from then on, and what all others can, is the same as if he had only been given his
connection, exactly in these cases: he has no connection that can read the table; or the cells that
were inserted before the write failed were there before, and nobody else can reach the database or
the connection was in the middle of a transaction already. -/
theorem failed_put_unnoticed_iff {start : Host} (hbegins : start.Begins) (opening : List Step)
    (hkept : ∀ step ∈ opening, step.Keeps) (w : Worker) (s : StoreId) (key : Bytes) (family : Text)
    (cells : Cells) {e : StoreError}
    (hfail : ((start.after opening).putRow w s key family cells).1 = .error e) :
    ((start.after opening).connection w s).2.SameAnswers
        ((start.after opening).putRow w s key family cells).2 ↔
      ∀ c t, ((start.after opening).connection w s).1 = .ok c →
        ((start.after opening).connection w s).2.engine.view c = .ok t →
        ((start.after opening).connection w s).2.Harmless s c t key family cells := by
  have hsound := sound_after hbegins.sound opening hkept
  have hregistered := registered_after hbegins.registered hbegins.sound opening hkept
  generalize start.after opening = before at hfail hsound hregistered ⊢
  have hr := registered_connection hregistered hsound.engine w s
  have hs := (connection_preserves w s before hsound.engine).1
  cases hconnection : before.connection w s with
  | mk outcome h =>
    rw [hconnection] at hr hs
    cases outcome with
    | error x =>
      have hsame : (before.putRow w s key family cells).2 = h := by rw [putRow, hconnection]
      rw [hsame]
      refine ⟨?_, fun _ => .refl h⟩
      intro _ _ _ hc
      cases hc
    | ok c =>
      cases hview : h.engine.view c with
      | error f =>
        have hsame : (before.putRow w s key family cells).2 = h := by
          rw [putRow, hconnection]
          dsimp only
          rw [Engine.put_unseen hview]
        rw [hsame]
        refine ⟨?_, fun _ => .refl h⟩
        intro _ c' t hc ht
        cases hc
        rw [hview] at ht
        cases ht
      | ok t =>
        have hin : s < before.stores.length := by
          apply Nat.lt_of_not_le
          intro hge
          rw [view_of_unlisted hge hconnection] at hview
          cases hview
        rw [putRow_failed hconnection hview hfail,
          sameAnswers_leftover_iff hr hs (current?_connection hin hconnection) hview]
        refine ⟨?_, fun hall => hall c t rfl hview⟩
        intro hharmless c' t' hc ht
        cases hc
        cases hview.symm.trans ht
        exact hharmless

def tornOpening : List Step :=
  [.newStore (text "usage.db"), .bootstrap 0].map (Step.mk .main)

def tornHost : Host := (ofDisk ⟨[], []⟩).after tornOpening

/-- Two cells, of which the second has a name that is no text. -/
def tornCells : Cells := [(text "quota", [7]), ([0xD800], [8])]

/-- A write that fails at its second cell is noticed. -/
theorem torn_put_is_noticed :
    (tornHost.putRow .main 0 [1] (text "i") tornCells).1 = .error (.notEncodable ⟨0, 1, 0xD800⟩) ∧
      ¬ (tornHost.connection .main 0).2.SameAnswers
        (tornHost.putRow .main 0 [1] (text "i") tornCells).2 := by
  have hkept : ∀ step ∈ tornOpening, step.Keeps := by
    simp [tornOpening, Step.Keeps]
  have hfail : (tornHost.putRow .main 0 [1] (text "i") tornCells).1 =
      .error (.notEncodable ⟨0, 1, 0xD800⟩) := rfl
  refine ⟨hfail, ?_⟩
  intro hsame
  have hharmless := (failed_put_unnoticed_iff begins_empty tornOpening hkept .main 0 [1] (text "i")
    tornCells hfail).1 hsame 0 .empty rfl rfl
  rcases hharmless.quiet with hprivate | ⟨-, hunderway⟩ | hwriting
  · exact absurd hprivate (by decide)
  · exact hunderway rfl
  · exact absurd hwriting (by decide)

/-- The worker's next write commits the first cell of the failed one, and everybody sees it. -/
theorem failed_put_is_committed :
    (tornHost.events [⟨.main, .putRow 0 [1] (text "i") tornCells⟩,
        ⟨.main, .putRow 0 [2] (text "i") [(text "quota", [9])]⟩, ⟨.requests, .openScanner 0 {}⟩,
        ⟨.requests, .iterate 0⟩, ⟨.requests, .pull 0⟩]).map Event.answer =
      [.failed (.notEncodable ⟨0, 1, 0xD800⟩), .done, .number 0, .number 0,
        .row ⟨[1], [(text "i", [(text "quota", [7])])]⟩] := by decide

end HourlyUsage.Host
