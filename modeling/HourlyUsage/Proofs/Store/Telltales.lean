import HourlyUsage.Proofs.Database.Failing
import HourlyUsage.Proofs.Store.Registry
import HourlyUsage.Proofs.Table.Ranged
/-!
# What gives a transaction away

A transaction that is left open shows in three ways. The worker himself sees the cells that it
holds. A worker who comes new to the store cannot write while it holds the write lock. And once it
has read, a write of somebody else makes it stale, so that the worker's own next write fails.

Sources: `put_row`, `open_scanner`, the iterator of a scanner.

Results:
* `first_pull`: what a worker sees first of a scan.
* `putRow_of_lock`, `lock_of_putRow`: when a write of a worker succeeds.
* `overtaken`: somebody else can always commit something, unless the worker is writing.
-/
namespace HourlyUsage

namespace Host

variable {h : Host} {w : Worker} {s : StoreId} {c : ConnectionId}

/-! ## Reading -/

/-- The steps that open a scan and start an iteration of it. -/
def look (h : Host) (w : Worker) (s : StoreId) (scan : Scan) : List Step :=
  [⟨w, .openScanner s scan⟩, ⟨w, .iterate h.scanners.length⟩]

def firstAnswer (scan : Scan) (t : Table) : Answer :=
  match scan.window t none with
  | [] => .ended
  | row :: _ => .row row

theorem after_look (hcurrent : (h.store s).current? w = some c)
    (hopen : (h.engine.connection c).isOpen = true) (scan : Scan) :
    h.after (h.look w s scan) = { h with
      scanners := h.scanners ++ [{ connection := c, scan }]
      iterations := h.iterations ++ [{ scanner := h.scanners.length }] } := by
  simp [look, after, perform, openScanner, connection_of_current hcurrent, hopen, iterate]

/-- A worker sees the first row of what the connection sees, and has read it then. -/
theorem first_pull (hcurrent : (h.store s).current? w = some c) {scan : Scan}
    (hvalid : scan.Valid) (hplain : scan.filter = none) {t : Table} (hfits : scan.Fits t)
    (hview : h.engine.view c = .ok t) :
    ((h.after (h.look w s scan)).perform ⟨w, .pull h.iterations.length⟩).1 = firstAnswer scan t ∧
      ((h.after (h.look w s scan)).perform ⟨w, .pull h.iterations.length⟩).2.engine =
        h.engine.afterRead c ∧
      ((h.after (h.look w s scan)).perform ⟨w, .pull h.iterations.length⟩).2.stores =
        h.stores := by
  have hafter := after_look hcurrent (Engine.view_eq_ok_iff.1 hview).1 scan
  generalize h.after (h.look w s scan) = g at hafter ⊢
  have hit : g.iteration h.iterations.length = { scanner := h.scanners.length } := by
    simp [hafter, iteration]
  have hscanner : g.scanner h.scanners.length = { connection := c, scan } := by
    simp [hafter, scanner]
  have hengine : g.engine = h.engine := by rw [hafter]
  have hopen : (g.scanner (g.iteration h.iterations.length).scanner).isClosed = false := by
    rw [hit, hscanner]
  have hpull : g.scanPull h.iterations.length = scan.pull (.ok t) ⟨.fresh, g.spent, {}⟩ := by
    unfold scanPull
    dsimp only
    rw [hit, hscanner, hengine, hview]
    exact pull_of_fits hvalid hfits (c := ⟨.fresh, g.spent, {}⟩) trivial
  have hresult := Scan.pull_cases hvalid.positive (.inl hplain) (.ok t : View StoreError)
    (c := ⟨.fresh, g.spent, {}⟩) (by simp [Scan.Fresh, hplain]) True.intro
  have hanswer := g.pull_answer h.iterations.length hopen
  have hengine' := g.pull_engine h.iterations.length hopen
  have hstores : (g.pull h.iterations.length).2.stores = h.stores := by
    have hold : g.stores = h.stores := by rw [hafter]
    rw [← hold]
    unfold pull
    dsimp only
    split <;> rfl
  rw [hpull] at hanswer hengine'
  rw [hit, hscanner, hengine] at hengine'
  change Answer.ofPull (g.pull h.iterations.length).1 = _ ∧
    (g.pull h.iterations.length).2.engine = _ ∧ (g.pull h.iterations.length).2.stores = _
  rw [hanswer, hengine', hstores]
  generalize scan.pull (.ok t) ⟨.fresh, g.spent, {}⟩ = r at hresult ⊢
  cases hresult with
  | held row rest last more hp => cases hp
  | past hp => cases hp
  | through last hp => cases hp
  | failed last? _ e hfailed => cases hfailed
  | empty last? hwants t' ht' hwindow =>
    cases hwants
    cases ht'
    exact ⟨by rw [firstAnswer, hwindow]; rfl, if_pos (by simp [hasRead, Metrics.fetched]), rfl⟩
  | fetched last? hwants t' ht' row rest last more hbatch =>
    cases hwants
    cases ht'
    exact ⟨by rw [firstAnswer, hbatch.window]; rfl,
      if_pos (by simp [hasRead, Metrics.fetched, Metrics.record]), rfl⟩

def cellScan (key : Bytes) (family q : Text) : Scan where
  start := key
  columns := [(family, q)]

/-- Two tables whose scans for a cell begin alike agree in that cell, if it is there. -/
theorem cell?_of_firstAnswer {t t' : Table} {key : Bytes} {family q : Text} {v : Bytes}
    (hcell : t'.cell? key family q = some v)
    (hsame : firstAnswer (cellScan key family q) t = firstAnswer (cellScan key family q) t') :
    t.cell? key family q = some v := by
  have hrequested : Table.isRequested [(family, q)] family q = true := by simp [Table.isRequested]
  obtain ⟨row, hrow, hkey⟩ := (t'.exists_row_iff [(family, q)] key).2
    ⟨family, q, v, hrequested, hcell⟩
  have hmem : row ∈ (cellScan key family q).window t' none := by
    refine List.mem_filter.2 ⟨hrow, (Scan.inRange_none_iff _ _).2 ⟨?_, nofun⟩⟩
    rw [hkey]
    exact List.lt_irrefl key
  -- The first row in the window of the second table is the row of the cell.
  cases hwindow : (cellScan key family q).window t' none with
  | nil => rw [hwindow] at hmem; cases hmem
  | cons first rest =>
    have hasc := (cellScan key family q).window_ascending t' none
    rw [hwindow] at hasc hmem
    have hfirst : first ∈ (cellScan key family q).window t' none := by
      rw [hwindow]; exact List.mem_cons_self ..
    have hstart := ((Scan.inRange_none_iff _ _).1 (List.mem_filter.1 hfirst).2).1
    obtain rfl : row = first := by
      rcases List.mem_cons.1 hmem with rfl | hlater
      · rfl
      · exact absurd (hkey ▸ (List.pairwise_cons.1 hasc).1 row hlater) hstart
    rw [firstAnswer, firstAnswer, hwindow] at hsame
    split at hsame
    · cases hsame
    · next row' rest' hwindow' =>
      obtain rfl := Answer.row.inj hsame
      have hrow' : row' ∈ t.rows [(family, q)] := by
        have hin : row' ∈ (cellScan key family q).window t none := by
          rw [hwindow']; exact List.mem_cons_self ..
        exact (List.mem_filter.1 hin).1
      have hcells := Table.cell?_of_mem_rows hrow' family q
      rw [Table.cell?_of_mem_rows hrow family q, if_pos hrequested, if_pos hrequested, hkey,
        hcell] at hcells
      exact hcells.symm

/-! ## Writing -/

/-- Cells for a write that nothing is the matter with. -/
def mark : Cells := [([], [])]

theorem mark_ne_nil : mark ≠ [] := List.cons_ne_nil _ _

theorem accepted_mark : Engine.accepted [] mark = mark := by decide

theorem putRow_of_lock {g : Host} {z : Worker} {n : ConnectionId}
    (hconnection : h.connection z s = (.ok n, g)) {t : Table} (hview : g.engine.view n = .ok t)
    {base : Option Table} (hlock : g.engine.lock n = .ok base) :
    h.perform ⟨z, .putRow s [] [] mark⟩ =
      (.done, { g with engine := g.engine.committed n (some (t.putAll [] [] mark)) }) := by
  have hput := Engine.put_of_lock hview (Engine.lt_of_view hview) hlock [] mark_ne_nil accepted_mark
  simp [perform, putRow, hconnection, hput, Answer.ofUnit]

theorem lock_of_putRow {g : Host} {z : Worker} {n : ConnectionId}
    (hconnection : h.connection z s = (.ok n, g))
    (hdone : (h.perform ⟨z, .putRow s [] [] mark⟩).1 = .done) :
    ∃ base, g.engine.lock n = .ok base := by
  have hfailed : ∀ f, (g.engine.put n [] [] mark).1 = .error (.fault f) → False := by
    intro f hput
    simp only [perform, putRow, hconnection] at hdone
    generalize g.engine.put n [] [] mark = r at hput hdone
    obtain ⟨outcome, e⟩ := r
    obtain rfl : outcome = .error (.fault f) := hput
    cases hdone
  cases hview : g.engine.view n with
  | error f => exact (hfailed f (by rw [Engine.put_unseen hview])).elim
  | ok t =>
    cases hlock : g.engine.lock n with
    | error f =>
      exact (hfailed f (Engine.put_of_unlocked hview (Engine.lt_of_view hview) hlock []
        mark_ne_nil accepted_mark)).elim
    | ok base => exact ⟨base, rfl⟩

/-- There is always a worker who has not used the store: one with a longer name. -/
theorem exists_stranger (store : Store) : ∃ z, store.current? z = none := by
  have hlong : ∀ slots : List (Worker × Slot), ∃ n, ∀ name : Text, n ≤ name.length →
      Assoc.get? (.named name) slots = none := by
    intro slots
    induction slots with
    | nil => exact ⟨0, fun _ _ => rfl⟩
    | cons e rest ih =>
      obtain ⟨n, hn⟩ := ih
      obtain ⟨known, slot⟩ := e
      cases known with
      | named old =>
        refine ⟨max n (old.length + 1), ?_⟩
        intro name hname
        have hne : Worker.named old ≠ .named name := by
          intro heq
          rw [Worker.named.inj heq] at hname
          omega
        rw [Assoc.get?, if_neg hne]
        exact hn name (by omega)
      | main =>
        exact ⟨n, fun name hname => by
          rw [Assoc.get?, if_neg Worker.noConfusion]; exact hn name hname⟩
      | requests =>
        exact ⟨n, fun name hname => by
          rw [Assoc.get?, if_neg Worker.noConfusion]; exact hn name hname⟩
  obtain ⟨n, hn⟩ := hlong store.slots
  refine ⟨.named (List.replicate n 0), ?_⟩
  rw [Store.current?, Store.slot, hn _ (by simp)]
  rfl

/-- Somebody else has committed something to the database of the connection, and nobody else is
writing. -/
structure Overtaken (h h' : Host) (w : Worker) (s : StoreId) (c : ConnectionId) : Prop where
  current : (h'.store s).current? w = some c
  self : h'.engine.connection c = h.engine.connection c
  newer : ∃ t, h'.engine.databaseOf c = ⟨some t, (h.engine.databaseOf c).version + 1⟩
  free : ∀ x < h'.engine.connections.length, x ≠ c →
    (h'.engine.connection x).database = (h'.engine.connection c).database →
    (h'.engine.connection x).transaction.isWriting = false

theorem overtaken_of_commit {g : Host} {z : Worker} {s' : StoreId} {n : ConnectionId}
    (hconnection : h.connection z s' = (.ok n, g)) {t : Table} (hview : g.engine.view n = .ok t)
    {base : Option Table} (hlock : g.engine.lock n = .ok base) (hne : c ≠ n)
    (hd : (g.engine.connection n).database = (g.engine.connection c).database)
    (hin : (g.engine.connection c).database < g.engine.databases.length)
    (hcurrent : (g.store s).current? w = some c)
    (hself : g.engine.connection c = h.engine.connection c)
    (hversion : (g.engine.databaseOf c).version = (h.engine.databaseOf c).version)
    (hothers : ∀ x < g.engine.connections.length, x ≠ c → x ≠ n →
      (g.engine.connection x).database = (g.engine.connection c).database →
      (g.engine.connection x).transaction.isWriting = false) :
    Overtaken h (h.perform ⟨z, .putRow s' [] [] mark⟩).2 w s c := by
  have hcommits := Engine.commitsAt (Engine.lt_of_view hview) (hd ▸ hin)
    (some (t.putAll [] [] mark))
  rw [putRow_of_lock hconnection hview hlock]
  generalize g.engine.committed n (some (t.putAll [] [] mark)) = after at hcommits ⊢
  have hold := hcommits.others c hne
  have hstate := hcommits.here c hd.symm
  rw [hversion] at hstate
  refine ⟨hcurrent, hold.trans hself, ⟨_, hstate⟩, ?_⟩
  intro x hx hxc hxd
  dsimp only at hx hxd ⊢
  by_cases hxn : x = n
  · rw [hxn, hcommits.self]
    rfl
  · rw [hcommits.others x hxn, hold] at hxd
    rw [hcommits.others x hxn]
    exact hothers x (hcommits.length ▸ hx) hxc hxn hxd

section

variable {g : Host} {tr : Transaction} {t : Table}

theorem overtaken_by_writer (hs : h.engine.Sound) (hcurrent : (g.store s).current? w = some c)
    (hc : c < h.engine.connections.length) (hengine : g.engine = h.engine.setTransaction c tr)
    (hcells : (h.engine.databaseOf c).cells = some t) {x : ConnectionId} (hne : x ≠ c)
    (hd : (h.engine.connection x).database = (h.engine.connection c).database)
    (hw : (h.engine.connection x).transaction.isWriting = true) {w' : Worker} {s' : StoreId}
    (hcurrent' : (g.store s').current? w' = some x) :
    Overtaken g (g.perform ⟨w', .putRow s' [] [] mark⟩).2 w s c := by
  have hdiffers : h.engine.DiffersAt g.engine c := hengine ▸ Engine.differsAt_setTransaction hc tr
  have hold := hdiffers.others x hne
  have hopen : (h.engine.connection x).isOpen = true :=
    hs.isOpen fun hidle => by rw [hidle] at hw; cases hw
  have hfits := hs.fits x
  rw [Engine.databaseOf, hd] at hfits
  cases htr : (h.engine.connection x).transaction with
  | writing work =>
    rw [htr] at hfits
    obtain ⟨t', rfl, -⟩ := hfits t hcells
    have hview : g.engine.view x = .ok t' := by
      rw [hdiffers.view hne, Engine.view_eq_ok_iff, htr]
      exact ⟨hopen, rfl⟩
    have hlock : g.engine.lock x = .ok (some t') :=
      Engine.lock_of_writing (by rw [hold]; exact htr)
    refine overtaken_of_commit (connection_of_current hcurrent') hview hlock (Ne.symm hne) ?_ ?_
      hcurrent rfl rfl ?_
    · rw [hold, hdiffers.database, hd]
    · rw [hdiffers.database, hdiffers.databases]; exact hs.databases c hc
    · intro y hy hyc hyx hyd
      rw [hdiffers.others y hyc, hdiffers.database] at hyd
      rw [hdiffers.others y hyc, Bool.eq_false_iff]
      exact fun hwy => hyx (hs.alone y x hwy hw (hyd.trans hd.symm))
  | _ => rw [htr] at hw; cases hw

/-- Where nobody is writing, a worker who is new to the store can commit something. -/
theorem overtaken_by_stranger (hcurrent : (g.store s).current? w = some c)
    (hc : c < g.engine.connections.length)
    (hin : (g.engine.connection c).database < g.engine.databases.length)
    (hfinds : g.Finds s (g.engine.connection c).database)
    (hcells : (g.engine.databaseOf c).cells = some t)
    (hquiet : ∀ x < g.engine.connections.length,
      (g.engine.connection x).database = (g.engine.connection c).database →
      (g.engine.connection x).transaction.isWriting = false)
    {z : Worker} (hz : (g.store s).current? z = none) :
    Overtaken g (g.perform ⟨z, .putRow s [] [] mark⟩).2 w s c := by
  obtain ⟨base, hlock⟩ := (Engine.lock_addConnection_iff g.engine _).2 hquiet
  have hnew := g.engine.connection_addConnection_self (g.engine.connection c).database
  have hold := fun {x} hx => Engine.connection_addConnection_of_lt (e := g.engine) (c := x) hx
    (g.engine.connection c).database
  refine overtaken_of_commit (connection_of_finds hz hfinds) (Engine.view_addConnection hcells)
    hlock (Nat.ne_of_lt hc) ?_ ?_ (current?_adopted_of_current hz hcurrent) (hold hc) ?_ ?_
  · rw [engine_adopted, hnew, hold hc]
  · rw [engine_adopted, hold hc]; exact hin
  · rw [engine_adopted, Engine.databaseOf, hold hc]; rfl
  · intro x hx _ hxn hxd
    rw [engine_adopted] at hx hxd ⊢
    rw [Engine.length_addConnection] at hx
    have hlt : x < g.engine.connections.length := Nat.lt_of_le_of_ne (Nat.le_of_lt_succ hx) hxn
    rw [hold hlt, hold hc] at hxd
    rw [hold hlt]
    exact hquiet x hlt hxd

/-- Somebody else can always commit something: the one who is writing, or a worker who is new to the
store. Who it is does not depend on what the worker's own connection has read. -/
theorem overtaken (hr : h.Registered) (hs : h.engine.Sound)
    (hcurrent : (h.store s).current? w = some c)
    (hfinds : h.Finds s (h.engine.connection c).database)
    (hcells : (h.engine.databaseOf c).cells = some t) :
    ∃ step : Step, step.Keeps ∧ ∀ (g : Host) (tr : Transaction), tr.isWriting = false →
      g.engine = h.engine.setTransaction c tr → g.stores = h.stores →
      Overtaken g (g.perform step).2 w s c := by
  have hc := hr.inRange s w c hcurrent
  have hstore : ∀ {g : Host}, g.stores = h.stores → ∀ s, g.store s = h.store s := by
    intro g hstores s
    rw [Host.store, Host.store, hstores]
  by_cases hwriter : ∃ x, x ≠ c ∧
      (h.engine.connection x).database = (h.engine.connection c).database ∧
      (h.engine.connection x).transaction.isWriting = true
  · obtain ⟨x, hne, hd, hw⟩ := hwriter
    have hopen : (h.engine.connection x).isOpen = true :=
      hs.isOpen fun hidle => by rw [hidle] at hw; cases hw
    rcases hr.owner x hopen with ⟨s', w', hcurrent'⟩ | hsecluded
    · refine ⟨⟨w', .putRow s' [] [] mark⟩, Step.keeps_putRow, ?_⟩
      intro g tr _ hengine hstores
      refine overtaken_by_writer hs ?_ hc hengine hcells hne hd hw ?_
      · rw [hstore hstores]; exact hcurrent
      · rw [hstore hstores]; exact hcurrent'
    · exact absurd (hsecluded.alone c hc hd.symm).symm hne
  · obtain ⟨z, hz⟩ := exists_stranger (h.store s)
    refine ⟨⟨z, .putRow s [] [] mark⟩, Step.keeps_putRow, ?_⟩
    intro g tr hquiet hengine hstores
    have hdiffers : h.engine.DiffersAt g.engine c :=
      hengine ▸ Engine.differsAt_setTransaction hc tr
    have hself : g.engine.connection c = { h.engine.connection c with transaction := tr } := by
      rw [hengine, Engine.connection_setTransaction hc]
    refine overtaken_by_stranger (t := t) ?_ ?_ ?_ ?_ ?_ ?_ ?_
    · rw [hstore hstores]; exact hcurrent
    · rw [hdiffers.length]; exact hc
    · rw [hdiffers.database, hdiffers.databases]; exact hs.databases c hc
    · rw [Finds, hstore hstores, hdiffers.disk, hdiffers.database]; exact hfinds
    · rw [hdiffers.databaseOf]; exact hcells
    · intro x hx hd
      by_cases hxc : x = c
      · rw [hxc, hself]; exact hquiet
      · rw [hdiffers.others x hxc, hdiffers.database] at hd
        rw [hdiffers.others x hxc, Bool.eq_false_iff]
        exact fun hw => hwriter ⟨x, hxc, hd, hw⟩
    · rw [hstore hstores]; exact hz

end

theorem Overtaken.writes {g : Host} (ho : Overtaken h g w s c)
    (hidle : (h.engine.connection c).transaction = .idle)
    (hopen : (h.engine.connection c).isOpen = true) :
    (g.perform ⟨w, .putRow s [] [] mark⟩).1 = .done := by
  obtain ⟨t, ht⟩ := ho.newer
  have hview : g.engine.view c = .ok t := by
    rw [Engine.view_eq_ok_iff, ho.self, hidle, ht]
    exact ⟨hopen, rfl⟩
  have hbase : (g.engine.connection c).transaction.base? (g.engine.databaseOf c) =
      some (g.engine.databaseOf c).cells := by
    rw [ho.self, hidle]; rfl
  have hlock := Engine.lock_of_free ho.free hbase
  rw [putRow_of_lock (connection_of_current ho.current) hview hlock]

theorem Overtaken.fails {g : Host} (ho : Overtaken h g w s c) {t : Table}
    (hreading : (h.engine.connection c).transaction =
      .reading t (h.engine.databaseOf c).version) :
    (g.perform ⟨w, .putRow s [] [] mark⟩).1 ≠ .done := by
  intro hdone
  obtain ⟨base, hlock⟩ := lock_of_putRow (connection_of_current ho.current) hdone
  obtain ⟨t', ht'⟩ := ho.newer
  have hbase := Engine.base_of_lock hlock
  rw [ho.self, hreading, ht', Transaction.base?, if_neg (Nat.ne_of_lt (Nat.lt_succ_self _))]
    at hbase
  cases hbase

end Host

end HourlyUsage
