import HourlyUsage.Proofs.Store.Quiet
import HourlyUsage.Proofs.Store.Reading
/-!
# What becomes of the table in a file

Any number of stores can be opened on one file, and any number of workers use them. `Effect` says
what one step does to the table in a file: a write through a store of the file is taken on, the
opening of such a store makes the table if there is none, and every other step leaves it alone.

Sources: `bootstrap`, `put_row`, `get_connection`, `close`, `close_all`, `checkpoint_wal`.

Results:
* `lasts_perform`: a store of a file stays one.
* `connects`: a worker without a connection gets one to the database in the file of the store.
* `effect_perform`: the effect of one step of any worker.
* `sees_of_fileTable`: all workers of all stores of a file see its table.
-/
namespace HourlyUsage.Host

/-- What holds between the steps of a run in which nothing is interrupted. -/
structure Steady (h : Host) : Prop where
  quiet : h.Quiet
  registered : h.Registered
  sound : h.Sound

theorem Begins.steady {h : Host} (hb : h.Begins) : h.Steady := ⟨hb.quiet, hb.registered, hb.sound⟩

theorem steady_perform {h : Host} (hst : h.Steady) {step : Step} (hplain : step.Plain) :
    (h.perform step).2.Steady where
  quiet := quiet_perform hst.quiet hst.registered hst.sound hplain
  registered := registered_perform hst.registered hst.sound hplain.keeps
  sound := sound_perform hst.sound hplain.keeps

/-! ## The file of a store -/

instance decidableFinds (h : Host) (s : StoreId) (d : DatabaseId) : Decidable (h.Finds s d) :=
  inferInstanceAs (Decidable (_ ∧ _))

/-- The file of the store is the one at the place. -/
def FileAt (h : Host) (s : StoreId) (p : Path) : Prop := ∃ d ∈ h.engine.databaseAt? p, h.Finds s d

instance decidableFileAt (h : Host) (s : StoreId) (p : Path) : Decidable (h.FileAt s p) :=
  inferInstanceAs (Decidable (∃ d ∈ _, _))

section

variable {h h' : Host} {s : StoreId} {p : Path} {d : DatabaseId}

theorem fileAt_congr (hdisk : h'.engine.disk = h.engine.disk) (hstores : h'.stores = h.stores) :
    h'.FileAt s p ↔ h.FileAt s p := by
  have hstore : h'.store s = h.store s := by rw [Host.store, Host.store, hstores]
  simp only [FileAt, Finds, Engine.databaseAt?, hdisk, hstore]

/-- A store that is at home in a database has exactly the files of this database. -/
theorem fileAt_iff_of_home
    (hhome : Engine.isPrivate (h.store s).path = false → h.engine.disk.node?
      (Path.resolve h.engine.disk.workingDirectory (h.store s).path) = some (.database d))
    (hsecluded : Engine.isPrivate (h.store s).path = true →
      ∀ q, h.engine.disk.node? q ≠ some (.database d)) :
    h.FileAt s p ↔ h.engine.databaseAt? p = some d := by
  constructor
  · rintro ⟨n, hn, hshared, hnode⟩
    rw [hhome hshared] at hnode
    obtain rfl : d = n := Node.database.inj (Option.some.inj hnode)
    exact hn
  · intro hp
    cases hprivate : Engine.isPrivate (h.store s).path with
    | true => exact absurd (Engine.databaseAt?_eq_some_iff.1 hp) (hsecluded hprivate p)
    | false => exact ⟨d, hp, hprivate, hhome hprivate⟩

end

/-! ## Files stay -/

/-- The database files that were there are still there, and the stores of files still stand for
them. -/
structure Lasts (h h' : Host) : Prop where
  workingDirectory : h'.engine.disk.workingDirectory = h.engine.disk.workingDirectory
  databases : ∀ p d, h.engine.disk.node? p = some (.database d) →
    h'.engine.disk.node? p = some (.database d)
  path : ∀ s, Engine.isPrivate (h.store s).path = false → (h'.store s).path = (h.store s).path

section

variable {h h' : Host}

theorem Lasts.refl (h : Host) : h.Lasts h := ⟨rfl, fun _ _ hnode => hnode, fun _ _ => rfl⟩

theorem Lasts.trans {h'' : Host} (hlasts : h.Lasts h') (hlasts' : h'.Lasts h'') : h.Lasts h'' where
  workingDirectory := hlasts'.workingDirectory.trans hlasts.workingDirectory
  databases p d hnode := hlasts'.databases p d (hlasts.databases p d hnode)
  path s hshared := by
    have hpath := hlasts.path s hshared
    rw [← hpath] at hshared
    exact (hlasts'.path s hshared).trans hpath

theorem Lasts.fileAt {s : StoreId} {p : Path} (hlasts : h.Lasts h') (hfile : h.FileAt s p) :
    h'.FileAt s p := by
  obtain ⟨d, hd, hshared, hnode⟩ := hfile
  refine ⟨d, Engine.databaseAt?_eq_some_iff.2
    (hlasts.databases p d (Engine.databaseAt?_eq_some_iff.1 hd)), ?_⟩
  rw [Finds, hlasts.path s hshared, hlasts.workingDirectory]
  exact ⟨hshared, hlasts.databases _ d hnode⟩

theorem lasts_of_eq (hdisk : h'.engine.disk = h.engine.disk) (hstores : h'.stores = h.stores) :
    h.Lasts h' := by
  refine ⟨by rw [hdisk], fun _ _ hnode => hdisk ▸ hnode, fun s _ => ?_⟩
  rw [Host.store, Host.store, hstores]

theorem lasts_of_sameFiles {e : Engine} (hfiles : h.engine.disk.SameFiles e.disk) :
    h.Lasts { h with engine := e } :=
  ⟨hfiles.workingDirectory, fun p d => (hfiles.databases p d).2, fun _ _ => rfl⟩

theorem lasts_setStore (h : Host) (s : StoreId) (store : Store)
    (hpath : store.path = (h.store s).path) : h.Lasts (h.setStore s store) := by
  refine ⟨rfl, fun _ _ hnode => hnode, fun s' _ => ?_⟩
  rw [store_setStore]
  split
  · next hs => rw [hpath, hs.1]
  · rfl

theorem lasts_addStore (h : Host) (path : Text) : h.Lasts (h.addStore path).2 := by
  refine ⟨rfl, fun _ _ hnode => hnode, fun s hshared => ?_⟩
  rw [store_addStore, if_neg]
  rintro rfl
  rw [store_of_ge (Nat.le_refl _)] at hshared
  cases hshared

theorem lasts_connection (w : Worker) (s : StoreId) (h : Host) :
    h.Lasts (h.connection w s).2 := by
  unfold connection
  dsimp only
  split
  · exact .refl h
  · have hcases := Engine.connect_cases h.engine (h.store s).path
    generalize h.engine.connect (h.store s).path = result at hcases
    obtain ⟨outcome, engine⟩ := result
    cases hcases with
    | refused f => exact .refl h
    | joined d _ _ => exact ⟨rfl, fun _ _ hnode => hnode, fun s' _ => path_adopted h w s s' _ _⟩
    | made disk hdisk =>
      refine ⟨?_, ?_, fun s' _ => path_adopted h w s s' _ _⟩
      · rcases hdisk with ⟨-, rfl⟩ | ⟨-, -, rfl⟩ <;> rfl
      · intro p d hnode
        rcases hdisk with ⟨-, rfl⟩ | ⟨-, hfree, rfl⟩
        · exact hnode
        · have hne : Path.resolve h.engine.disk.workingDirectory (h.store s).path ≠ p := by
            rintro rfl
            rw [hfree] at hnode
            cases hnode
          exact (Disk.node?_set_of_ne h.engine.disk hne _).trans hnode

theorem lasts_bootstrap (w : Worker) (s : StoreId) (h : Host) : h.Lasts (h.bootstrap w s).2 := by
  refine bootstrap_leaves (.refl h) (fun disk e h' hmake heq => ?_)
    (fun disk c h' log hmake heq => ?_)
  all_goals
    have hdisk : h.Lasts { h with engine := { h.engine with disk } } :=
      lasts_of_sameFiles (Disk.sameFiles_makeParents hmake)
    have hconn := hdisk.trans (lasts_connection w s _)
    rw [heq] at hconn
  · exact hconn
  · have htable := lasts_of_sameFiles (Engine.same_ensureTable h'.engine c).disk
    exact (hconn.trans htable).trans (lasts_of_eq rfl rfl)

theorem lasts_putRow (w : Worker) (s : StoreId) (key : Bytes) (family : Text) (cells : Cells)
    (h : Host) : h.Lasts (h.putRow w s key family cells).2 := by
  have hconn := lasts_connection w s h
  refine putRow_leaves (fun e h' heq => ?_) (fun c h' heq => ?_)
  · rw [heq] at hconn; exact hconn
  · rw [heq] at hconn
    exact hconn.trans (lasts_of_sameFiles (Engine.same_put h'.engine c key family cells).disk)

theorem lasts_checkpoint (w : Worker) (s : StoreId) (h : Host) : h.Lasts (h.checkpoint w s) := by
  obtain ⟨log, hcheckpoint⟩ := checkpoint_eq h w s
  rw [hcheckpoint]
  exact (lasts_connection w s h).trans (lasts_of_eq rfl rfl)

theorem lasts_openScanner (w : Worker) (s : StoreId) (scan : Scan) (h : Host) :
    h.Lasts (h.openScanner w s scan).2 := by
  obtain ⟨scanners, hopen⟩ := openScanner_eq h w s scan
  rw [hopen]
  exact (lasts_connection w s h).trans (lasts_of_eq rfl rfl)

theorem lasts_close (w : Worker) (s : StoreId) (h : Host) : h.Lasts (h.close w s) := by
  unfold close
  dsimp only
  split
  · exact .refl h
  · next c _ =>
    have hclosed := lasts_of_sameFiles (Engine.same_close h.engine c).disk
    exact hclosed.trans (lasts_setStore _ s ((h.store s).release w c) rfl)

theorem lasts_closeAll (w : Worker) (s : StoreId) (h : Host) : h.Lasts (h.closeAll w s) := by
  have hclosed := lasts_of_sameFiles (same_foldl_close (h.store s).connections h.engine).disk
  exact (hclosed.trans (lasts_setStore _ s ((h.store s).retire w) rfl)).trans (lasts_of_eq rfl rfl)

theorem lasts_closeScanner (i : ScannerId) (h : Host) : h.Lasts (h.closeScanner i).2 := by
  obtain ⟨scanners, hclose⟩ := closeScanner_eq h i
  rw [hclose]
  exact lasts_of_eq rfl rfl

/-- What one step of any worker preserves. -/
theorem lasts_perform (hq : h.Quiet) {step : Step} (hplain : step.Plain) :
    h.Lasts (h.perform step).2 := by
  obtain ⟨w, operation⟩ := step
  cases operation with
  | newStore path => exact lasts_addStore h path
  | bootstrap s => exact lasts_bootstrap w s h
  | putRow s key family cells => exact lasts_putRow w s key family cells h
  | checkpoint s => exact lasts_checkpoint w s h
  | close s => exact lasts_close w s h
  | closeAll s => exact lasts_closeAll w s h
  | newFilter => exact lasts_of_eq rfl rfl
  | openScanner s scan => exact lasts_openScanner w s scan h
  | iterate i => exact lasts_of_eq rfl rfl
  | pull it =>
    exact lasts_of_eq (congrArg Engine.disk (engine_pull hq it)) (stores_pull h it)
  | closeScanner i => exact lasts_closeScanner i h
  | dropTable s => exact absurd rfl (hplain.keeps s)
  | sever s => exact absurd rfl (hplain.unsevered s)

end

/-! ## Getting a connection -/

/-- What a worker has with a connection to a store. -/
structure Connects (h : Host) (s : StoreId) (c : ConnectionId) (h' : Host) : Prop where
  quiet : h'.Quiet
  sound : h'.engine.Sound
  isOpen : (h'.engine.connection c).isOpen = true
  tables : ∀ p, h'.engine.fileTable? p = h.engine.fileTable? p
  files : ∀ p, h'.FileAt s p ↔
    h'.engine.databaseAt? p = some (h'.engine.connection c).database

section

variable {h : Host}

theorem fileTable?_connection (h : Host) (w : Worker) (s : StoreId) (p : Path) :
    (h.connection w s).2.engine.fileTable? p = h.engine.fileTable? p := by
  have htable := h.engine.fileTable?_connect (h.store s).path p
  unfold connection
  dsimp only
  split
  · rfl
  · split
    · next heq => rw [heq] at htable; exact htable
    · next heq => rw [heq] at htable; exact htable

/-- A worker without a connection gets one to the database in the file of the store. -/
theorem connects (hst : h.Steady) (w : Worker) (s : StoreId) :
    (∃ x, h.connection w s = (.error x, h)) ∨
      ∃ c h', h.connection w s = (.ok c, h') ∧ h.Connects s c h' := by
  have hquiet := quiet_connection hst.quiet w s
  have hsound := (connection_preserves w s h hst.sound.engine).1
  have htables := fileTable?_connection h w s
  cases hcurrent : (h.store s).current? w with
  | some c =>
    refine .inr ⟨c, h, connection_of_current hcurrent, hst.quiet, hst.sound.engine,
      hst.quiet.isOpen s w c hcurrent, fun _ => rfl, fun p => ?_⟩
    exact fileAt_iff_of_home (hst.registered.home s w c hcurrent) fun hprivate =>
      (hst.registered.secluded s w c hcurrent hprivate).noFile
  | none =>
    have hcases := Engine.connect_cases h.engine (h.store s).path
    have hjoined : ∀ engine : Engine, h.Joins s engine →
        (engine.connection h.engine.connections.length).isOpen = true →
        h.engine.connect (h.store s).path = (.ok h.engine.connections.length, engine) →
        ∃ c h', h.connection w s = (.ok c, h') ∧ h.Connects s c h' := by
      intro engine hj hopen hconnect
      have hconnection := connection_of_connect hcurrent hconnect
      rw [hconnection] at hquiet hsound htables
      refine ⟨_, _, hconnection, hquiet, hsound, hopen, htables, fun p => ?_⟩
      apply fileAt_iff_of_home
      · rw [path_adopted, engine_adopted, hj.workingDirectory]
        exact hj.home
      · rw [path_adopted, engine_adopted]
        exact fun hprivate => (hj.fresh hprivate).noFile
    generalize hconnect : h.engine.connect (h.store s).path = result at hcases hjoined
    obtain ⟨outcome, engine⟩ := result
    cases hcases with
    | refused f =>
      refine .inl ⟨.unavailable (.connect (h.store s).path) f, ?_⟩
      rw [connection, hcurrent]
      dsimp only
      rw [hconnect]
    | joined d hshared hnode =>
      refine .inr (hjoined _ (joins_addConnection hshared hnode) ?_ rfl)
      rw [Engine.connection_addConnection_self]
    | made disk hdisk =>
      refine .inr (hjoined _ (joins_made hst.sound.engine ?_) ?_ rfl)
      · rcases hdisk with ⟨hprivate, rfl⟩ | ⟨hshared, hfree, rfl⟩
        · exact makes_of_private hst.sound.engine hprivate
        · exact makes_of_free hshared hfree
      · exact congrArg Connection.isOpen (Engine.connection_addConnection_self
          (e := { h.engine with disk, databases := h.engine.databases ++ [{}] }) _)

end

section

variable {h h' : Host} {s : StoreId} {p : Path} {c : ConnectionId} {t : Table}

theorem Connects.fileTable? (hc : h.Connects s c h') (hfile : h'.FileAt s p) :
    h.engine.fileTable? p = (h'.engine.databaseOf c).cells := by
  rw [← hc.tables, Engine.fileTable?_of_database ((hc.files p).1 hfile), Engine.databaseOf]

theorem Connects.view_eq_ok_iff (hc : h.Connects s c h') :
    h'.engine.view c = .ok t ↔ (h'.engine.databaseOf c).cells = some t := by
  rw [Engine.view_eq_ok_iff, hc.quiet.idle c]
  exact and_iff_right hc.isOpen

/-- What is done to the database of a connection is done to the file of its store. -/
theorem Connects.rewritten (hc : h.Connects s c h') {e : Engine}
    (hrewritten : h'.engine.Rewritten e (h'.engine.connection c).database (some t)) :
    e.fileTable? p = if h'.FileAt s p then some t else h.engine.fileTable? p := by
  rw [hrewritten.fileTable?, hc.tables]
  simp only [hc.files p]

theorem connects_of_fileAt (hst : h.Steady) (hfile : h.FileAt s p) (w : Worker) :
    ∃ c h', h.connection w s = (.ok c, h') ∧ h.Connects s c h' ∧ h'.FileAt s p := by
  obtain ⟨d, hd, hfinds⟩ := hfile
  have hmade : ∃ c h', h.connection w s = (.ok c, h') ∧ h'.FileAt s p := by
    cases hcurrent : (h.store s).current? w with
    | some c => exact ⟨c, h, connection_of_current hcurrent, d, hd, hfinds⟩
    | none =>
      refine ⟨_, _, connection_of_finds hcurrent hfinds, d, hd, ?_⟩
      rw [Finds, path_adopted, engine_adopted]
      exact hfinds
  obtain ⟨c, h', hconnection, hfile⟩ := hmade
  rcases connects hst w s with ⟨x, hfailed⟩ | ⟨c', h'', hmade, hc⟩
  · rw [hconnection] at hfailed
    cases hfailed
  · rw [hconnection] at hmade
    cases hmade
    exact ⟨c, h', hconnection, hc, hfile⟩

/-- All workers of all stores of a file see its table. -/
theorem sees_of_fileTable (hst : h.Steady) (hfile : h.FileAt s p)
    (ht : h.engine.fileTable? p = some t) (w : Worker) : h.Sees w s t := by
  obtain ⟨c, h', hconnection, hc, hfile'⟩ := connects_of_fileAt hst hfile w
  refine ⟨c, h', hconnection, hc.view_eq_ok_iff.2 ?_⟩
  rw [← hc.fileTable? hfile', ht]

end

/-! ## The effect of one step -/

def Event.after (e : Event) : Host := (e.before.perform e.step).2

/-- A write through a store of the file at the place was taken on. -/
def Event.Puts (p : Path) (e : Event) (key : Bytes) (family : Text) (cells : Cells) : Prop :=
  ∃ s, e.step.operation = .putRow s key family cells ∧ e.answer = .done ∧ e.after.FileAt s p

def Event.Opens (p : Path) (e : Event) : Prop :=
  ∃ s, e.step.operation = .bootstrap s ∧ e.answer = .done ∧ e.after.FileAt s p

/-- What an event does to the table in the file at a place. -/
inductive Effect (p : Path) (e : Event) : Prop where
  | put (key : Bytes) (family : Text) (cells : Cells) (t : Table)
      (hputs : e.Puts p key family cells) (before : e.before.engine.fileTable? p = some t)
      (after : e.after.engine.fileTable? p = some (t.putAll key family cells))
  | opened (hopens : e.Opens p)
      (after : e.after.engine.fileTable? p = some ((e.before.engine.fileTable? p).getD .empty))
  | same (hputs : ∀ key family cells, ¬ e.Puts p key family cells) (hopens : ¬ e.Opens p)
      (after : e.after.engine.fileTable? p = e.before.engine.fileTable? p)

section

variable {h : Host} {p : Path} {w : Worker} {s : StoreId}

theorem ofUnit_error_ne_done (x : StoreError) : Answer.ofUnit (.error x) ≠ .done := nofun

theorem effect_of_failed {e : Event} (hanswer : e.answer ≠ .done)
    (after : e.after.engine.fileTable? p = e.before.engine.fileTable? p) : Effect p e :=
  .same (fun _ _ _ ⟨_, _, hdone, _⟩ => hanswer hdone) (fun ⟨_, _, hdone, _⟩ => hanswer hdone) after

theorem effect_of_other {e : Event}
    (hput : ∀ s key family cells, e.step.operation ≠ .putRow s key family cells)
    (hopen : ∀ s, e.step.operation ≠ .bootstrap s)
    (after : e.after.engine.fileTable? p = e.before.engine.fileTable? p) : Effect p e :=
  .same (fun _ _ _ ⟨_, hop, _⟩ => hput _ _ _ _ hop) (fun ⟨_, hop, _⟩ => hopen _ hop) after

theorem effect_putRow (hst : h.Steady) {key : Bytes} {family : Text} {cells : Cells}
    (haccepted : Engine.accepted family cells = cells) {answer : Answer}
    (hanswer : answer = .ofUnit (h.putRow w s key family cells).1) :
    Effect p ⟨h, ⟨w, .putRow s key family cells⟩, answer⟩ := by
  have hafter : Event.after ⟨h, ⟨w, .putRow s key family cells⟩, answer⟩ =
      (h.putRow w s key family cells).2 := rfl
  rcases connects hst w s with ⟨x, hfailed⟩ | ⟨c, h', hconnection, hc⟩
  · have hput : h.putRow w s key family cells = (.error x, h) := by rw [putRow, hfailed]
    rw [hput] at hanswer hafter
    exact effect_of_failed (by rw [hanswer]; exact ofUnit_error_ne_done _) (by rw [hafter])
  · cases hview : h'.engine.view c with
    | error f =>
      have hput : h.putRow w s key family cells =
          (.error (.unavailable (.write (h'.store s).path) f), h') := by
        rw [putRow, hconnection]
        dsimp only
        rw [Engine.put, hview]
      rw [hput] at hanswer hafter
      exact effect_of_failed (by rw [hanswer]; exact ofUnit_error_ne_done _)
        (by rw [hafter]; exact hc.tables p)
    | ok t =>
      obtain ⟨e, hengine, hrewritten⟩ :=
        Engine.put_of_idle hc.quiet.idle hc.sound hview key haccepted
      have hput : h.putRow w s key family cells = (.ok (), { h' with engine := e }) := by
        rw [putRow, hconnection]
        dsimp only
        rw [hengine]
      rw [hput] at hanswer hafter
      have hfiles : (Event.after ⟨h, ⟨w, .putRow s key family cells⟩, answer⟩).FileAt s p ↔
          h'.FileAt s p := by
        rw [hafter]
        exact fileAt_congr hrewritten.disk rfl
      have htable := hc.rewritten (p := p) hrewritten
      by_cases hfile : h'.FileAt s p
      · rw [if_pos hfile] at htable
        refine .put key family cells t ⟨s, rfl, hanswer, hfiles.2 hfile⟩ ?_ (hafter ▸ htable)
        rw [hc.fileTable? hfile]
        exact hc.view_eq_ok_iff.1 hview
      · rw [if_neg hfile] at htable
        refine .same ?_ ?_ (hafter ▸ htable)
        · rintro _ _ _ ⟨s', hop, -, hfile'⟩
          cases hop
          exact hfile (hfiles.1 hfile')
        · rintro ⟨_, hop, -⟩
          cases hop

theorem steady_withDisk (hst : h.Steady) {disk : Disk} (hfiles : h.engine.disk.SameFiles disk) :
    Steady { h with engine := { h.engine with disk } } where
  quiet := hst.quiet.congr rfl rfl
  registered := hst.registered.engine ⟨hfiles, rfl, fun _ => rfl, fun _ hopen => hopen⟩
  sound := ⟨(Engine.preserves_disk hfiles hst.sound.engine).1, hst.sound.scanners⟩

theorem effect_bootstrap (hst : h.Steady) {answer : Answer}
    (hanswer : answer = .ofUnit (h.bootstrap w s).1) :
    Effect p ⟨h, ⟨w, .bootstrap s⟩, answer⟩ := by
  have hafter : Event.after ⟨h, ⟨w, .bootstrap s⟩, answer⟩ = (h.bootstrap w s).2 := rfl
  cases hmake : h.engine.disk.makeParents (h.store s).path with
  | error f =>
    have hboot : h.bootstrap w s =
        (.error (.unavailable (.bootstrap (h.store s).path) (.file f)), h) := by
      rw [bootstrap]
      dsimp only
      rw [hmake]
    rw [hboot] at hanswer hafter
    exact effect_of_failed (by rw [hanswer]; exact ofUnit_error_ne_done _) (by rw [hafter])
  | ok disk =>
    have hfiles := Disk.sameFiles_makeParents hmake
    have hdisk := Engine.fileTable?_of_sameFiles hfiles p
    rcases connects (steady_withDisk hst hfiles) w s with ⟨x, hfailed⟩ | ⟨c, h', hconnection, hc⟩
    · have hboot : h.bootstrap w s =
          (.error x, { h with engine := { h.engine with disk } }) := by
        rw [bootstrap]
        dsimp only
        rw [hmake]
        dsimp only
        rw [hfailed]
      rw [hboot] at hanswer hafter
      exact effect_of_failed (by rw [hanswer]; exact ofUnit_error_ne_done _)
        (by rw [hafter]; exact hdisk)
    · obtain ⟨e, hengine, hrewritten⟩ :=
        Engine.ensureTable_of_open hc.quiet.idle hc.sound hc.isOpen
      have hboot : h.bootstrap w s = (.ok (), Host.note { h' with engine := e }
          (.info (text "HDFS usage store initialized: " ++ (h.store s).path))) := by
        rw [bootstrap]
        dsimp only
        rw [hmake]
        dsimp only
        rw [hconnection]
        dsimp only
        rw [hengine]
      rw [hboot] at hanswer hafter
      have hfiles : (Event.after ⟨h, ⟨w, .bootstrap s⟩, answer⟩).FileAt s p ↔ h'.FileAt s p := by
        rw [hafter]
        exact fileAt_congr hrewritten.disk rfl
      have htable := hc.rewritten (p := p) hrewritten
      by_cases hfile : h'.FileAt s p
      · rw [if_pos hfile, ← hc.fileTable? hfile] at htable
        refine .opened ⟨s, rfl, hanswer, hfiles.2 hfile⟩ ?_
        rw [hafter]
        exact htable.trans (by rw [hdisk])
      · rw [if_neg hfile] at htable
        refine .same ?_ ?_ (hafter ▸ htable.trans hdisk)
        · rintro _ _ _ ⟨_, hop, -⟩
          cases hop
        · rintro ⟨s', hop, -, hfile'⟩
          cases hop
          exact hfile (hfiles.1 hfile')

theorem fileTable?_foldl_close (cs : List ConnectionId) (e : Engine) (p : Path) :
    (cs.foldl Engine.close e).fileTable? p = e.fileTable? p := by
  induction cs generalizing e with
  | nil => rfl
  | cons c rest ih => exact ih (e.close c)

/-- The effect of one step of any worker. -/
theorem effect_perform (hst : h.Steady) {step : Step} (hplain : step.Plain) (p : Path) :
    Effect p ⟨h, step, (h.perform step).1⟩ := by
  obtain ⟨w, operation⟩ := step
  cases operation with
  | putRow s key family cells => exact effect_putRow hst hplain.accepted rfl
  | bootstrap s => exact effect_bootstrap hst rfl
  | newStore path => exact effect_of_other nofun nofun rfl
  | checkpoint s =>
    refine effect_of_other nofun nofun ?_
    obtain ⟨log, hcheckpoint⟩ := checkpoint_eq h w s
    show (h.checkpoint w s).engine.fileTable? p = _
    rw [hcheckpoint]
    exact fileTable?_connection h w s p
  | close s =>
    refine effect_of_other nofun nofun ?_
    show (h.close w s).engine.fileTable? p = _
    unfold close
    dsimp only
    split <;> rfl
  | closeAll s =>
    exact effect_of_other nofun nofun (fileTable?_foldl_close (h.store s).connections h.engine p)
  | newFilter => exact effect_of_other nofun nofun rfl
  | openScanner s scan =>
    refine effect_of_other nofun nofun ?_
    obtain ⟨scanners, hopen⟩ := openScanner_eq h w s scan
    show (h.openScanner w s scan).2.engine.fileTable? p = _
    rw [hopen]
    exact fileTable?_connection h w s p
  | iterate i => exact effect_of_other nofun nofun rfl
  | pull it =>
    refine effect_of_other nofun nofun ?_
    show (h.pull it).2.engine.fileTable? p = _
    rw [engine_pull hst.quiet]
  | closeScanner i =>
    refine effect_of_other nofun nofun ?_
    obtain ⟨scanners, hclose⟩ := closeScanner_eq h i
    show (h.closeScanner i).2.engine.fileTable? p = _
    rw [hclose]
  | dropTable s => exact absurd rfl (hplain.keeps s)
  | sever s => exact absurd rfl (hplain.unsevered s)

end

end HourlyUsage.Host
