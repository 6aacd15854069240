import HourlyUsage.Proofs.Store.Files
/-!
# Opening a store of a file that is there

Whoever opens a store with a path to the file of a table gets one, and sees that table in it.

Sources: `open`, `bootstrap`.

Results:
* `sees_openStore`: a store that is opened on a file shows the table of the file.
-/
namespace HourlyUsage.Host

/-- A path text leads to the file at a place; as far as they are missing, the directories on the way
can be made. -/
structure Reaches (h : Host) (file : Text) (p : Path) : Prop where
  shared : Engine.isPrivate file = false
  place : Path.resolve h.engine.disk.workingDirectory file = p
  parents : ∃ disk, h.engine.disk.makeParents file = .ok disk

section

variable {h : Host} {file : Text} {p : Path} {s : StoreId} {t : Table}

theorem Steady.withLog (hst : h.Steady) (log : List Log.Entry) : Steady { h with log } where
  quiet := hst.quiet.congr rfl rfl
  registered := hst.registered.congr rfl rfl
  sound := ⟨hst.sound.engine, hst.sound.scanners⟩

theorem path_addStore (h : Host) (file : Text) :
    ((h.addStore file).2.store (h.addStore file).1).path = file := by
  rw [store_addStore]
  exact congrArg Store.path (if_pos rfl)

theorem fileAt_addStore (ht : h.engine.fileTable? p = some t) (hreaches : h.Reaches file p) :
    (h.addStore file).2.FileAt (h.addStore file).1 p := by
  obtain ⟨d, hd, -⟩ := Option.bind_eq_some_iff.1 ht
  refine ⟨d, hd, ?_, ?_⟩
  · rw [path_addStore]
    exact hreaches.shared
  · rw [path_addStore]
    exact hreaches.place ▸ Engine.databaseAt?_eq_some_iff.1 hd

/-- The table of a store of a file that is there can be made, or is there already. -/
theorem bootstrap_of_fileAt (hst : h.Steady) (hfile : h.FileAt s p) {disk : Disk}
    (hmake : h.engine.disk.makeParents (h.store s).path = .ok disk) (w : Worker) :
    (h.bootstrap w s).1 = .ok () := by
  have hfiles := Disk.sameFiles_makeParents hmake
  have hmade : Host.FileAt { h with engine := { h.engine with disk } } s p :=
    (lasts_of_sameFiles hfiles).fileAt hfile
  obtain ⟨c, h', hconnection, hc, -⟩ := connects_of_fileAt (steady_withDisk hst hfiles) hmade w
  obtain ⟨e, hengine, -⟩ := Engine.ensureTable_of_open hc.quiet.idle hc.sound hc.isOpen
  rw [bootstrap]
  dsimp only
  rw [hmake]
  dsimp only
  rw [hconnection]
  dsimp only
  rw [hengine]

theorem fileTable?_bootstrap (hst : h.Steady) (ht : h.engine.fileTable? p = some t) (w : Worker)
    (s : StoreId) : (h.bootstrap w s).2.engine.fileTable? p = some t := by
  cases effect_bootstrap (p := p) hst (w := w) (s := s) rfl with
  | put _ _ _ _ hputs =>
    obtain ⟨_, hop, -⟩ := hputs
    cases hop
  | opened _ after =>
    dsimp only at after
    rw [ht] at after
    exact after
  | same _ _ after => exact after.trans ht

/-- A store that is opened on a file shows the table of the file. -/
theorem sees_openStore (hst : h.Steady) (ht : h.engine.fileTable? p = some t)
    (hreaches : h.Reaches file p) (w : Worker) :
    ∃ s opened, h.openStore w file = (.ok s, opened) ∧ opened.Sees w s t := by
  have hnew : Step.Plain ⟨w, .newStore file⟩ := ⟨nofun, nofun, nofun, nofun⟩
  have hboot : Step.Plain ⟨w, .bootstrap (h.addStore file).1⟩ := ⟨nofun, nofun, nofun, nofun⟩
  have hadded : (h.addStore file).2.Steady := steady_perform hst hnew
  have hfile := fileAt_addStore ht hreaches
  obtain ⟨disk, hmake⟩ := hreaches.parents
  have hdone := bootstrap_of_fileAt hadded hfile ((h.path_addStore file).symm ▸ hmake) w
  have hsteady : ((h.addStore file).2.bootstrap w (h.addStore file).1).2.Steady :=
    steady_perform hadded hboot
  refine ⟨_, ((h.addStore file).2.bootstrap w (h.addStore file).1).2, ?_,
    sees_of_fileTable hsteady ((lasts_bootstrap w _ _).fileAt hfile)
      (fileTable?_bootstrap hadded ht w _) w⟩
  have hbootstrap : (h.addStore file).2.bootstrap w (h.addStore file).1 =
      (.ok (), ((h.addStore file).2.bootstrap w (h.addStore file).1).2) := Prod.ext hdone rfl
  rw [openStore]
  dsimp only
  rw [hbootstrap]

end

end HourlyUsage.Host
