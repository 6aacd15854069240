import HourlyUsage.Proofs.Database.Growth
import HourlyUsage.Proofs.Store.Pulls
/-!
# Every step keeps the cells

What was said of the small operations of the engine holds of every step of a run, whoever makes it
and whether it succeeds or not, as long as nobody removes the table.

Sources: the operations of a store and of its scanners.

Results:
* `perform_preserves`: one step.
* `sound_after`: whatever was done since the start, databases and transactions belong together.
* `later_perform`: what a scanner's connection saw it sees after the step too, unless it was closed.
-/
namespace HourlyUsage

/-- The step leaves the table as a whole in its place. -/
def Step.Keeps (step : Step) : Prop := ∀ s, step.operation ≠ .dropTable s

theorem Step.keeps_putRow {w : Worker} {s : StoreId} {key : Bytes} {family : Text}
    {cells : Cells} : Step.Keeps ⟨w, .putRow s key family cells⟩ := nofun

namespace Host

/-- A host before anything was done: databases and their files may be there, but no connection, no
store and no scanner. -/
structure Begins (h : Host) : Prop where
  files : ∀ p d, h.engine.disk.node? p = some (.database d) → d < h.engine.databases.length
  connections : h.engine.connections = []
  stores : h.stores = []
  scanners : h.scanners = []

theorem begins_empty : (ofDisk ⟨[], []⟩).Begins := by
  refine ⟨?_, rfl, rfl, rfl⟩
  intro p d hnode
  unfold Disk.node? at hnode
  split at hnode <;> cases hnode

/-- Databases and transactions belong together, and every scanner has a connection. -/
structure Sound (h : Host) : Prop where
  engine : h.engine.Sound
  scanners : ∀ sc ∈ h.scanners, sc.connection < h.engine.connections.length

theorem Begins.sound {h : Host} (hb : h.Begins) : h.Sound := by
  have hidle : ∀ c, (h.engine.connection c).transaction = .idle := by
    intro c
    rw [Engine.connection_of_ge (by rw [hb.connections]; exact Nat.zero_le c)]
  refine ⟨⟨hb.files, ?_, fun c _ => hidle c, ?_, ?_⟩, ?_⟩
  · intro c hc
    rw [hb.connections] at hc; exact absurd hc (Nat.not_lt_zero c)
  · intro c _ hw
    rw [hidle] at hw; cases hw
  · intro c
    rw [hidle]; exact True.intro
  · intro sc hsc
    rw [hb.scanners] at hsc; cases hsc

theorem connection_preserves (w : Worker) (s : StoreId) (h : Host) :
    h.engine.Preserves (h.connection w s).2.engine := by
  unfold connection
  dsimp only
  split
  · exact .refl _
  · have hconnect := Engine.preserves_connect h.engine (h.store s).path
    split
    · next heq => rw [heq] at hconnect; exact hconnect
    · next heq => rw [heq] at hconnect; exact hconnect

theorem bootstrap_preserves (w : Worker) (s : StoreId) (h : Host) :
    h.engine.Preserves (h.bootstrap w s).2.engine := by
  refine bootstrap_leaves (P := fun x => h.engine.Preserves x.engine) (.refl _)
    (fun disk e h' hmake heq => ?_) (fun disk c h' log hmake heq => ?_)
  all_goals
    have hdisk := Engine.preserves_disk (Disk.sameFiles_makeParents hmake)
    have hconn := connection_preserves w s { h with engine := { h.engine with disk } }
    rw [heq] at hconn
  · exact hdisk.trans hconn
  · exact (hdisk.trans hconn).trans (Engine.preserves_ensureTable c)

theorem putRow_preserves (w : Worker) (s : StoreId) (key : Bytes) (family : Text) (cells : Cells)
    (h : Host) : h.engine.Preserves (h.putRow w s key family cells).2.engine := by
  have hconn := connection_preserves w s h
  refine putRow_leaves (P := fun x => h.engine.Preserves x.engine) (fun e h' heq => ?_)
    (fun c h' heq => ?_)
  · rw [heq] at hconn; exact hconn
  · rw [heq] at hconn; exact hconn.trans (Engine.preserves_put h'.engine c key family cells)

theorem checkpoint_preserves (w : Worker) (s : StoreId) (h : Host) :
    h.engine.Preserves (h.checkpoint w s).engine := by
  obtain ⟨log, hcheckpoint⟩ := checkpoint_eq h w s
  rw [hcheckpoint]
  exact connection_preserves w s h

theorem close_preserves (w : Worker) (s : StoreId) (h : Host) :
    h.engine.Preserves (h.close w s).engine := by
  unfold close
  dsimp only
  split
  · exact .refl _
  · exact Engine.preserves_close _

theorem closeAll_preserves (w : Worker) (s : StoreId) (h : Host) :
    h.engine.Preserves (h.closeAll w s).engine := by
  have hall : ∀ (cs : List ConnectionId) (e : Engine), e.Preserves (cs.foldl Engine.close e) := by
    intro cs
    induction cs with
    | nil => exact fun e => .refl e
    | cons c rest ih => exact fun e => (Engine.preserves_close c).trans (ih (e.close c))
  exact hall _ _

theorem sever_preserves (w : Worker) (s : StoreId) (h : Host) :
    h.engine.Preserves (h.sever w s).2.engine := by
  have hconn := connection_preserves w s h
  unfold sever
  split
  · next heq => rw [heq] at hconn; exact hconn
  · next heq => rw [heq] at hconn; exact hconn.trans (Engine.preserves_close _)

theorem openScanner_preserves (w : Worker) (s : StoreId) (scan : Scan) (h : Host) :
    h.engine.Preserves (h.openScanner w s scan).2.engine := by
  obtain ⟨scanners, hopen⟩ := openScanner_eq h w s scan
  rw [hopen]
  exact connection_preserves w s h

theorem pull_preserves (it : IterationId) (h : Host) :
    h.engine.Preserves (h.pull it).2.engine := by
  cases hclosed : (h.scanner (h.iteration it).scanner).isClosed with
  | true =>
    rw [pull_of_closed h it hclosed]
    exact .refl _
  | false =>
    rw [pull_engine h it hclosed]
    split
    · exact Engine.preserves_afterRead _
    · exact .refl _

theorem closeScanner_preserves (i : ScannerId) (h : Host) :
    h.engine.Preserves (h.closeScanner i).2.engine := by
  obtain ⟨scanners, hclose⟩ := closeScanner_eq h i
  rw [hclose]
  exact .refl _

/-- One step of any worker, as long as it does not remove the table. -/
theorem perform_preserves (h : Host) {step : Step} (hkeeps : step.Keeps) :
    h.engine.Preserves (h.perform step).2.engine := by
  obtain ⟨w, operation⟩ := step
  cases operation with
  | newStore path => exact .refl _
  | bootstrap s => exact bootstrap_preserves w s h
  | putRow s key family cells => exact putRow_preserves w s key family cells h
  | checkpoint s => exact checkpoint_preserves w s h
  | close s => exact close_preserves w s h
  | closeAll s => exact closeAll_preserves w s h
  | newFilter => exact .refl _
  | openScanner s scan => exact openScanner_preserves w s scan h
  | iterate i => exact .refl _
  | pull it => exact pull_preserves it h
  | closeScanner i => exact closeScanner_preserves i h
  | dropTable s => exact absurd rfl (hkeeps s)
  | sever s => exact sever_preserves w s h

theorem sound_perform {h : Host} (hs : h.Sound) {step : Step} (hkeeps : step.Keeps) :
    (h.perform step).2.Sound := by
  obtain ⟨hsound, hgrows⟩ := h.perform_preserves hkeeps hs.engine
  have hold : ∀ sc ∈ h.scanners, sc.connection < (h.perform step).2.engine.connections.length :=
    fun sc hsc => Nat.lt_of_lt_of_le (hs.scanners sc hsc) hgrows.length
  refine ⟨hsound, ?_⟩
  intro sc hsc
  have hmem : ∀ i < h.scanners.length, h.scanner i ∈ h.scanners := by
    intro i hi
    rw [scanner, List.getD_eq_getElem?_getD, List.getElem?_eq_getElem hi]
    exact List.getElem_mem hi
  have hset : ∀ (i : ScannerId) (x : Scanner), sc ∈ h.scanners.set i x →
      x.connection = (h.scanner i).connection →
      sc.connection < (h.perform step).2.engine.connections.length := by
    intro i x hsc hx
    rcases Nat.lt_or_ge i h.scanners.length with hi | hi
    · rcases List.mem_or_eq_of_mem_set hsc with hsc | rfl
      · exact hold sc hsc
      · rw [hx]; exact hold _ (hmem i hi)
    · rw [List.set_eq_of_length_le hi] at hsc
      exact hold sc hsc
  cases h.perform_scans step with
  | same _ hsame => exact hold sc (hsame.scanners ▸ hsc)
  | opened s scan c _ hopen hscanners _ _ =>
    rw [hscanners] at hsc
    rcases List.mem_append.1 hsc with hsc | hsc
    · exact hold sc hsc
    · rw [List.mem_singleton.1 hsc]; exact Engine.lt_of_isOpen hopen
  | iterated i _ hafter => rw [hafter] at hsc; exact hold sc hsc
  | closed i _ hafter => rw [hafter] at hsc; exact hset i _ hsc rfl
  | pulled it _ hafter =>
    cases hclosed : (h.scanner (h.iteration it).scanner).isClosed with
    | true =>
      rw [hafter, pull_of_closed h it hclosed] at hsc
      exact hold sc hsc
    | false =>
      rw [hafter, pull_scanners h it hclosed] at hsc
      exact hset _ _ hsc rfl

/-- Whatever was done since the start, databases and transactions belong together. -/
theorem sound_after {h : Host} (hs : h.Sound) (steps : List Step)
    (hkeep : ∀ step ∈ steps, step.Keeps) : (h.after steps).Sound := by
  induction steps generalizing h with
  | nil => exact hs
  | cons step rest ih =>
    have hfirst := sound_perform hs (hkeep step (List.mem_cons_self ..))
    exact ih hfirst fun x hx => hkeep x (List.mem_cons_of_mem _ hx)

/-- What a connection saw it sees after a step too, unless it was closed. -/
theorem later_perform {h : Host} (hs : h.Sound) {step : Step} (hkeeps : step.Keeps)
    {c : ConnectionId} (hc : c < h.engine.connections.length) :
    Later (h.engine.view c) ((h.perform step).2.engine.view c) :=
  (h.perform_preserves hkeeps hs.engine).2.later hc

end Host

end HourlyUsage
