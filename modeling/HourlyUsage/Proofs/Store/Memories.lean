import HourlyUsage.Proofs.Store.Pulls
import HourlyUsage.Proofs.Table.Rounds
import HourlyUsage.Proofs.Table.Sharing
/-!
# What scans do to filters

A pull calls the filter of its scan, and nothing else that is done to the host touches a filter. So
the memories after a run are those after a sequence of calls, and what holds of filters under any
calls holds of them under any scans, however these share them.

Sources: `include_row` and `filter_all_remaining`, as the iterator of a scanner calls them.

Results:
* `called_pull`: a pull is some calls of its scan's filter.
* `called_after`: a run is some calls of the filters of its scanners.
* `exhausted_after`: a filter that is exhausted accepts nothing after any run.
-/
namespace HourlyUsage

open FilterCall (memory)

/-- The later memory is the earlier one after some calls of some filters. -/
def Called (filters : List RowFilter) (spent later : Spent) : Prop :=
  ∃ calls : List FilterCall, (∀ call ∈ calls, call.filter ∈ filters) ∧ later = memory spent calls

theorem Called.refl (filters : List RowFilter) (spent : Spent) : Called filters spent spent :=
  ⟨[], nofun, rfl⟩

theorem Called.trans {filters : List RowFilter} {a b c : Spent} (h : Called filters a b)
    (h' : Called filters b c) : Called filters a c := by
  obtain ⟨calls, hcalls, rfl⟩ := h
  obtain ⟨more, hmore, rfl⟩ := h'
  exact ⟨calls ++ more, List.forall_mem_append.2 ⟨hcalls, hmore⟩,
    (FilterCall.memory_append a calls more).symm⟩

theorem Called.mono {filters more : List RowFilter} {a b : Spent} (h : Called filters a b)
    (hsub : filters ⊆ more) : Called more a b := by
  obtain ⟨calls, hcalls, rfl⟩ := h
  exact ⟨calls, fun call hcall => hsub (hcalls call hcall), rfl⟩

theorem called_accepts {filters : List RowFilter} {filter : RowFilter} (hf : filter ∈ filters)
    (spent : Spent) (key : Bytes) : Called filters spent (filter.accepts spent key).2 :=
  ⟨[.asks filter key], by simpa [FilterCall.filter] using hf, rfl⟩

/-! ## Pulls -/

namespace Scan

def Walk.spent : Walk → Spent
  | .found _ _ spent => spent
  | .over spent => spent
  | .through spent => spent

theorem called_walk (filter? : Option RowFilter) (spent : Spent) (pending : List Row) :
    Called filter?.toList spent (walk filter? spent pending).spent := by
  induction pending generalizing spent with
  | nil => exact .refl _ spent
  | cons row rest ih =>
    cases filter? with
    | none => exact .refl _ spent
    | some filter =>
      have hasked := called_accepts (List.mem_singleton_self filter) spent row.key
      rw [walk]
      cases heq : filter.accepts spent row.key with
      | mk accepted later =>
        rw [heq] at hasked
        cases accepted with
        | true => exact hasked
        | false =>
          dsimp only
          split
          · exact hasked
          · exact hasked.trans (ih later)

def Round.cursor {ε : Type} : Round ε → Cursor
  | .answered _ c => c
  | .fetched _ c => c

variable {ε : Type} (scan : Scan) (view : View ε)

theorem fetch_spent (last? : Option Bytes) (c : Cursor) :
    (scan.fetch view last? c).cursor.spent = c.spent := by
  unfold fetch
  split <;> rfl

theorem called_round (c : Cursor) :
    Called scan.filter.toList c.spent (scan.round view c).cursor.spent := by
  unfold round
  split
  · exact .refl _ c.spent
  · rw [fetch_spent]
    exact .refl _ c.spent
  · next pending last more _ =>
    have hwalk := called_walk scan.filter c.spent pending
    cases hw : walk scan.filter c.spent pending with
    | found row rest later => rw [hw] at hwalk; exact hwalk
    | «over» later => rw [hw] at hwalk; exact hwalk
    | through later =>
      rw [hw] at hwalk
      dsimp only
      split
      · rw [fetch_spent]
        exact hwalk
      · exact hwalk

/-- A pull is some calls of its scan's filter. -/
theorem called_pull (c : Cursor) :
    Called scan.filter.toList c.spent (scan.pull view c).2.spent := by
  rw [pull]
  induction viewSize view.table + 3 generalizing c with
  | zero => exact .refl _ c.spent
  | succ fuel ih =>
    have hround := called_round scan view c
    rw [pullWithin_succ]
    cases hnext : scan.round view c with
    | answered answer c' => rw [hnext] at hround; exact hround
    | fetched batch c' => rw [hnext] at hround; exact hround.trans (ih c')

end Scan

/-! ## Runs -/

namespace Host

/-- The filters of the scanners that have been opened. -/
def filters (h : Host) : List RowFilter := h.scanners.filterMap fun sc => sc.scan.filter

theorem filters_congr {h h' : Host}
    (heq : h'.scanners.map Scanner.scan = h.scanners.map Scanner.scan) :
    h'.filters = h.filters := by
  have hmap : ∀ h : Host, h.filters = (h.scanners.map Scanner.scan).filterMap Scan.filter :=
    fun h => (List.filterMap_map ..).symm
  rw [hmap, hmap, heq]

theorem scans_set (h : Host) (i : ScannerId) (sc : Scanner) (hsc : sc.scan = (h.scanner i).scan) :
    (h.scanners.set i sc).map Scanner.scan = h.scanners.map Scanner.scan := by
  refine List.ext_getElem (by simp) fun j hj hj' => ?_
  simp only [List.getElem_map, List.getElem_set]
  split
  · next hij =>
    subst hij
    rw [List.length_map] at hj'
    simp [hsc, scanner, hj']
  · rfl

theorem called_pullStep (h : Host) (it : IterationId) :
    (h.pull it).2.filters = h.filters ∧ Called h.filters h.spent (h.pull it).2.spent := by
  cases hclosed : (h.scanner (h.iteration it).scanner).isClosed with
  | true =>
    rw [pull_of_closed h it hclosed]
    exact ⟨rfl, .refl _ h.spent⟩
  | false =>
    refine ⟨filters_congr ?_, ?_⟩
    · rw [pull_scanners h it hclosed]
      exact scans_set h _ _ rfl
    · rw [pull_spent h it hclosed]
      refine (Scan.called_pull _ _ ⟨_, h.spent, _⟩).mono fun filter hfilter => ?_
      -- A scanner that was never opened counts as closed, so this one is in the list.
      have hlt : (h.iteration it).scanner < h.scanners.length := by
        refine Nat.lt_of_not_le fun hge => ?_
        simp [scanner, hge] at hclosed
      have hscan : (h.scanners[(h.iteration it).scanner]).scan.filter = some filter := by
        simpa [scanner, hlt] using hfilter
      exact List.mem_filterMap.2 ⟨_, List.getElem_mem hlt, hscan⟩

theorem called_perform (h : Host) (step : Step) :
    h.filters ⊆ (h.perform step).2.filters ∧
      Called (h.perform step).2.filters h.spent (h.perform step).2.spent := by
  have hleft : ∀ {h' : Host}, h'.filters = h.filters → h'.spent = h.spent →
      h.filters ⊆ h'.filters ∧ Called h'.filters h.spent h'.spent :=
    fun hfilters hspent => ⟨fun _ hf => hfilters ▸ hf, by rw [hspent]; exact .refl _ h.spent⟩
  cases h.perform_scans step with
  | same _ hsame => exact hleft (filters_congr (congrArg _ hsame.scanners)) hsame.spent
  | opened s scan c _ _ hscanners _ hspent =>
    constructor
    · rw [filters, filters, hscanners, List.filterMap_append]
      exact List.subset_append_left ..
    · rw [hspent]
      exact .refl _ h.spent
  | iterated i _ hafter => rw [hafter]; exact hleft rfl rfl
  | closed i _ hafter =>
    rw [hafter]
    exact hleft (filters_congr (scans_set h i _ rfl)) rfl
  | pulled it _ hafter =>
    obtain ⟨hfilters, hcalled⟩ := called_pullStep h it
    rw [hafter, hfilters]
    exact ⟨fun _ hf => hf, hcalled⟩

/-- A run is some calls of the filters of its scanners. -/
theorem called_after (h : Host) (steps : List Step) :
    h.filters ⊆ (h.after steps).filters ∧
      Called (h.after steps).filters h.spent (h.after steps).spent := by
  induction steps generalizing h with
  | nil => exact ⟨fun _ hf => hf, .refl _ h.spent⟩
  | cons step rest ih =>
    obtain ⟨hsub, hcalled⟩ := called_perform h step
    obtain ⟨hsub', hcalled'⟩ := ih (h.perform step).2
    exact ⟨fun _ hf => hsub' (hsub hf), (hcalled.mono hsub').trans hcalled'⟩

/-- A filter that is exhausted accepts nothing after any run, whichever scans share it. -/
theorem exhausted_after {h : Host} {filter : RowFilter} (hover : filter.isExhausted h.spent = true)
    (steps : List Step) :
    filter.isExhausted (h.after steps).spent = true ∧
      ∀ key, (filter.accepts (h.after steps).spent key).1 = false := by
  obtain ⟨-, calls, -, hspent⟩ := called_after h steps
  rw [hspent]
  have hexhausted := FilterCall.isExhausted_memory hover calls
  exact ⟨hexhausted, RowFilter.accepts_of_exhausted hexhausted⟩

end Host

end HourlyUsage
