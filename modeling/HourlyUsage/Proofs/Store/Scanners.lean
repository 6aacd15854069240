import HourlyUsage.Proofs.Store.Pulls
/-!
# One scanner in a run

Seen from one scanner, a step of a run is either a pull on one of its iterations or leaves it
alone: it may close the scanner, start a further iteration of it, and do anything to other scanners,
but the iterations that there are stand where they stood, and the filter's memory is what it was.

Sources: `open_scanner`, the iterator of a scanner, its `close`.

Results:
* `does_perform`: whatever is done, the scanner keeps doing its scan.
* `scanner_cases`: the two things that a step can be to a scanner.
* `isPull_untouched`: a step that leaves a scanner alone pulls none of its iterations.
-/
namespace HourlyUsage

/-- Two scans have no while-match filter in common. -/
def Scan.Apart (scan other : Scan) : Prop := ∀ n ∈ scan.numbers, n ∉ other.numbers

namespace Host

/-- Whether the step of an event pulls an iteration that has been started. -/
def Event.isPull (it : IterationId) (e : Event) : Bool :=
  match e.step.operation with
  | .pull x => x = it && decide (it < e.before.iterations.length)
  | _ => false

def answersTo (it : IterationId) (events : List Event) : List Answer :=
  (events.filter (Event.isPull it)).map Event.answer

/-- A scanner that is ready for its iterations: its filter has rejected nothing and has no part in
common with that of another scanner, and no iteration of it has been pulled. -/
structure Opened (h : Host) (i : ScannerId) (scan : Scan) : Prop where
  isScanner : i < h.scanners.length
  isScan : (h.scanner i).scan = scan
  fresh : scan.Fresh h.spent
  apart : ∀ j < h.scanners.length, j ≠ i → scan.Apart (h.scanner j).scan
  unpulled : ∀ it, (h.iteration it).scanner = i → (h.iteration it).progress = .fresh

/-- The filter of the scan is new and no part of it belongs to another scanner, and iterations are
only taken from scanners that there are. -/
structure Owns (h : Host) (scan : Scan) : Prop where
  fresh : scan.Fresh h.spent
  apart : ∀ j < h.scanners.length, scan.Apart (h.scanner j).scan
  linked : ∀ it < h.iterations.length, (h.iteration it).scanner < h.scanners.length

/-- The step opens no scanner with a part of the scan's filter. -/
def Spares (scan : Scan) (step : Step) : Prop :=
  ∀ s other, step.operation = .openScanner s other → scan.Apart other

/-- The scanner does this scan, and no other scanner has a part of its filter. -/
structure Does (h : Host) (i : ScannerId) (scan : Scan) : Prop where
  isScanner : i < h.scanners.length
  isScan : (h.scanner i).scan = scan
  apart : ∀ j < h.scanners.length, j ≠ i → scan.Apart (h.scanner j).scan

theorem Opened.does {h : Host} {i : ScannerId} {scan : Scan} (ho : h.Opened i scan) :
    h.Does i scan := ⟨ho.isScanner, ho.isScan, ho.apart⟩

/-- What is left of a scanner by a step that pulls none of its iterations. -/
structure Untouched (i : ScannerId) (scan : Scan) (h h' : Host) : Prop where
  scanner : h'.scanner i = h.scanner i ∨ h'.scanner i = { h.scanner i with isClosed := true }
  memory : ∀ n ∈ scan.numbers, n ∈ h.spent ↔ n ∈ h'.spent
  length : h.iterations.length ≤ h'.iterations.length
  old : ∀ it < h.iterations.length, ((h'.iteration it).scanner = i ↔ (h.iteration it).scanner = i) ∧
    ((h'.iteration it).scanner = i → (h'.iteration it).progress = (h.iteration it).progress)
  new : ∀ it, h.iterations.length ≤ it → (h'.iteration it).scanner = i →
    (h'.iteration it).progress = .fresh

section

variable {h h' : Host} {i : ScannerId} {scan : Scan} {step : Step}

/-- A scanner that was just opened on a scan with a filter of its own is ready. -/
theorem opened_openScanner {w : Worker} {s : StoreId}
    (hopen : h.openScanner w s scan = (.ok i, h')) (howns : h.Owns scan) : h'.Opened i scan := by
  have hconn := connection_sameScans w s h
  unfold openScanner at hopen
  split at hopen
  · cases hopen
  · next c before heq =>
    rw [heq] at hconn
    split at hopen
    · obtain ⟨rfl, rfl⟩ : before.scanners.length = i ∧ _ = h' := by simpa using hopen
      have hscanners : before.scanners = h.scanners := hconn.scanners
      refine ⟨by simp, by simp [scanner], hconn.spent ▸ howns.fresh, ?_, ?_⟩
      · intro j hj hne
        have hlt : j < h.scanners.length := by
          simp only [List.length_append, List.length_singleton, hscanners] at hj hne
          omega
        rw [scanner_congr hlt (by
          rw [← hscanners]
          exact List.getElem?_append_left (hscanners ▸ hlt))]
        exact howns.apart j hlt
      · intro it hit
        have hlt := lt_of_iteration_scanner (by simp) hit
        have hlt' : it < h.iterations.length := hconn.iterations ▸ hlt
        rw [iteration_congr hlt' (by rw [← hconn.iterations])] at hit
        have := howns.linked it hlt'
        rw [hit, hscanners] at this
        exact absurd this (Nat.lt_irrefl _)
    · cases hopen

/-! ## The scan of a scanner -/

theorem does_of_scans (hd : h.Does i scan) (hlength : h'.scanners.length = h.scanners.length)
    (hscan : ∀ j < h.scanners.length, (h'.scanner j).scan = (h.scanner j).scan) :
    h'.Does i scan where
  isScanner := by rw [hlength]; exact hd.isScanner
  isScan := (hscan i hd.isScanner).trans hd.isScan
  apart j hj hne := by
    rw [hlength] at hj
    rw [hscan j hj]
    exact hd.apart j hj hne

theorem scan_setScanner (h : Host) (k : ScannerId) {j : ScannerId} (hj : j < h.scanners.length) :
    ((h.setScanner k { h.scanner k with isClosed := true }).scanner j).scan =
      (h.scanner j).scan := by
  by_cases heq : k = j
  · subst heq
    simp [scanner, setScanner, hj]
  · exact congrArg Scanner.scan (scanner_congr hj (List.getElem?_set_ne heq))

/-- Whatever is done, a scanner keeps doing its scan. -/
theorem does_perform (hd : h.Does i scan) (hspares : Spares scan step) :
    (h.perform step).2.Does i scan := by
  cases h.perform_scans step with
  | same _ hsame =>
    exact does_of_scans hd (by rw [hsame.scanners]) fun j hj => by rw [hsame.scanner hj]
  | opened s other c hop _ hscanners _ _ =>
    generalize (h.perform step).2 = h' at hscanners
    have hold : ∀ j < h.scanners.length, h'.scanner j = h.scanner j := fun j hj =>
      scanner_congr hj (by rw [hscanners, List.getElem?_append_left hj])
    have hlen : h'.scanners.length = h.scanners.length + 1 := by rw [hscanners]; simp
    refine ⟨by rw [hlen]; exact Nat.lt_succ_of_lt hd.isScanner, hold i hd.isScanner ▸ hd.isScan, ?_⟩
    intro j hj hne
    rcases Nat.lt_or_ge j h.scanners.length with hlt | hge
    · rw [hold j hlt]; exact hd.apart j hlt hne
    · rw [hlen] at hj
      obtain rfl : j = h.scanners.length := Nat.le_antisymm (Nat.le_of_lt_succ hj) hge
      have hnew : (h'.scanner h.scanners.length).scan = other := by simp [scanner, hscanners]
      rw [hnew]
      exact hspares s other hop
  | iterated k _ hafter => rw [hafter]; exact ⟨hd.isScanner, hd.isScan, hd.apart⟩
  | closed k _ hafter =>
    rw [hafter]
    exact does_of_scans hd List.length_set fun j hj => scan_setScanner h k hj
  | pulled it _ hafter =>
    rw [hafter]
    apply does_of_scans hd (pull_scanners_length h it)
    intro j hj
    obtain ⟨metrics, heq, -⟩ := pull_scanner h it hj
    rw [heq]

/-! ## Steps that leave the scanner alone -/

theorem untouched_of_iterations (hscanner : h'.scanner i = h.scanner i ∨
      h'.scanner i = { h.scanner i with isClosed := true })
    (hspent : h'.spent = h.spent) (hiterations : h'.iterations = h.iterations)
    (hd : h'.Does i scan) : Untouched i scan h h' := by
  have hold : ∀ it < h.iterations.length, h'.iteration it = h.iteration it :=
    fun it hit => iteration_congr hit (by rw [hiterations])
  refine ⟨hscanner, fun n _ => by rw [hspent], Nat.le_of_eq (by rw [hiterations]), ?_, ?_⟩
  · intro it hit
    rw [hold it hit]; exact ⟨.rfl, fun _ => rfl⟩
  · intro it hit hi
    have hlt := lt_of_iteration_scanner hd.isScanner hi
    rw [hiterations] at hlt
    exact absurd hlt (Nat.not_lt.2 hit)

theorem untouched_iterate (hi : i < h.scanners.length) (k : ScannerId) :
    Untouched i scan h (h.iterate k).2 := by
  have hold : ∀ it < h.iterations.length, (h.iterate k).2.iteration it = h.iteration it :=
    fun it hit => iteration_congr hit (List.getElem?_append_left hit)
  refine ⟨.inl rfl, fun _ _ => .rfl, by simp [iterate], ?_, ?_⟩
  · intro it hit
    rw [hold it hit]; exact ⟨.rfl, fun _ => rfl⟩
  · intro it hge hit
    have hlt := lt_of_iteration_scanner (h := (h.iterate k).2) hi hit
    simp only [iterate, List.length_append, List.length_singleton] at hlt
    obtain rfl : it = h.iterations.length := Nat.le_antisymm (Nat.le_of_lt_succ hlt) hge
    simp [iterate, iteration]

/-- A pull on another scanner's iteration: the memories that change are not of this scan. -/
theorem untouched_pull (hd : h.Does i scan) {it : IterationId}
    (hne : (h.iteration it).scanner ≠ i) : Untouched i scan h (h.pull it).2 := by
  have hnumbers : scan.Apart (h.scanner (h.iteration it).scanner).scan := by
    rcases Nat.lt_or_ge (h.iteration it).scanner h.scanners.length with hlt | hge
    · exact hd.apart _ hlt hne
    · intro n _
      rw [scanner, List.getD_eq_getElem?_getD, List.getElem?_eq_none hge]
      exact List.not_mem_nil
  have hgrown := pull_grown h it
  obtain ⟨metrics, heq, hmetrics⟩ := pull_scanner h it hd.isScanner
  have hlength := pull_iterations_length h it
  refine ⟨.inl (by rw [heq, hmetrics (Ne.symm hne)]), fun n hn => ⟨hgrown.kept n, fun hmem =>
    (hgrown.own n hmem).resolve_right (hnumbers n hn)⟩, Nat.le_of_eq hlength.symm, ?_, ?_⟩
  · intro x hx
    rw [pull_iteration_scanner]
    refine ⟨.rfl, fun hi => pull_iteration_of_ne h ?_⟩
    rintro rfl
    exact hne hi
  · intro x hx hi
    have hlt := lt_of_iteration_scanner (h := (h.pull it).2)
      (by rw [pull_scanners_length]; exact hd.isScanner) hi
    rw [hlength] at hlt
    exact absurd hlt (Nat.not_lt.2 hx)

/-- A step leaves the scanner alone, or it pulls one of its iterations. -/
theorem scanner_cases (hd : h.Does i scan) (hspares : Spares scan step) :
    (Untouched i scan h (h.perform step).2 ∧
      ∀ it, (h.iteration it).scanner = i → step.operation ≠ .pull it) ∨
    ∃ it, (h.iteration it).scanner = i ∧ step.operation = .pull it := by
  have hafter := does_perform hd hspares
  cases h.perform_scans step with
  | same hop hsame =>
    exact .inl ⟨untouched_of_iterations (.inl (hsame.scanner hd.isScanner)) hsame.spent
      hsame.iterations hafter, fun it _ => hop it⟩
  | opened s other c hop _ hscanners hiterations hspent =>
    refine .inl ⟨untouched_of_iterations (.inl (scanner_congr hd.isScanner ?_)) hspent hiterations
      hafter, fun it _ => by rw [hop]; exact nofun⟩
    rw [hscanners, List.getElem?_append_left hd.isScanner]
  | iterated k hop heq =>
    rw [heq]
    exact .inl ⟨untouched_iterate hd.isScanner k, fun it _ => by rw [hop]; exact nofun⟩
  | closed k hop heq =>
    rw [heq] at hafter ⊢
    refine .inl ⟨untouched_of_iterations ?_ rfl rfl hafter, fun it _ => by rw [hop]; exact nofun⟩
    by_cases hk : k = i
    · subst hk
      exact .inr (by simp [scanner, setScanner, hd.isScanner])
    · exact .inl (scanner_congr hd.isScanner (List.getElem?_set_ne hk))
  | pulled it hop heq =>
    by_cases hit : (h.iteration it).scanner = i
    · exact .inr ⟨it, hit, hop⟩
    · rw [heq]
      refine .inl ⟨untouched_pull hd hit, ?_⟩
      intro x hx hopx
      rw [hop] at hopx
      cases hopx
      exact hit hx

/-! ## The pulls of a run -/

theorem filter_isPull_snoc (it : IterationId) (prior : List Event) (e : Event) :
    (prior ++ [e]).filter (Event.isPull it) =
      prior.filter (Event.isPull it) ++ if e.isPull it then [e] else [] := by
  rw [List.filter_append]
  cases he : e.isPull it <;> simp [he]

theorem filter_isPull_unpulled {it : IterationId} {e : Event} (he : e.isPull it = false)
    (prior : List Event) :
    (prior ++ [e]).filter (Event.isPull it) = prior.filter (Event.isPull it) := by
  rw [filter_isPull_snoc, he, if_neg Bool.false_ne_true, List.append_nil]

theorem filter_isPull_pull (prior : List Event) (w : Worker) (it x : IterationId) (a : Answer) :
    (prior ++ [(⟨h, ⟨w, .pull it⟩, a⟩ : Event)]).filter (Event.isPull x) =
      prior.filter (Event.isPull x) ++
        if it = x ∧ x < h.iterations.length then [⟨h, ⟨w, .pull it⟩, a⟩] else [] := by
  have hpull : Event.isPull x ⟨h, ⟨w, .pull it⟩, a⟩ =
      (it = x && decide (x < h.iterations.length)) := rfl
  rw [filter_isPull_snoc, hpull]
  simp

/-- A step that leaves the scanner alone pulls none of its iterations. -/
theorem isPull_untouched (hu : Untouched i scan h h')
    (hne : ∀ it, (h.iteration it).scanner = i → step.operation ≠ .pull it) {it : IterationId}
    (hit : (h'.iteration it).scanner = i) (a : Answer) : Event.isPull it ⟨h, step, a⟩ = false := by
  unfold Event.isPull
  split
  · next x hop =>
    rcases Nat.lt_or_ge it h.iterations.length with hlt | hge
    · have hx : x ≠ it := by
        rintro rfl
        exact hne x ((hu.old x hlt).1.1 hit) hop
      simp [hx]
    · simp [Nat.not_lt.2 hge]
  · rfl

theorem isPull_unstarted {it : IterationId} (hit : h.iterations.length ≤ it) (a : Answer) :
    Event.isPull it ⟨h, step, a⟩ = false := by
  unfold Event.isPull
  split
  · simp [Nat.not_lt.2 hit]
  · rfl

end

end Host

end HourlyUsage
