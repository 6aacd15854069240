import HourlyUsage.Proofs.Store.Accounting
/-!
# Scanners that are closed

From its first closing on a scanner is at rest: its iterations end, wherever they stood, and nothing
that is done to it has any effect. For everything else it makes no difference that it was closed.

Sources: `close` of a scanner, its iterator, `record` of its counters.

Hypotheses: none but that the scanner was opened; the steps may be any.

Results:
* `rests_perform`: no step wakes a closed scanner.
* `perform_withScans`: what is done to stores does not look at scanners.
* `shut_perform`, `shut_events`: steps that are not about the scanner are answered as if it had not
  been closed.
* `accounts_are_kept`: the accounts of a scanner, and its rest.
-/
namespace HourlyUsage

/-- Whether scanners and iterations have no part in a step. -/
def Step.isOnStores (step : Step) : Bool :=
  match step.operation with
  | .openScanner _ _ | .iterate _ | .pull _ | .closeScanner _ => false
  | _ => true

namespace Host

/-! ## A closed scanner -/

section

variable {h : Host} {i : ScannerId} {sc : Scanner}

/-- The scanner with this number is closed, and as it was when it was. -/
structure AtRest (h : Host) (i : ScannerId) (sc : Scanner) : Prop where
  isScanner : i < h.scanners.length
  scanner : h.scanner i = sc
  closed : sc.isClosed = true

theorem setScanner_scanner_self (hi : i < h.scanners.length) (sc : Scanner) :
    (h.setScanner i sc).scanner i = sc := by
  simp [scanner, setScanner, hi]

theorem isClosed_atRest (hr : h.AtRest i sc) : (h.scanner i).isClosed = true := by
  rw [hr.scanner, hr.closed]

/-- A pull on one of its iterations ends that iteration and does nothing else. -/
theorem pull_atRest (hr : h.AtRest i sc) {step : Step} {it : IterationId}
    (hop : step.operation = .pull it) (hit : (h.iteration it).scanner = i) :
    h.perform step = (.ended, h.setProgress it .finished) := by
  rw [perform_pull hop, pull_of_closed h it (hit ▸ isClosed_atRest hr)]
  rfl

theorem batchesOf_atRest (hr : h.AtRest i sc) {it : IterationId}
    (hit : (h.iteration it).scanner = i) : h.batchesOf it = [] := by
  have hclosed := isClosed_atRest hr
  rw [batchesOf, hit, hclosed]
  rfl

theorem closeScanner_atRest (hr : h.AtRest i sc) {step : Step}
    (hop : step.operation = .closeScanner i) : h.perform step = (.done, h) := by
  have hclose : h.closeScanner i = (.ok (), h) := by
    rw [closeScanner]
    exact if_pos (isClosed_atRest hr)
  rw [perform_closeScanner hop, hclose]
  rfl

/-- No step wakes it. -/
theorem rests_perform (hr : h.AtRest i sc) (step : Step) : (h.perform step).2.AtRest i sc := by
  obtain ⟨hi, hscanner, hclosed⟩ := hr
  cases h.perform_scans step with
  | same _ hsame => exact ⟨hsame.scanners ▸ hi, (hsame.scanner hi).trans hscanner, hclosed⟩
  | opened s scan c _ _ hscanners _ _ =>
    obtain ⟨hi', hold⟩ := scanner_of_append hi hscanners
    exact ⟨hi', hold.trans hscanner, hclosed⟩
  | iterated k _ hafter => exact hafter ▸ ⟨hi, hscanner, hclosed⟩
  | closed k _ hafter =>
    rw [hafter]
    refine ⟨by rw [setScanner, List.length_set]; exact hi, ?_, hclosed⟩
    by_cases hk : k = i
    · subst hk
      rw [setScanner_scanner_self hi, hscanner]
      cases sc
      exact congrArg (Scanner.mk _ _ · _) hclosed.symm
    · rw [setScanner_scanner_of_ne h hi hk]
      exact hscanner
  | pulled it _ hafter =>
    rw [hafter]
    obtain ⟨metrics, hsame, hmetrics⟩ := pull_scanner h it hi
    refine ⟨by rw [pull_scanners_length]; exact hi, ?_, hclosed⟩
    by_cases hit : (h.iteration it).scanner = i
    · rw [pull_of_closed h it (by rw [hit, hscanner, hclosed])]
      exact hscanner
    · rw [hsame, hmetrics (Ne.symm hit)]
      exact hscanner

theorem rests_after (hr : h.AtRest i sc) (steps : List Step) : (h.after steps).AtRest i sc := by
  induction steps generalizing h with
  | nil => exact hr
  | cons step rest ih => exact ih (rests_perform hr step)

theorem atRest_of_mem_events (hr : h.AtRest i sc) {steps : List Step} {e : Event}
    (he : e ∈ h.events steps) : e.before.AtRest i sc :=
  before_of_mem_events (P := fun x => x.AtRest i sc) (fun hx step _ => rests_perform hx step) hr he

end

/-! ## What is done to stores -/

def withScans (h : Host) (scanners : List Scanner) (iterations : List Iteration) : Host :=
  { h with scanners, iterations }

section

variable (h : Host) (w : Worker) (s : StoreId) (xs : List Scanner) (its : List Iteration)

theorem connection_withScans :
    (h.withScans xs its).connection w s =
      ((h.connection w s).1, (h.connection w s).2.withScans xs its) := by
  have hstore : (h.withScans xs its).store s = h.store s := rfl
  have hengine : (h.withScans xs its).engine = h.engine := rfl
  unfold connection
  dsimp only
  rw [hstore, hengine]
  split
  · rfl
  · split <;> rfl

theorem putRow_withScans (key : Bytes) (family : Text) (cells : Cells) :
    (h.withScans xs its).putRow w s key family cells =
      ((h.putRow w s key family cells).1,
        (h.putRow w s key family cells).2.withScans xs its) := by
  unfold putRow
  rw [connection_withScans]
  rcases h.connection w s with ⟨e | c, h'⟩
  · rfl
  · have hengine : (h'.withScans xs its).engine = h'.engine := rfl
    dsimp only
    rw [hengine]
    split <;> rfl

theorem bootstrap_withScans :
    (h.withScans xs its).bootstrap w s =
      ((h.bootstrap w s).1, (h.bootstrap w s).2.withScans xs its) := by
  have hstore : (h.withScans xs its).store s = h.store s := rfl
  have hengine : (h.withScans xs its).engine = h.engine := rfl
  unfold bootstrap
  dsimp only
  rw [hstore, hengine]
  split
  · rfl
  · next disk _ =>
    have hconnection := connection_withScans { h with engine := { h.engine with disk } } w s xs its
    have hsame : { h.withScans xs its with engine := { h.engine with disk } } =
        { h with engine := { h.engine with disk } }.withScans xs its := rfl
    rw [hsame, hconnection]
    rcases Host.connection w s { h with engine := { h.engine with disk } } with ⟨e | c, h'⟩
    · rfl
    · have hengine' : (h'.withScans xs its).engine = h'.engine := rfl
      dsimp only
      rw [hengine']
      split <;> rfl

theorem checkpoint_withScans :
    (h.withScans xs its).checkpoint w s = (h.checkpoint w s).withScans xs its := by
  unfold checkpoint
  rw [connection_withScans]
  rcases h.connection w s with ⟨e | c, h'⟩
  · rfl
  · have hengine : (h'.withScans xs its).engine = h'.engine := rfl
    dsimp only
    rw [hengine]
    split <;> rfl

theorem close_withScans : (h.withScans xs its).close w s = (h.close w s).withScans xs its := by
  have hstore : (h.withScans xs its).store s = h.store s := rfl
  unfold close
  dsimp only
  rw [hstore]
  split <;> rfl

theorem dropTable_withScans :
    (h.withScans xs its).dropTable w s =
      ((h.dropTable w s).1, (h.dropTable w s).2.withScans xs its) := by
  unfold dropTable
  rw [connection_withScans]
  rcases h.connection w s with ⟨e | c, h'⟩ <;> rfl

theorem sever_withScans :
    (h.withScans xs its).sever w s = ((h.sever w s).1, (h.sever w s).2.withScans xs its) := by
  unfold sever
  rw [connection_withScans]
  rcases h.connection w s with ⟨e | c, h'⟩ <;> rfl

end

theorem perform_withScans (h : Host) (xs : List Scanner) (its : List Iteration) {step : Step}
    (hstores : step.isOnStores = true) :
    (h.withScans xs its).perform step =
      ((h.perform step).1, (h.perform step).2.withScans xs its) := by
  obtain ⟨w, operation⟩ := step
  have hmap : ∀ {α : Type} (f : α → Answer) {r r' : α × Host},
      r' = (r.1, r.2.withScans xs its) →
        r'.map f id = ((r.map f id).1, (r.map f id).2.withScans xs its) := by
    rintro α f r r' rfl
    rfl
  cases operation with
  | newStore path => rfl
  | bootstrap s => exact hmap _ (bootstrap_withScans h w s xs its)
  | putRow s key family cells => exact hmap _ (putRow_withScans h w s xs its key family cells)
  | checkpoint s => exact congrArg (Prod.mk _) (checkpoint_withScans h w s xs its)
  | close s => exact congrArg (Prod.mk _) (close_withScans h w s xs its)
  | closeAll s => rfl
  | newFilter => rfl
  | openScanner s scan => cases hstores
  | iterate i => cases hstores
  | pull it => cases hstores
  | closeScanner i => cases hstores
  | dropTable s => exact hmap _ (dropTable_withScans h w s xs its)
  | sever s => exact hmap _ (sever_withScans h w s xs its)

theorem sameScans_perform (h : Host) {step : Step} (hstores : step.isOnStores = true) :
    SameScans h (h.perform step).2 := by
  unfold Step.isOnStores at hstores
  cases h.perform_scans step with
  | same _ hsame => exact hsame
  | opened s scan c hop => rw [hop] at hstores; cases hstores
  | iterated k hop => rw [hop] at hstores; cases hstores
  | pulled it hop => rw [hop] at hstores; cases hstores
  | closed k hop => rw [hop] at hstores; cases hstores

/-! ## Hosts that differ in one closed scanner -/

/-- The iterations stand alike, but for those of one scanner. -/
structure AlikeBut (i : ScannerId) (its its' : List Iteration) : Prop where
  owners : its'.map Iteration.scanner = its.map Iteration.scanner
  others : ∀ it : IterationId, (its.map Iteration.scanner)[it]? ≠ some i → its'[it]? = its[it]?

namespace AlikeBut

variable {i : ScannerId} {its its' : List Iteration}

theorem refl (i : ScannerId) (its : List Iteration) : AlikeBut i its its := ⟨rfl, fun _ _ => rfl⟩

theorem length (ha : AlikeBut i its its') : its'.length = its.length := by
  have hlength := congrArg List.length ha.owners
  rwa [List.length_map, List.length_map] at hlength

theorem append (ha : AlikeBut i its its') (x : Iteration) :
    AlikeBut i (its ++ [x]) (its' ++ [x]) where
  owners := by rw [List.map_append, List.map_append, ha.owners]
  others it hit := by
    rcases Nat.lt_or_ge it its.length with hlt | hge
    · rw [List.getElem?_append_left hlt, List.getElem?_append_left (ha.length ▸ hlt)]
      refine ha.others it ?_
      rwa [List.map_append, List.getElem?_append_left (by rwa [List.length_map])] at hit
    · rw [List.getElem?_append_right hge, List.getElem?_append_right (ha.length ▸ hge), ha.length]

theorem map_scanner_modify (its : List Iteration) (it : IterationId) (progress : Progress) :
    (its.modify it fun x => { x with progress }).map Iteration.scanner =
      its.map Iteration.scanner := by
  refine List.ext_getElem? fun n => ?_
  rw [List.getElem?_map, List.getElem?_map, List.getElem?_modify]
  cases its[n]? with
  | none => rfl
  | some x => by_cases hn : it = n <;> simp [hn]

theorem modify (ha : AlikeBut i its its') (it : IterationId) (progress : Progress) :
    AlikeBut i (its.modify it fun x => { x with progress })
      (its'.modify it fun x => { x with progress }) where
  owners := by rw [map_scanner_modify, map_scanner_modify, ha.owners]
  others n hn := by
    rw [map_scanner_modify] at hn
    rw [List.getElem?_modify, List.getElem?_modify, ha.others n hn]

theorem modify_right (ha : AlikeBut i its its') {it : IterationId}
    (hit : (its.map Iteration.scanner)[it]? = some i) (progress : Progress) :
    AlikeBut i its (its'.modify it fun x => { x with progress }) where
  owners := by rw [map_scanner_modify, ha.owners]
  others n hn := by
    have hne : it ≠ n := fun heq => hn (heq ▸ hit)
    rw [List.getElem?_modify, ha.others n hn]
    cases its[n]? <;> simp [hne]

end AlikeBut

/-- The second host is the first one with this scanner closed, and with the iterations of that
scanner anywhere. -/
structure Shut (i : ScannerId) (sc : Scanner) (h h' : Host) : Prop where
  isScanner : i < h.scanners.length
  closed : sc.isClosed = true
  host : ∃ its, AlikeBut i h.iterations its ∧ h' = h.withScans (h.scanners.set i sc) its

/-- Whether the step of an event is about this scanner: it pulls one of its iterations or closes
it. -/
def Event.isAbout (i : ScannerId) (e : Event) : Bool :=
  match e.step.operation with
  | .pull it => (e.before.iteration it).scanner = i
  | .closeScanner j => j = i
  | _ => false

section

variable {h h' : Host} {i : ScannerId} {sc : Scanner} {its : List Iteration}

theorem scanner_withScans_set {j : ScannerId} (hne : j ≠ i) :
    (h.withScans (h.scanners.set i sc) its).scanner j = h.scanner j := by
  rw [scanner, scanner, List.getD_eq_getElem?_getD, List.getD_eq_getElem?_getD, withScans,
    List.getElem?_set_ne (Ne.symm hne)]

theorem owner_withScans_set (ha : AlikeBut i h.iterations its) (it : IterationId) :
    ((h.withScans (h.scanners.set i sc) its).iteration it).scanner = (h.iteration it).scanner := by
  have howner : (its[it]?).map Iteration.scanner = (h.iterations[it]?).map Iteration.scanner := by
    rw [← List.getElem?_map, ← List.getElem?_map, ha.owners]
  rw [iteration, iteration, List.getD_eq_getElem?_getD, List.getD_eq_getElem?_getD, withScans,
    List.length_set]
  cases hold : h.iterations[it]? with
  | none =>
    rw [hold, Option.map_none, Option.map_eq_none_iff] at howner
    rw [howner]
  | some x =>
    rw [hold, Option.map_some, Option.map_eq_some_iff] at howner
    obtain ⟨x', hx', hsame⟩ := howner
    rw [hx']
    exact hsame

theorem iteration_withScans_set (ha : AlikeBut i h.iterations its) {it : IterationId}
    (hit : (h.iteration it).scanner ≠ i) :
    (h.withScans (h.scanners.set i sc) its).iteration it = h.iteration it := by
  have hother : (h.iterations.map Iteration.scanner)[it]? ≠ some i := by
    rw [List.getElem?_map]
    intro hsome
    obtain ⟨x, hx, howner⟩ := Option.map_eq_some_iff.1 hsome
    rw [iteration, List.getD_eq_getElem?_getD, hx] at hit
    exact hit howner
  rw [iteration, iteration, List.getD_eq_getElem?_getD, List.getD_eq_getElem?_getD, withScans,
    List.length_set, ha.others it hother]

theorem Shut.atRest (hs : Shut i sc h h') : h'.AtRest i sc := by
  obtain ⟨hi, hclosed, its, -, rfl⟩ := hs
  have hi' : i < (h.scanners.set i sc).length := by rwa [List.length_set]
  exact ⟨hi', setScanner_scanner_self hi sc, hclosed⟩

/-! ### Steps that are about the scanner -/

theorem getElem?_owner {it : IterationId} (hi : i < h.scanners.length)
    (hit : (h.iteration it).scanner = i) : (h.iterations.map Iteration.scanner)[it]? = some i := by
  have hlt := lt_of_iteration_scanner hi hit
  rw [iteration, List.getD_eq_getElem?_getD, List.getElem?_eq_getElem hlt] at hit
  rw [List.getElem?_map, List.getElem?_eq_getElem hlt]
  exact congrArg some hit

/-- On the host where it is closed they change nothing but where its iterations stand. -/
theorem shut_about (hs : Shut i sc h h') {step : Step} {answer : Answer}
    (habout : Event.isAbout i ⟨h', step, answer⟩ = true) : Shut i sc h (h'.perform step).2 := by
  have hrest := hs.atRest
  obtain ⟨w, operation⟩ := step
  unfold Event.isAbout at habout
  cases operation with
  | pull it =>
    have hit : (h'.iteration it).scanner = i := of_decide_eq_true habout
    have hpull : h'.perform ⟨w, .pull it⟩ = (.ended, h'.setProgress it .finished) :=
      pull_atRest hrest rfl hit
    obtain ⟨hi, hclosed, its, ha, rfl⟩ := hs
    rw [owner_withScans_set ha] at hit
    exact ⟨hi, hclosed, _, ha.modify_right (getElem?_owner hi hit) .finished,
      congrArg Prod.snd hpull⟩
  | closeScanner j =>
    obtain rfl : j = i := of_decide_eq_true habout
    rw [closeScanner_atRest hrest rfl]
    exact hs
  | _ => cases habout

/-! ### Steps that are not -/

theorem set_append_of_lt {xs : List Scanner} (hi : i < xs.length) (x : Scanner) :
    (xs ++ [x]).set i sc = xs.set i sc ++ [x] := List.set_append_left _ _ hi

theorem openScanner_shut (hs : Shut i sc h h') (w : Worker) (s : StoreId) (scan : Scan) :
    (h'.openScanner w s scan).1 = (h.openScanner w s scan).1 ∧
      Shut i sc (h.openScanner w s scan).2 (h'.openScanner w s scan).2 := by
  obtain ⟨hi, hclosed, its, ha, rfl⟩ := hs
  have hsame := connection_sameScans w s h
  unfold openScanner
  rw [connection_withScans]
  generalize h.connection w s = r at hsame ⊢
  obtain ⟨outcome, g⟩ := r
  obtain ⟨hscanners, hiterations, -⟩ : SameScans h g := hsame
  rw [← hscanners] at hi ⊢
  rw [← hiterations] at ha
  rcases outcome with e | c
  · exact ⟨rfl, hi, hclosed, its, ha, rfl⟩
  · have hengine : (g.withScans (g.scanners.set i sc) its).engine = g.engine := rfl
    dsimp only
    rw [hengine]
    split
    · refine ⟨congrArg Except.ok List.length_set, ?_, hclosed, its, ha, ?_⟩
      · rw [List.length_append]
        exact Nat.lt_add_right _ hi
      · rw [set_append_of_lt hi]
        rfl
    · exact ⟨rfl, hi, hclosed, its, ha, rfl⟩

theorem closeScanner_shut (hs : Shut i sc h h') {j : ScannerId} (hne : j ≠ i) :
    (h'.closeScanner j).1 = (h.closeScanner j).1 ∧
      Shut i sc (h.closeScanner j).2 (h'.closeScanner j).2 := by
  obtain ⟨hi, hclosed, its, ha, rfl⟩ := hs
  have hset : Shut i sc (h.setScanner j { h.scanner j with isClosed := true })
      ((h.withScans (h.scanners.set i sc) its).setScanner j
        { h.scanner j with isClosed := true }) := by
    refine ⟨by rwa [setScanner, List.length_set], hclosed, its, ha, ?_⟩
    simp only [setScanner, withScans]
    rw [List.set_comm _ _ hne]
  unfold closeScanner
  dsimp only
  rw [scanner_withScans_set hne]
  split
  · exact ⟨rfl, hi, hclosed, its, ha, rfl⟩
  · have hengine : ((h.withScans (h.scanners.set i sc) its).setScanner j
        { h.scanner j with isClosed := true }).engine =
          (h.setScanner j { h.scanner j with isClosed := true }).engine := rfl
    rw [hengine]
    split
    · exact ⟨rfl, hset⟩
    · exact ⟨rfl, hset⟩

theorem pull_shut (hs : Shut i sc h h') {it : IterationId} (hit : (h.iteration it).scanner ≠ i) :
    (h'.pull it).1 = (h.pull it).1 ∧ Shut i sc (h.pull it).2 (h'.pull it).2 := by
  obtain ⟨hi, hclosed, its, ha, rfl⟩ := hs
  have hspent : (h.withScans (h.scanners.set i sc) its).spent = h.spent := rfl
  have hengine : (h.withScans (h.scanners.set i sc) its).engine = h.engine := rfl
  unfold pull
  dsimp only
  rw [iteration_withScans_set ha hit, scanner_withScans_set hit, hspent, hengine]
  split
  · exact ⟨rfl, hi, hclosed, _, ha.modify it .finished, rfl⟩
  · refine ⟨rfl, ?_, hclosed, _, ha.modify it _, ?_⟩
    · rwa [setProgress, setScanner, List.length_set]
    · simp only [setProgress, setScanner, withScans]
      rw [List.set_comm _ _ hit]

/-- Both hosts answer alike, and differ in the scanner only after it too. -/
theorem shut_perform (hs : Shut i sc h h') {step : Step} {answer : Answer}
    (hother : Event.isAbout i ⟨h', step, answer⟩ = false) :
    (h'.perform step).1 = (h.perform step).1 ∧
      Shut i sc (h.perform step).2 (h'.perform step).2 := by
  cases hstores : step.isOnStores with
  | true =>
    have hsame := sameScans_perform h hstores
    obtain ⟨hi, hclosed, its, ha, rfl⟩ := hs
    rw [perform_withScans h _ _ hstores]
    refine ⟨rfl, hsame.scanners ▸ hi, hclosed, its, hsame.iterations ▸ ha, ?_⟩
    rw [hsame.scanners]
  | false =>
    obtain ⟨w, operation⟩ := step
    unfold Event.isAbout at hother
    cases operation with
    | openScanner s scan =>
      obtain ⟨hanswer, hafter⟩ := openScanner_shut hs w s scan
      exact ⟨congrArg Answer.ofNumber hanswer, hafter⟩
    | iterate k =>
      obtain ⟨hi, hclosed, its, ha, rfl⟩ := hs
      exact ⟨congrArg Answer.number ha.length, hi, hclosed, _, ha.append { scanner := k }, rfl⟩
    | pull it =>
      have hit : (h'.iteration it).scanner ≠ i := of_decide_eq_false hother
      have howner : (h.iteration it).scanner ≠ i := by
        obtain ⟨-, -, its, ha, rfl⟩ := hs
        rwa [owner_withScans_set ha] at hit
      obtain ⟨hanswer, hafter⟩ := pull_shut hs howner
      exact ⟨congrArg Answer.ofPull hanswer, hafter⟩
    | closeScanner j =>
      obtain ⟨hanswer, hafter⟩ := closeScanner_shut hs (of_decide_eq_false hother)
      exact ⟨congrArg Answer.ofFault hanswer, hafter⟩
    | _ => cases hstores

/-! ### Runs -/

def others (i : ScannerId) (events : List Event) : List Event :=
  events.filter fun e => !e.isAbout i

/-- Steps that are not about the scanner are answered alike, the others left out on the host where
it was not closed. -/
theorem shut_events (hs : Shut i sc h h') (steps : List Step) :
    (others i (h'.events steps)).map Event.answer =
        (h.events ((others i (h'.events steps)).map Event.step)).map Event.answer ∧
      Shut i sc (h.after ((others i (h'.events steps)).map Event.step)) (h'.after steps) := by
  induction steps generalizing h h' with
  | nil => exact ⟨rfl, hs⟩
  | cons step rest ih =>
    rw [events, others, List.filter_cons]
    cases habout : Event.isAbout i ⟨h', step, (h'.perform step).1⟩ with
    | true => exact ih (shut_about hs habout)
    | false =>
      obtain ⟨hanswer, hafter⟩ := shut_perform hs habout
      obtain ⟨hanswers, hlast⟩ := ih hafter
      refine ⟨?_, hlast⟩
      rw [Bool.not_false, if_pos rfl, List.map_cons, List.map_cons, events, List.map_cons, hanswer]
      exact congrArg (List.cons _) hanswers

/-- Closing a scanner closes it, even where it has been closed or its connection has. -/
theorem closeScanner_host (hi : i < h.scanners.length) :
    (h.closeScanner i).2 = h.setScanner i { h.scanner i with isClosed := true } := by
  unfold closeScanner
  dsimp only
  split
  · next hclosed =>
    have hsame : { h.scanner i with isClosed := true } = h.scanner i := by rw [← hclosed]
    have hget : h.scanner i = h.scanners[i] := by simp [scanner, hi]
    rw [hsame, setScanner, hget, List.set_getElem_self]
  · split <;> rfl

theorem shut_closeScanner (hi : i < h.scanners.length) :
    Shut i { h.scanner i with isClosed := true } h (h.closeScanner i).2 :=
  ⟨hi, rfl, h.iterations, .refl i _, closeScanner_host hi⟩

end

/-- A scanner that is closed on a host rests, whatever steps follow. -/
structure Rests (now : Host) (i : ScannerId) (later : List Step) : Prop where
  /-- Its counters stay what they were. -/
  scanner : ((now.closeScanner i).2.after later).scanner i =
    { now.scanner i with isClosed := true }
  /-- Its iterations, old and new, end wherever they stand. They hand nothing over, fetch nothing
  and do not fail. -/
  pulls : ∀ e ∈ (now.closeScanner i).2.events later, ∀ it, e.pulled? i = some it →
    e.answer = .ended ∧ e.before.batchesOf it = [] ∧
      (e.before.perform e.step).2 = e.before.setProgress it .finished
  /-- Closing it again does nothing. -/
  closes : ∀ e ∈ (now.closeScanner i).2.events later, e.step.operation = .closeScanner i →
    e.answer = .done ∧ (e.before.perform e.step).2 = e.before
  /-- Everything else is answered as if the scanner had not been closed and nothing more had been
  done to it. -/
  answers : (others i ((now.closeScanner i).2.events later)).map Event.answer =
    (now.events ((others i ((now.closeScanner i).2.events later)).map Event.step)).map Event.answer
  /-- So do the other scanners stand. -/
  scanners : ∀ j, j ≠ i → ((now.closeScanner i).2.after later).scanner j =
    (now.after ((others i ((now.closeScanner i).2.events later)).map Event.step)).scanner j

theorem rests_closeScanner {now : Host} {i : ScannerId} (hi : i < now.scanners.length)
    (later : List Step) : Rests now i later := by
  have hshut := shut_closeScanner hi
  obtain ⟨hanswers, hlast⟩ := shut_events hshut later
  refine ⟨(rests_after hshut.atRest later).scanner, ?_, ?_, hanswers, ?_⟩
  · intro e he it hpulled
    obtain ⟨hop, hit⟩ := pulled?_eq_some_iff.1 hpulled
    have hrest := atRest_of_mem_events hshut.atRest he
    rw [answer_of_mem_events he, pull_atRest hrest hop hit]
    exact ⟨rfl, batchesOf_atRest hrest hit, rfl⟩
  · intro e he hop
    have hrest := atRest_of_mem_events hshut.atRest he
    rw [answer_of_mem_events he, closeScanner_atRest hrest hop]
    exact ⟨rfl, rfl⟩
  · intro j hne
    obtain ⟨-, -, its, -, hhost⟩ := hlast
    rw [hhost, scanner_withScans_set hne]

/-- **Accounts are kept.** Whatever is done after a scanner was opened, by any workers and in any
order, its counters are the totals of the rows that its iterations have handed over, all of them
together, and the number of the batches that were fetched for them; a fetch that fails counts for
nothing. From its first closing on the counters stay, its iterations end, closing it again does
nothing, and what else is done goes on as if it had not been closed. -/
theorem accounts_are_kept {h opened : Host} {w : Worker} {s : StoreId} {scan : Scan}
    {i : ScannerId} (hopen : h.openScanner w s scan = (.ok i, opened)) (steps later : List Step) :
    Tallies i (opened.events steps) ((opened.after steps).scanner i).metrics ∧
      Rests (opened.after steps) i later := by
  have hcounts := counts_opened hopen
  have hnow := metrics_after hcounts steps
  exact ⟨tallies_after hcounts steps, rests_closeScanner hnow.isScanner later⟩

/-- Rows of which the filter of a scan lets the second one through, one row in a batch. -/
def heldScan : Scan where
  batchSize := 1
  filter := some (.startsWith [2])

def heldHost : Host :=
  (ofDisk ⟨[], []⟩).after <|
    [.newStore (text ":memory:"), .bootstrap 0, .putRow 0 [1] (text "i") [(text "quota", [7])],
      .putRow 0 [2] (text "i") [(text "quota", [8])],
      .putRow 0 [2, 3] (text "i") [(text "quota", [9])]].map (Step.mk .main)

def heldOpened : Host := (heldHost.openScanner .main 0 heldScan).2

/-- A pull that looks at the first row and at the second one. -/
def heldSteps : List Step := [.iterate 0, .pull 0].map (Step.mk .main)

/-- A pull on the iteration that was begun, and one on a new iteration. -/
def heldLater : List Step := [.pull 0, .iterate 0, .pull 1].map (Step.mk .main)

/-- The row that was let through is counted, and both batches. After the scanner is closed the third
row is not handed over. -/
theorem heldScan_is_accounted :
    ((heldOpened.after heldSteps).scanner 0).metrics = ⟨1, 1, 8, 2⟩ ∧
      (((heldOpened.after heldSteps).closeScanner 0).2.perform ⟨.main, .pull 0⟩).1 = .ended ∧
      (((heldOpened.after heldSteps).closeScanner 0).2.after heldLater).scanner 0 =
        { (heldOpened.after heldSteps).scanner 0 with isClosed := true } := by
  have hopen : heldHost.openScanner .main 0 heldScan = (.ok 0, heldOpened) := rfl
  obtain ⟨haccounts, hrests⟩ := accounts_are_kept hopen heldSteps heldLater
  have htotals : Metrics.ofRows (handed 0 (heldOpened.events heldSteps))
      (fetched 0 (heldOpened.events heldSteps)).length = ⟨1, 1, 8, 2⟩ := by decide +kernel
  have hfirst := hrests.pulls _ (List.mem_cons_self ..) 0 (by decide +kernel)
  exact ⟨haccounts.totals.trans htotals, hfirst.1, hrests.scanner⟩

end Host

end HourlyUsage
