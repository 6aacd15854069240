import HourlyUsage.Proofs.Store.Accounting
import HourlyUsage.Proofs.Store.Quiet
import HourlyUsage.Store.Failure
/-!
# Failures of stores

Whatever has become of a store, its file and its connections, what a worker asks of it is done, or
the worker is told that the store is unavailable. There is one way to get the bare fault of the
database: closing a scanner whose connection was closed before it. Where a scanner is closed at the
end of its use, that fault takes the place of what the use gave.

Sources: `get_connection`, `bootstrap`, `put_row`, `open_scanner`, `close`, `close_all`,
`checkpoint_wal`; the iterator of a scanner, its `close` and `__exit__`.

Hypotheses: scanners and iterations are used by numbers that they have been given (`Step.IsProper`);
files, tables and connections may be in any state that can be reached.

Results:
* `connection_eq_error`, `bootstrap_eq_error`, `putRow_eq_error`, `openScanner_eq_error`,
  `pull_eq_failed`: each operation fails as an unavailable store does.
* `closeScanner_answer`: closing fails where the scanner is stranded.
* `expected_perform`: which steps give an answer that a caller can expect.
* `withScanner_eq`: what a use of a scanner gives.
* `stranded_scanners_fault`: both, after any steps.
-/
namespace HourlyUsage

/-- The failure is that of a store that is unavailable. -/
def StoreError.IsUnavailable (e : StoreError) : Prop :=
  ∃ f, e.known? = some f ∧ f.kind = .storeUnavailable

theorem StoreError.isUnavailable_of_eq {e : StoreError}
    (h : ∃ activity fault, e = .unavailable activity fault) : e.IsUnavailable := by
  obtain ⟨activity, fault, rfl⟩ := h
  exact ⟨_, rfl, rfl⟩

/-- Who gets this answer was served, or is told that the store is unavailable. -/
def Answer.IsExpected : Answer → Prop
  | .failed e => e.IsUnavailable
  | .fault _ => False
  | _ => True

/-- What the caller can ask for: a path that a file can have, and a scan that a database can be
asked for. -/
structure Step.IsProper (step : Step) : Prop where
  path : ∀ path, step.operation = .newStore path → Utf8.Encodable path ∧ 0 ∉ path
  scan : ∀ s scan, step.operation = .openScanner s scan → scan.Valid

/-- The step looks after a store, and its worker is not to hear of failures. -/
def Step.IsUpkeep (step : Step) : Prop :=
  ∃ s, step.operation = .checkpoint s ∨ step.operation = .close s ∨ step.operation = .closeAll s

namespace Engine

variable {e : Engine} {c : ConnectionId} {key : Bytes} {family : Text} {cells : Cells}

theorem putCells_eq_error (hcells : ∀ cell ∈ cells, refusal? family cell = none) {x : WriteError}
    (herror : (e.putCells c key family cells).1 = .error x) : ∃ f, x = .fault f := by
  induction cells generalizing e with
  | nil => cases herror
  | cons cell rest ih =>
    rw [putCells, putCell_eq, hcells cell (List.mem_cons_self ..)] at herror
    dsimp only at herror
    cases hlock : e.lock c with
    | error f =>
      rw [hlock] at herror
      cases herror
      exact ⟨f, rfl⟩
    | ok base =>
      rw [hlock] at herror
      exact ih (fun cell hcell => hcells cell (List.mem_cons_of_mem _ hcell)) herror

theorem put_eq_error (hcells : ∀ cell ∈ cells, refusal? family cell = none) {x : WriteError}
    (herror : (e.put c key family cells).1 = .error x) : ∃ f, x = .fault f := by
  unfold put at herror
  split at herror
  · cases herror
    exact ⟨_, rfl⟩
  · split at herror
    · next heq =>
      cases herror
      exact putCells_eq_error hcells (congrArg Prod.fst heq)
    · cases herror

end Engine

namespace Host

section

variable {h h' : Host} {w : Worker} {s : StoreId} {e : StoreError}

/-! ## Operations on stores -/

/-- A worker who gets no connection is told that the store is unavailable. -/
theorem connection_eq_error (hconnection : h.connection w s = (.error e, h')) :
    ∃ activity fault, e = .unavailable activity fault := by
  unfold connection at hconnection
  dsimp only at hconnection
  split at hconnection
  · cases hconnection
  · split at hconnection
    · cases hconnection
      exact ⟨_, _, rfl⟩
    · cases hconnection

/-- A worker who cannot make the table is told that the store is unavailable. -/
theorem bootstrap_eq_error (hbootstrap : h.bootstrap w s = (.error e, h')) :
    ∃ activity fault, e = .unavailable activity fault := by
  unfold bootstrap at hbootstrap
  dsimp only at hbootstrap
  split at hbootstrap
  · cases hbootstrap
    exact ⟨_, _, rfl⟩
  · split at hbootstrap
    · next hconnection =>
      cases hbootstrap
      exact connection_eq_error hconnection
    · split at hbootstrap
      · cases hbootstrap
        exact ⟨_, _, rfl⟩
      · cases hbootstrap

/-- A worker whose cells have names that can be written, and are not, is told so too. -/
theorem putRow_eq_error {key : Bytes} {family : Text} {cells : Cells}
    (hcells : ∀ cell ∈ cells, Engine.refusal? family cell = none)
    (hput : h.putRow w s key family cells = (.error e, h')) :
    ∃ activity fault, e = .unavailable activity fault := by
  unfold putRow at hput
  split at hput
  · next hconnection =>
    cases hput
    exact connection_eq_error hconnection
  · split at hput
    · cases hput
      exact ⟨_, _, rfl⟩
    · next heq =>
      obtain ⟨f, hfault⟩ := Engine.put_eq_error hcells (congrArg Prod.fst heq)
      cases hfault
    · cases hput

theorem openScanner_eq_error {scan : Scan} (hopen : h.openScanner w s scan = (.error e, h')) :
    ∃ activity fault, e = .unavailable activity fault := by
  unfold openScanner at hopen
  split at hopen
  · next hconnection =>
    cases hopen
    exact connection_eq_error hconnection
  · split at hopen
    · cases hopen
    · cases hopen
      exact ⟨_, _, rfl⟩

/-! ## Operations on scanners -/

/-- Every scanner does a scan that a database can be asked for. -/
def Scanning (h : Host) : Prop := ∀ sc ∈ h.scanners, sc.scan.Valid

theorem valid_of_scanning (hscanning : h.Scanning) (i : ScannerId) : (h.scanner i).scan.Valid := by
  -- A number that no scanner has stands for a scanner of every row.
  have hevery : ({} : Scan).Valid := ⟨by decide, by decide, nofun⟩
  rw [scanner, List.getD_eq_getElem?_getD]
  cases hget : h.scanners[i]? with
  | none => exact hevery
  | some sc => exact hscanning sc (List.mem_of_getElem? hget)

theorem unavailable_of_nextBatch {scan : Scan} (hvalid : scan.Valid) {view : Except Fault Table}
    {last? : Option Bytes} (hnext : scan.nextBatch (fetchable scan view) last? = .error e) :
    ∃ fault, e = .unavailable .scan fault := by
  rcases Scan.nextBatch_eq_error_iff.1 hnext with htable | ⟨t, most, -, hmost, -⟩
  · rw [table_fetchable hvalid] at htable
    cases hvisible : visible scan view with
    | ok t => rw [hvisible] at htable; cases htable
    | error fault =>
      rw [hvisible] at htable
      exact ⟨fault, (Except.error.inj htable).symm⟩
  · cases hmost
    exact ⟨_, rfl⟩

/-- A pull fails only where the table cannot be read, or not by this scan. -/
theorem pull_eq_failed (hscanning : h.Scanning) {it : IterationId}
    (hpull : (h.pull it).1 = .failed e) : ∃ activity fault, e = .unavailable activity fault := by
  cases hopen : (h.scanner (h.iteration it).scanner).isClosed with
  | true =>
    rw [pull_of_closed h it hopen] at hpull
    cases hpull
  | false =>
    rw [pull_answer h it hopen, scanPull] at hpull
    obtain ⟨last?, hnext⟩ := Scan.failed_pull hpull
    exact ⟨_, unavailable_of_nextBatch (valid_of_scanning hscanning _) hnext⟩

/-- The scanner is open and its connection is not. -/
def Stranded (h : Host) (i : ScannerId) : Prop :=
  (h.scanner i).isClosed = false ∧
    (h.engine.connection (h.scanner i).connection).isOpen = false

instance (h : Host) (i : ScannerId) : Decidable (h.Stranded i) :=
  inferInstanceAs (Decidable (_ ∧ _))

/-- Closing a scanner fails where it is stranded. -/
theorem closeScanner_answer (h : Host) (i : ScannerId) :
    (h.closeScanner i).1 = if h.Stranded i then .error .closed else .ok () := by
  have hengine : (h.setScanner i { h.scanner i with isClosed := true }).engine = h.engine := rfl
  unfold closeScanner
  dsimp only
  rw [hengine]
  by_cases hstranded : h.Stranded i
  · rw [if_pos hstranded, hstranded.1, hstranded.2]
    rfl
  · rw [if_neg hstranded]
    split
    · rfl
    · next hunclosed =>
      have hopen : (h.engine.connection (h.scanner i).connection).isOpen = true := by
        rw [← Bool.not_eq_false]
        exact fun hshut => hstranded ⟨Bool.eq_false_iff.2 hunclosed, hshut⟩
      rw [if_pos hopen]

/-! ## One step -/

def Event.Strands (e : Event) : Prop :=
  ∃ i, e.step.operation = .closeScanner i ∧ e.before.Stranded i

theorem isExpected_ofUnit {r : Except StoreError Unit}
    (h : ∀ e, r = .error e → ∃ activity fault, e = .unavailable activity fault) :
    (Answer.ofUnit r).IsExpected := by
  cases r with
  | ok u => trivial
  | error e => exact StoreError.isUnavailable_of_eq (h e rfl)

theorem isExpected_ofNumber {r : Except StoreError Nat}
    (h : ∀ e, r = .error e → ∃ activity fault, e = .unavailable activity fault) :
    (Answer.ofNumber r).IsExpected := by
  cases r with
  | ok n => trivial
  | error e => exact StoreError.isUnavailable_of_eq (h e rfl)

theorem isExpected_ofPull {r : Pull StoreError}
    (h : ∀ e, r = .failed e → ∃ activity fault, e = .unavailable activity fault) :
    (Answer.ofPull r).IsExpected := by
  cases r with
  | row r => trivial
  | ended => trivial
  | failed e => exact StoreError.isUnavailable_of_eq (h e rfl)

/-- A step that does not close a scanner is answered in a way that a caller can expect. -/
theorem expected_perform (hscanning : h.Scanning) {step : Step} (hplain : step.Plain)
    (hother : ∀ i, step.operation ≠ .closeScanner i) : (h.perform step).1.IsExpected := by
  obtain ⟨w, operation⟩ := step
  cases operation with
  | newStore path => trivial
  | bootstrap s => exact isExpected_ofUnit fun _ herror => bootstrap_eq_error (Prod.ext herror rfl)
  | putRow s key family cells =>
    have hcells : ∀ cell ∈ cells, Engine.refusal? family cell = none := fun cell hcell =>
      Engine.refusal?_of_encodable (hplain.family s key family cells rfl)
        (hplain.qualifiers s key family cells rfl cell hcell)
    exact isExpected_ofUnit fun _ herror => putRow_eq_error hcells (Prod.ext herror rfl)
  | checkpoint s => trivial
  | close s => trivial
  | closeAll s => trivial
  | newFilter => trivial
  | openScanner s scan =>
    exact isExpected_ofNumber fun _ herror => openScanner_eq_error (Prod.ext herror rfl)
  | iterate i => trivial
  | pull it => exact isExpected_ofPull fun _ hfailed => pull_eq_failed hscanning hfailed
  | closeScanner i => exact absurd rfl (hother i)
  | dropTable s => exact absurd rfl (hplain.keeps s)
  | sever s => exact absurd rfl (hplain.unsevered s)

/-- A step is answered in a way that a caller can expect unless it closes a stranded scanner; that
is answered with the fault of the database. -/
theorem expected_perform_iff (hscanning : h.Scanning) {step : Step} (hplain : step.Plain)
    (answer : Answer) :
    ((h.perform step).1.IsExpected ↔ ¬ Event.Strands ⟨h, step, answer⟩) ∧
      (Event.Strands ⟨h, step, answer⟩ → (h.perform step).1 = .fault .closed) := by
  by_cases hcloses : ∃ i, step.operation = .closeScanner i
  · obtain ⟨i, hop⟩ := hcloses
    have hstrands : Event.Strands ⟨h, step, answer⟩ ↔ h.Stranded i := by
      refine ⟨fun ⟨j, hop', hstranded⟩ => ?_, fun hstranded => ⟨i, hop, hstranded⟩⟩
      cases hop.symm.trans hop'
      exact hstranded
    have hanswer : (h.perform step).1 = if h.Stranded i then .fault .closed else .done := by
      rw [perform_closeScanner hop, closeScanner_answer]
      split <;> rfl
    rw [hstrands, hanswer]
    by_cases hstranded : h.Stranded i
    · rw [if_pos hstranded]
      exact ⟨⟨nofun, fun hnot => absurd hstranded hnot⟩, fun _ => rfl⟩
    · rw [if_neg hstranded]
      exact ⟨⟨fun _ => hstranded, fun _ => trivial⟩, fun hyes => absurd hyes hstranded⟩
  · have hother : ∀ i, step.operation ≠ .closeScanner i := fun i hop => hcloses ⟨i, hop⟩
    have hnot : ¬ Event.Strands ⟨h, step, answer⟩ := fun ⟨i, hop, _⟩ => hother i hop
    exact ⟨iff_of_true (expected_perform hscanning hplain hother) hnot,
      fun hyes => absurd hyes hnot⟩

theorem scanning_set (hscanning : h.Scanning) {i : ScannerId} {sc : Scanner}
    (hscan : sc.scan = (h.scanner i).scan) : ∀ other ∈ h.scanners.set i sc, other.scan.Valid := by
  intro other hother
  rcases List.mem_or_eq_of_mem_set hother with hold | rfl
  · exact hscanning other hold
  · rw [hscan]
    exact valid_of_scanning hscanning i

theorem scanning_perform (hscanning : h.Scanning) {step : Step} (hproper : step.IsProper) :
    (h.perform step).2.Scanning := by
  cases h.perform_scans step with
  | same _ hsame => rwa [Scanning, hsame.scanners]
  | opened s scan c hop _ hscanners _ _ =>
    rw [Scanning, hscanners]
    intro sc hsc
    rcases List.mem_append.1 hsc with hold | hnew
    · exact hscanning sc hold
    · obtain rfl := List.mem_singleton.1 hnew
      exact hproper.scan s scan hop
  | iterated k _ hafter => rw [hafter]; exact hscanning
  | closed k _ hafter => rw [hafter]; exact scanning_set hscanning rfl
  | pulled it _ hafter =>
    rw [hafter]
    cases hopen : (h.scanner (h.iteration it).scanner).isClosed with
    | true => rw [pull_of_closed h it hopen]; exact hscanning
    | false =>
      rw [Scanning, pull_scanners h it hopen]
      exact scanning_set hscanning rfl

/-! ## A use of a scanner -/

/-- What a use of a scanner gives: why there is none, or what the use itself gave, unless the
scanner is stranded after it. -/
theorem withScanner_eq {ε α : Type} (h : Host) (w : Worker) (s : StoreId) (scan : Scan)
    (use : ScannerId → Host → Except ε α × Host) :
    (h.withScanner w s scan use).1 =
      match h.openScanner w s scan with
      | (.error e, _) => .error (.notOpened e)
      | (.ok i, opened) =>
        if (use i opened).2.Stranded i then .error (.notClosed .closed)
        else (use i opened).1.mapError .failed := by
  unfold withScanner
  rcases h.openScanner w s scan with ⟨e | i, opened⟩
  · rfl
  · dsimp only
    have hclose := closeScanner_answer (use i opened).2 i
    generalize (use i opened).2.closeScanner i = r at hclose ⊢
    obtain ⟨outcome, after⟩ := r
    obtain rfl : outcome = _ := hclose
    by_cases hstranded : (use i opened).2.Stranded i
    · simp only [if_pos hstranded]
    · simp only [if_neg hstranded]
      cases (use i opened).1 <;> rfl

/-- What comes of a use of a scanner, whatever the use does. -/
structure Usage {ε α : Type} (h : Host) (w : Worker) (s : StoreId) (scan : Scan)
    (use : ScannerId → Host → Except ε α × Host) : Prop where
  /-- Where there is no scanner, the store is unavailable. -/
  unopened : ∀ e opened, h.openScanner w s scan = (.error e, opened) →
    e.IsUnavailable ∧ (h.withScanner w s scan use).1 = .error (.notOpened e)
  /-- What the use gave is what comes of it. -/
  used : ∀ i opened, h.openScanner w s scan = (.ok i, opened) → ¬ (use i opened).2.Stranded i →
    (h.withScanner w s scan use).1 = (use i opened).1.mapError .failed
  /-- A stranded scanner hides what the use gave. -/
  hidden : ∀ i opened, h.openScanner w s scan = (.ok i, opened) → (use i opened).2.Stranded i →
    (h.withScanner w s scan use).1 = .error (.notClosed .closed)

theorem usage {ε α : Type} (h : Host) (w : Worker) (s : StoreId) (scan : Scan)
    (use : ScannerId → Host → Except ε α × Host) : h.Usage w s scan use where
  unopened e opened hopen := by
    rw [withScanner_eq, hopen]
    exact ⟨StoreError.isUnavailable_of_eq (openScanner_eq_error hopen), rfl⟩
  used i opened hopen hstranded := by
    rw [withScanner_eq, hopen]
    exact if_neg hstranded
  hidden i opened hopen hstranded := by
    rw [withScanner_eq, hopen]
    exact if_pos hstranded

/-! ## Any steps -/

theorem Begins.scanning (hbegins : h.Begins) : h.Scanning := by
  intro sc hsc
  rw [hbegins.scanners] at hsc
  cases hsc

/-- At each event of a run, scanners do scans that a database can be asked for. -/
theorem scanning_of_mem_events {steps : List Step} (hproper : ∀ step ∈ steps, step.IsProper)
    (hscanning : h.Scanning) {e : Event} (he : e ∈ h.events steps) : e.before.Scanning :=
  before_of_mem_events (P := Scanning)
    (fun hx step hstep => scanning_perform hx (hproper step hstep)) hscanning he

theorem done_of_isUpkeep {step : Step} (hupkeep : step.IsUpkeep) :
    (h.perform step).1 = .done := by
  obtain ⟨w, operation⟩ := step
  obtain ⟨s, rfl | rfl | rfl⟩ := hupkeep <;> rfl

/-- **Stranded scanners fault.** Whatever was done to stores, by any workers and in any order, also
with a table removed and with connections closed underneath, whoever asks is served or is told that
the store is unavailable, except who closes a scanner that is stranded: that is answered with the
fault of the database. A store is closed and checkpointed without a failure, and for want of a
connection it can only be unavailable. What a use of a scanner gives comes out of it, unless the
scanner is stranded when the use is over: then the fault comes out, in place of an error of the use
too. -/
theorem stranded_scanners_fault {start : Host} (hbegins : start.Begins) {steps : List Step}
    (hproper : ∀ step ∈ steps, step.IsProper) :
    (∀ e ∈ start.events steps, e.step.Plain →
      (e.answer.IsExpected ↔ ¬ e.Strands) ∧ (e.Strands → e.answer = .fault .closed)) ∧
    (∀ e ∈ start.events steps, e.step.IsUpkeep → e.answer = .done) ∧
    (∀ w s x, ((start.after steps).connection w s).1 = .error x → x.IsUnavailable) ∧
    (∀ (ε α : Type) w s scan (use : ScannerId → Host → Except ε α × Host),
      (start.after steps).Usage w s scan use) := by
  refine ⟨fun e he hplain => ?_, fun e he hupkeep => ?_, fun w s x herror => ?_,
    fun ε α w s scan use => usage _ w s scan use⟩
  · have hscanning := scanning_of_mem_events hproper hbegins.scanning he
    rw [answer_of_mem_events he]
    exact expected_perform_iff hscanning hplain e.answer
  · rw [answer_of_mem_events he]
    exact done_of_isUpkeep hupkeep
  · exact StoreError.isUnavailable_of_eq (connection_eq_error (Prod.ext herror rfl))

/-- A worker opens a scanner, closes the store and then the scanner. -/
def abandonedSteps : List Step :=
  [.newStore (text ":memory:"), .bootstrap 0, .openScanner 0 {}, .close 0, .closeScanner 0].map
    (Step.mk .main)

def abandonedHost : Host := (ofDisk ⟨[], []⟩).after (abandonedSteps.take 4)

/-- A use that closes the store and ends with an error of its own. -/
def closingUse (_ : ScannerId) (h : Host) : Except Nat Unit × Host := (.error 7, h.close .main 0)

/-- The closing is answered neither with success nor as by a store that is unavailable, and the
error of the use does not come out. -/
theorem abandoned_scanner_faults :
    ¬ (abandonedHost.perform ⟨.main, .closeScanner 0⟩).1.IsExpected ∧
      (abandonedHost.withScanner .main 0 {} closingUse).1 ≠ .error (.failed 7) := by
  have hfault : (abandonedHost.perform ⟨.main, .closeScanner 0⟩).1 = .fault .closed := rfl
  have huse : (abandonedHost.withScanner .main 0 {} closingUse).1 = .error (.notClosed .closed) :=
    rfl
  rw [hfault, huse]
  exact ⟨id, nofun⟩

theorem abandonedSteps_proper : ∀ step ∈ abandonedSteps, step.IsProper := by
  have hpath : Utf8.Encodable (text ":memory:") ∧ 0 ∉ text ":memory:" := by decide
  have hscan : ({} : Scan).Valid := ⟨by decide, by decide, nofun⟩
  intro step hstep
  refine ⟨fun path hop => ?_, fun s scan hop => ?_⟩ <;>
    rcases List.mem_map.1 hstep with ⟨operation, hoperation, rfl⟩ <;>
    simp only [List.mem_cons, List.not_mem_nil, or_false] at hoperation <;>
    rcases hoperation with rfl | rfl | rfl | rfl | rfl <;> cases hop
  · exact hpath
  · exact hscan

/-- The last one of these steps, and such a use after them. -/
theorem abandoned_scanner_is_stranded :
    (abandonedHost.perform ⟨.main, .closeScanner 0⟩).1 = .fault .closed ∧
      (((ofDisk ⟨[], []⟩).after abandonedSteps).withScanner .main 0 {} closingUse).1 =
        .error (.notClosed .closed) := by
  obtain ⟨hevents, -, -, huses⟩ := stranded_scanners_fault begins_empty abandonedSteps_proper
  have hsteps : abandonedSteps = abandonedSteps.take 4 ++ [⟨.main, .closeScanner 0⟩] := rfl
  have hlast : (⟨abandonedHost, ⟨.main, .closeScanner 0⟩,
      (abandonedHost.perform ⟨.main, .closeScanner 0⟩).1⟩ : Event) ∈
        (ofDisk ⟨[], []⟩).events abandonedSteps := by
    rw [hsteps, events_append]
    exact List.mem_append_right _ (List.mem_singleton_self _)
  have hplain : Step.Plain ⟨.main, .closeScanner 0⟩ := ⟨nofun, nofun, nofun, nofun⟩
  have hopen : ((ofDisk ⟨[], []⟩).after abandonedSteps).openScanner .main 0 {} =
      (.ok 1, (((ofDisk ⟨[], []⟩).after abandonedSteps).openScanner .main 0 {}).2) := rfl
  exact ⟨(hevents _ hlast hplain).2 ⟨0, rfl, by decide +kernel⟩,
    (huses Nat Unit .main 0 {} closingUse).hidden 1 _ hopen (by decide +kernel)⟩

end

end Host

end HourlyUsage
