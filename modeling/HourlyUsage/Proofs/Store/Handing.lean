import HourlyUsage.Proofs.Store.Files
import HourlyUsage.Proofs.Store.Ledger
/-!
# Who holds which connection

Workers use stores in any order, one operation at a time, and between operations anything may happen
to the files and the databases. A store then lists exactly the connections that it has handed out
and that were neither closed by their worker nor with all others; whoever holds one of the current
generation holds it alone, and it is open.

Sources: `get_connection`, `close`, `close_all`, `_create_connection`.

Hypotheses: none but that the run starts before anything was done (`Past`); between two steps files
and databases may change in any way.

Results:
* `ledger_perform`: what one operation hands out and closes.
* `Past.ledger`: the ledger of everything done since the start.
* `connections_are_accounted_for`: what the connections of a store are at any time, and what asking
  for one and closing them comes to.
-/
namespace HourlyUsage.Host

/-! ## What an operation hands out and closes -/

namespace Event

/-- The store that is asked for a connection in the course of a step, and the host at that time. -/
def asks (e : Event) : Option (StoreId × Host) :=
  match e.step.operation with
  | .bootstrap s =>
    match e.before.engine.disk.makeParents (e.before.store s).path with
    | .error _ => none
    | .ok disk => some (s, { e.before with engine := { e.before.engine with disk } })
  | .putRow s _ _ _ => some (s, e.before)
  | .openScanner s _ => some (s, e.before)
  | .checkpoint s => some (s, e.before)
  | .dropTable s => some (s, e.before)
  | .sever s => some (s, e.before)
  | _ => none

/-- A store hands a connection out to the worker of the step. -/
def Hands (e : Event) (s : StoreId) (w : Worker) (c : ConnectionId) : Prop :=
  ∃ h, e.asks = some (s, h) ∧ e.step.worker = w ∧ s < h.stores.length ∧
    (h.connection w s).1 = .ok c

/-- Whether a worker closes its connection of a store, or all connections of a store. -/
def isClosing (e : Event) : Bool :=
  match e.step.operation with
  | .close _ => true
  | .closeAll _ => true
  | _ => false

/-- A connection was open before the step, and closing it or all has closed it. -/
def Closes (e : Event) (c : ConnectionId) : Prop :=
  e.isClosing = true ∧ (e.before.engine.connection c).isOpen = true ∧
    (e.after.engine.connection c).isOpen = false

end Event

section

variable {h : Host} {given : StoreId → Worker → ConnectionId → Prop} {gone : ConnectionId → Prop}
  {w : Worker} {s : StoreId}

theorem putRow_continues (h : Host) (w : Worker) (s : StoreId) (key : Bytes) (family : Text)
    (cells : Cells) : (h.connection w s).2.Continues (h.putRow w s key family cells).2 := by
  refine putRow_leaves (fun e h' heq => ?_) (fun c h' heq => ?_)
  · rw [heq]
    exact ⟨rfl, .refl _⟩
  · rw [heq]
    exact ⟨rfl, Engine.standing_put h'.engine c key family cells⟩

theorem dropTable_continues (h : Host) (w : Worker) (s : StoreId) :
    (h.connection w s).2.Continues (h.dropTable w s).2 := by
  unfold dropTable
  split
  · next heq => rw [heq]; exact ⟨rfl, .refl _⟩
  · next c h' heq => rw [heq]; exact ⟨rfl, Engine.standing_dropTable h'.engine c⟩

theorem checkpoint_continues (h : Host) (w : Worker) (s : StoreId) :
    (h.connection w s).2.Continues (h.checkpoint w s) := by
  obtain ⟨log, hcheckpoint⟩ := checkpoint_eq h w s
  rw [hcheckpoint]
  exact ⟨rfl, .refl _⟩

theorem openScanner_continues (h : Host) (w : Worker) (s : StoreId) (scan : Scan) :
    (h.connection w s).2.Continues (h.openScanner w s scan).2 := by
  obtain ⟨scanners, hopen⟩ := openScanner_eq h w s scan
  rw [hopen]
  exact ⟨rfl, .refl _⟩

theorem bootstrap_continues {disk : Disk}
    (hmake : h.engine.disk.makeParents (h.store s).path = .ok disk) (w : Worker) :
    (Host.connection w s { h with engine := { h.engine with disk } }).2.Continues
      (h.bootstrap w s).2 := by
  unfold bootstrap
  dsimp only
  rw [hmake]
  dsimp only
  split
  · next heq => rw [heq]; exact ⟨rfl, .refl _⟩
  · next c h' heq =>
    rw [heq]
    have htable := Engine.standing_ensureTable h'.engine c
    split <;> next heq => rw [heq] at htable; exact ⟨rfl, htable⟩

theorem pull_continues (h : Host) (it : IterationId) : h.Continues (h.pull it).2 := by
  refine ⟨stores_pull h it, ?_⟩
  unfold pull
  dsimp only
  split
  · exact .refl _
  · split
    · exact Engine.standing_afterRead _ _
    · exact .refl _

theorem closeScanner_continues (h : Host) (i : ScannerId) : h.Continues (h.closeScanner i).2 := by
  obtain ⟨scanners, hclose⟩ := closeScanner_eq h i
  rw [hclose]
  exact ⟨rfl, .refl _⟩

theorem not_hands {e : Event} (hasks : e.asks = none) (w : Worker) (s : StoreId)
    (c : ConnectionId) : ¬ e.Hands s w c := by
  rintro ⟨asked, hasked, -⟩
  rw [hasks] at hasked
  cases hasked

theorem not_closes {e : Event} (hcloses : e.isClosing = false) (c : ConnectionId) :
    ¬ e.Closes c := by
  rintro ⟨hclosing, -⟩
  rw [hcloses] at hclosing
  cases hclosing

theorem Ledger.unasked (hl : h.Ledger given gone) {e : Event} (hasks : e.asks = none)
    (hcloses : e.isClosing = false) :
    h.Ledger (fun s w c => given s w c ∨ e.Hands s w c) (fun c => gone c ∨ e.Closes c) :=
  hl.of_iff (fun s w c => or_iff_left (not_hands hasks w s c))
    fun c => or_iff_left (not_closes hcloses c)

theorem Ledger.asked (hl : h.Ledger given gone) {e : Event} {h' : Host}
    (hasks : e.asks = some (s, h)) (hcloses : e.isClosing = false)
    (hf : (h.connection e.step.worker s).2.Continues h') :
    h'.Ledger (fun s w c => given s w c ∨ e.Hands s w c) (fun c => gone c ∨ e.Closes c) := by
  refine ((ledger_connection hl e.step.worker s).continues hf).of_iff
    (fun s' w' c => or_congr_right ⟨?_, ?_⟩) fun c => or_iff_left (not_closes hcloses c)
  · rintro ⟨asked, hasked, rfl, hin, hc⟩
    rw [hasks] at hasked
    cases hasked
    exact ⟨rfl, rfl, hin, hc⟩
  · rintro ⟨rfl, rfl, hin, hc⟩
    exact ⟨h, hasks, rfl, hin, hc⟩

theorem Ledger.closing {e : Event} {h' : Host}
    (hledger : h'.Ledger given (fun c => gone c ∨ (e.before.engine.connection c).isOpen = true ∧
      (e.after.engine.connection c).isOpen = false)) (hasks : e.asks = none)
    (hcloses : e.isClosing = true) :
    h'.Ledger (fun s w c => given s w c ∨ e.Hands s w c) (fun c => gone c ∨ e.Closes c) :=
  hledger.of_iff (fun s w c => or_iff_left (not_hands hasks w s c))
    fun _ => or_congr_right (and_iff_right hcloses)

theorem ledger_bootstrap (hl : h.Ledger given gone) (w : Worker) (s : StoreId) (answer : Answer) :
    (h.bootstrap w s).2.Ledger
      (fun s' w' c => given s' w' c ∨ Event.Hands ⟨h, ⟨w, .bootstrap s⟩, answer⟩ s' w' c)
      (fun c => gone c ∨ Event.Closes ⟨h, ⟨w, .bootstrap s⟩, answer⟩ c) := by
  cases hmake : h.engine.disk.makeParents (h.store s).path with
  | error fault =>
    have hsame : (h.bootstrap w s).2 = h := by
      unfold bootstrap
      dsimp only
      rw [hmake]
    rw [hsame]
    refine hl.unasked ?_ rfl
    rw [Event.asks]
    dsimp only
    rw [hmake]
  | ok disk =>
    have hdisk : Ledger given gone { h with engine := { h.engine with disk } } :=
      hl.continues ⟨rfl, Engine.standing_of_connections rfl⟩
    refine hdisk.asked ?_ rfl (bootstrap_continues hmake w)
    rw [Event.asks]
    dsimp only
    rw [hmake]

/-- What one step of any worker hands out and closes. -/
theorem ledger_perform (hl : h.Ledger given gone) {step : Step}
    (hunsevered : ∀ s, step.operation ≠ .sever s) (answer : Answer) :
    (h.perform step).2.Ledger
      (fun s w c => given s w c ∨ Event.Hands ⟨h, step, answer⟩ s w c)
      (fun c => gone c ∨ Event.Closes ⟨h, step, answer⟩ c) := by
  obtain ⟨w, operation⟩ := step
  cases operation with
  | newStore path => exact (ledger_addStore hl path).unasked rfl rfl
  | bootstrap s => exact ledger_bootstrap hl w s answer
  | putRow s key family cells => exact hl.asked rfl rfl (putRow_continues h w s key family cells)
  | checkpoint s => exact hl.asked rfl rfl (checkpoint_continues h w s)
  | close s => exact (ledger_close hl w s).closing rfl rfl
  | closeAll s => exact (ledger_closeAll hl w s).closing rfl rfl
  | newFilter =>
    have hf : h.Continues h.newFilter.2 := ⟨rfl, .refl _⟩
    exact (hl.continues hf).unasked rfl rfl
  | openScanner s scan => exact hl.asked rfl rfl (openScanner_continues h w s scan)
  | iterate i =>
    have hf : h.Continues (h.iterate i).2 := ⟨rfl, .refl _⟩
    exact (hl.continues hf).unasked rfl rfl
  | pull it => exact (hl.continues (pull_continues h it)).unasked rfl rfl
  | closeScanner i => exact (hl.continues (closeScanner_continues h i)).unasked rfl rfl
  | dropTable s => exact hl.asked rfl rfl (dropTable_continues h w s)
  | sever s => exact absurd rfl (hunsevered s)

end

/-! ## Everything since the start -/

/-- What was done since the start, and the host after it. Between two steps anything may happen to
the files and the databases, so that the next connection can be made or not; no connection is closed
behind the back of its store. -/
inductive Past : List Event → Host → Prop where
  | start {h : Host} (hbegins : h.Begins) : Past [] h
  | outside {es : List Event} {h : Host} (engine : Engine) (hpast : Past es h)
      (hsame : engine.connections = h.engine.connections) : Past es { h with engine }
  | step {es : List Event} {h : Host} (step : Step) (hpast : Past es h)
      (hunsevered : ∀ s, step.operation ≠ .sever s) :
      Past (es ++ [⟨h, step, (h.perform step).1⟩]) (h.perform step).2

/-- A store has handed a connection out to a worker. -/
def HandedTo (es : List Event) (s : StoreId) (w : Worker) (c : ConnectionId) : Prop :=
  ∃ e ∈ es, e.Hands s w c

/-- A connection was closed, by its worker or with all connections of its store. -/
def Closed (es : List Event) (c : ConnectionId) : Prop := ∃ e ∈ es, e.Closes c

section

variable {es : List Event} {h : Host} {s : StoreId} {w : Worker} {c : ConnectionId}

theorem past_events (hpast : Past es h) (steps : List Step)
    (hunsevered : ∀ step ∈ steps, ∀ s, step.operation ≠ .sever s) :
    Past (es ++ h.events steps) (h.after steps) := by
  refine run_invariant (fun h es => Past es h) (fun e => ∀ s, e.step.operation ≠ .sever s)
    (fun h prior step hprior hstep => .step step hprior hstep) steps hpast fun e he => ?_
  exact hunsevered e.step (step_mem_of_mem_events he)

theorem Begins.ledger (hbegins : h.Begins) : h.Ledger (HandedTo []) (Closed []) := by
  have hnone : ∀ s w c, ¬ HandedTo [] s w c := by
    rintro s w c ⟨e, he, -⟩
    cases he
  have hstore : ∀ s, h.store s = { path := [] } :=
    fun s => store_of_ge (by rw [hbegins.stores]; exact Nat.zero_le s)
  refine ⟨?_, ?_, ?_, ?_, ?_, ?_, ?_, ?_, ?_⟩
  · exact fun s w c hc => absurd hc (hnone s w c)
  · exact fun s w s' w' c hc => absurd hc (hnone s w c)
  · intro s w c hc
    rw [hstore] at hc
    cases hc
  · intro s w g hg
    rw [hstore] at hg
    cases hg
  · exact fun s w c hc => absurd hc (hnone s w c)
  · exact fun s w c hc => absurd hc (hnone s w c)
  · rintro c ⟨e, he, -⟩
    cases he
  · intro s c
    rw [hstore]
    refine iff_of_false List.not_mem_nil ?_
    rintro ⟨w, hcurrent⟩
    cases hcurrent
  · intro s
    rw [hstore]
    exact List.nodup_nil

/-- The ledger of everything done since the start. -/
theorem Past.ledger (hpast : Past es h) : h.Ledger (HandedTo es) (Closed es) := by
  induction hpast with
  | start hbegins => exact hbegins.ledger
  | outside engine hpast hsame ih => exact ih.continues ⟨rfl, Engine.standing_of_connections hsame⟩
  | @step es h step hpast hunsevered ih =>
    refine (ledger_perform ih hunsevered (h.perform step).1).of_iff (fun s w c => ?_) fun c => ?_
    · simp only [HandedTo, List.mem_append, List.mem_singleton, or_and_right, exists_or,
        exists_eq_left]
    · simp only [Closed, List.mem_append, List.mem_singleton, or_and_right, exists_or,
        exists_eq_left]

theorem Past.before {front back : List Event} {e : Event} (hpast : Past es h)
    (hes : es = front ++ e :: back) : Past front e.before := by
  induction hpast generalizing back with
  | start hbegins => simp at hes
  | outside engine hpast hsame ih => exact ih hes
  | @step es h step hpast hunsevered ih =>
    rcases List.eq_nil_or_concat back with rfl | ⟨back, last, rfl⟩
    · obtain ⟨rfl, hlast⟩ := List.append_inj' hes rfl
      obtain rfl := (List.cons.inj hlast).1
      exact hpast
    · rw [List.concat_eq_append, ← List.cons_append, ← List.append_assoc] at hes
      exact ih (List.append_inj' hes rfl).1

end

/-! ## Asking and closing -/

section

variable {h : Host} {given : StoreId → Worker → ConnectionId → Prop} {gone : ConnectionId → Prop}
  {s : StoreId} {c : ConnectionId}

theorem Ledger.slot_iff (hl : h.Ledger given gone) (hopen : (h.engine.connection c).isOpen = true)
    (w : Worker) : ((h.store s).slot w).connection = some c ↔ given s w c := by
  refine ⟨hl.slot s w c, fun hgiven => ?_⟩
  have hcurrent := (hl.current s w c hgiven).2 ((hl.isOpen s w c hgiven).1 hopen)
  exact (Store.current?_eq_some_iff.1 hcurrent).2

theorem Ledger.mem_iff (hl : h.Ledger given gone) :
    c ∈ (h.store s).connections ↔ (∃ w, given s w c) ∧ ¬ gone c := by
  rw [hl.listed]
  constructor
  · rintro ⟨w, hcurrent⟩
    have hgiven := (hl.of_current hcurrent).1
    exact ⟨⟨w, hgiven⟩, (hl.current s w c hgiven).1 hcurrent⟩
  · rintro ⟨⟨w, hgiven⟩, hkept⟩
    exact ⟨w, (hl.current s w c hgiven).2 hkept⟩

theorem Ledger.isOpen_close (hl : h.Ledger given gone) (w : Worker) :
    ((h.close w s).engine.connection c).isOpen = true ↔
      (h.engine.connection c).isOpen = true ∧ ¬ given s w c := by
  have hslot : ((h.close w s).engine.connection c).isOpen = true ↔
      (h.engine.connection c).isOpen = true ∧ ((h.store s).slot w).connection ≠ some c := by
    unfold close
    dsimp only
    split
    · next hnone => simp [hnone]
    · next x hx =>
      change ((h.engine.close x).connection c).isOpen = true ↔ _
      by_cases hc : c = x
      · rw [hc, hx, Engine.connection_close]
        simp
      · rw [hx, Engine.connection_close_of_ne hc]
        simp [Ne.symm hc]
  rw [hslot]
  exact and_congr_right fun hopen => not_congr (hl.slot_iff hopen w)

/-- Closing all closes what the store has given to anybody, and nothing else. -/
theorem Ledger.isOpen_closeAll (hl : h.Ledger given gone) (w : Worker) :
    ((h.closeAll w s).engine.connection c).isOpen = true ↔
      (h.engine.connection c).isOpen = true ∧ ∀ w', ¬ given s w' c := by
  have hlist : ((h.closeAll w s).engine.connection c).isOpen = true ↔
      (h.engine.connection c).isOpen = true ∧ c ∉ (h.store s).connections := by
    change (((h.store s).connections.foldl Engine.close h.engine).connection c).isOpen = true ↔ _
    by_cases hc : c ∈ (h.store s).connections
    · simp [closed_of_mem hc, hc]
    · simp [connection_foldl_close hc, hc]
  rw [hlist, ← not_exists]
  refine and_congr_right fun hopen => not_congr (hl.mem_iff.trans (and_iff_left_of_imp ?_))
  rintro ⟨w', hgiven⟩
  exact (hl.isOpen s w' c hgiven).1 hopen

/-- A connection that a worker gets is open, and was never given to anybody else. -/
theorem Ledger.got (hl : h.Ledger given gone) {w : Worker} (hin : s < h.stores.length) {h' : Host}
    (hconnection : h.connection w s = (.ok c, h')) :
    (h'.engine.connection c).isOpen = true ∧ ¬ gone c ∧
      ∀ s' w', given s' w' c → s' = s ∧ w' = w := by
  have hafter := ledger_connection hl w s
  rw [hconnection] at hafter
  have hcurrent := current?_connection hin hconnection
  obtain ⟨hgiven, hopen⟩ := hafter.of_current hcurrent
  refine ⟨hopen, (hafter.current s w c hgiven).1 hcurrent, fun s' w' hother => ?_⟩
  exact hafter.single s w s' w' c hgiven (.inl hother)

end

/-- What the connections of a store are at some time, and what asking for one and closing them
comes to. -/
structure Accounts (es : List Event) (h : Host) (s : StoreId) : Prop where
  nodup : (h.store s).connections.Nodup
  listed : ∀ c, c ∈ (h.store s).connections ↔ (∃ w, HandedTo es s w c) ∧ ¬ Closed es c
  usable : ∀ w c, ((h.store s).slot w).connection = some c →
    ((h.store s).slot w).generation = some (h.store s).generation →
      (h.engine.connection c).isOpen = true ∧ c ∈ (h.store s).connections ∧
        ∀ s' w', ((h.store s').slot w').connection = some c → s' = s ∧ w' = w
  get : ∀ w c h', h.connection w s = (.ok c, h') →
    (h'.engine.connection c).isOpen = true ∧ ¬ Closed es c ∧
      ∀ s' w', HandedTo es s' w' c → s' = s ∧ w' = w
  close : ∀ w c, ((h.close w s).engine.connection c).isOpen = true ↔
    (h.engine.connection c).isOpen = true ∧ ¬ HandedTo es s w c
  closeAll : ∀ w c, ((h.closeAll w s).engine.connection c).isOpen = true ↔
    (h.engine.connection c).isOpen = true ∧ ∀ w', ¬ HandedTo es s w' c
  fresh : ∀ front e back, es = front ++ e :: back → e.step.operation = .closeAll s →
    ∀ w c h', h.connection w s = (.ok c, h') → ∀ s' w', ¬ HandedTo front s' w' c

/-- **Connections are accounted for.** Whatever any workers have done with a host, in any order, a
store lists each connection once that it has handed out and that was not closed since. A worker's
connection of the current generation is open, is listed, and is in nobody else's slot. Who asks for
a connection never gets one that was closed or that somebody else was ever given, and after all were
closed gets none of those before. Closing closes what the worker was given and nothing else; closing
all closes what anybody was given. -/
theorem connections_are_accounted_for {es : List Event} {h : Host} (hpast : Past es h) {s : StoreId}
    (hin : s < h.stores.length) : Accounts es h s := by
  have hl := hpast.ledger
  refine ⟨hl.nodup s, fun c => hl.mem_iff, ?_, fun w c h' => hl.got hin,
    fun w c => hl.isOpen_close w, fun w c => hl.isOpen_closeAll w, ?_⟩
  · intro w c hslot hgeneration
    have hcurrent := Store.current?_eq_some_iff.2 ⟨hgeneration, hslot⟩
    obtain ⟨hgiven, hopen⟩ := hl.of_current hcurrent
    refine ⟨hopen, (hl.listed s c).2 ⟨w, hcurrent⟩, fun s' w' hother => ?_⟩
    exact hl.single s w s' w' c hgiven (hl.slot s' w' c hother)
  · intro front e back hes hcloses w c h' hconnection s' w' hbefore
    obtain ⟨-, hkept, honly⟩ := hl.got hin hconnection
    have hmem : ∀ x ∈ front, x ∈ es := fun x hx => hes ▸ List.mem_append_left _ hx
    obtain ⟨x, hx, hhands⟩ := hbefore
    obtain ⟨rfl, rfl⟩ := honly s' w' ⟨x, hmem x hx, hhands⟩
    have hfront := (hpast.before hes).ledger
    have hgiven : HandedTo front s' w' c := ⟨x, hx, hhands⟩
    by_cases hlost : Closed front c
    · obtain ⟨y, hy, hclosed⟩ := hlost
      exact hkept ⟨y, hmem y hy, hclosed⟩
    · -- The connection was open when all were closed.
      have hopen := (hfront.isOpen s' w' c hgiven).2 hlost
      refine hkept ⟨e, by rw [hes]; simp, ?_, hopen, ?_⟩
      · rw [Event.isClosing, hcloses]
      · rw [Event.after, perform, hcloses]
        refine Bool.eq_false_iff.2 fun hstill => ?_
        exact ((hfront.isOpen_closeAll _).1 hstill).2 w' hgiven

/-- A worker whose connection was closed with all others closes it once more and then comes back. -/
def returningSteps : List Step :=
  let other : Worker := .named (text "w")
  [⟨.main, .newStore (text "usage.db")⟩, ⟨.main, .bootstrap 0⟩, ⟨other, .checkpoint 0⟩,
    ⟨.main, .closeAll 0⟩, ⟨other, .close 0⟩, ⟨.requests, .checkpoint 0⟩, ⟨other, .checkpoint 0⟩]

theorem returningSteps_are_accounted_for :
    Accounts ((ofDisk ⟨[], []⟩).events returningSteps) ((ofDisk ⟨[], []⟩).after returningSteps) 0 ∧
      (((ofDisk ⟨[], []⟩).after returningSteps).store 0).connections = [2, 3] := by
  have hunsevered : ∀ step ∈ returningSteps, ∀ s, step.operation ≠ .sever s := by
    simp [returningSteps]
  exact ⟨connections_are_accounted_for
    (past_events (.start begins_empty) returningSteps hunsevered) (by decide), rfl⟩

end HourlyUsage.Host
