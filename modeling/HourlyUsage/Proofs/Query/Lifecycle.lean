import HourlyUsage.Proofs.Query.Calls
import HourlyUsage.Proofs.Query.Failing
import HourlyUsage.Proofs.Table.Cost
import HourlyUsage.Query.Scripted
/-!
# The life of a scanner

A query opens one scanner, pulls rows from it and closes it, whatever the rows are and however they
end. `Shortest` says which rows it pulls, `answerOf` what it makes of them; neither hangs on how
closing the scanner goes.

Sources: `list_by_prefix`, `_create_from_results`, `_close_scanner`, `_log_scan`, on any scanner.

Hypotheses: the arguments have a plan. The source is arbitrary: opening, any pull and closing may
fail; its rows and their end are those that it gives (`Gives`).

Results:
* `collect_row`: one more row, and whether the collection goes on.
* `collect_gives`: what is collected from any rows with any end, and the pulls that it takes.
* `run_gives`: a plan on a scanner that was opened.
* `scanner_is_closed_once`: what a query asks of its source, call by call.
-/
namespace HourlyUsage.Query

/-! ## Which rows are pulled -/

def isRead (row : Row) : Bool :=
  match SnapshotKey.decode row.key with
  | .error _ => false
  | .ok key =>
    match Record.ofRow key row with
    | .error _ => false
    | .ok _ => true

def filled (rows : List Row) : List Row := rows.filter (!·.isEmpty)

/-- After these rows nothing more is pulled: they hold as many rows with cells as are wanted, or one
that has no record. -/
def Sated (limit : Nat) (run : List Row) : Prop :=
  limit ≤ (filled run).length ∨ ∃ row ∈ filled run, isRead row = false

instance (limit : Nat) (run : List Row) : Decidable (Sated limit run) :=
  inferInstanceAs (Decidable (_ ∨ _))

/-- The shortest of the first rows after which nothing more is pulled, or all rows. -/
structure Shortest (limit : Nat) (rows run : List Row) : Prop where
  front : run <+: rows
  least : ∀ shorter, shorter <+: run → Sated limit shorter → shorter = run
  enough : Sated limit run ∨ run = rows

section

variable {limit left : Nat} {row : Row} {rest run : List Row}

theorem filled_cons_of_isEmpty (hempty : row.isEmpty = true) :
    filled (row :: run) = filled run := by
  rw [filled, List.filter_cons, hempty]
  rfl

theorem filled_cons_of_full (hfull : row.isEmpty = false) :
    filled (row :: run) = row :: filled run := by
  rw [filled, List.filter_cons, hfull]
  rfl

theorem sated_cons_of_isEmpty (hempty : row.isEmpty = true) :
    Sated limit (row :: run) ↔ Sated limit run := by
  rw [Sated, Sated, filled_cons_of_isEmpty hempty]

theorem sated_cons_of_isRead (hfull : row.isEmpty = false) (hread : isRead row = true) :
    Sated limit (row :: run) ↔ Sated (limit - 1) run := by
  have hlimit : limit ≤ (filled run).length + 1 ↔ limit - 1 ≤ (filled run).length := by omega
  rw [Sated, Sated, filled_cons_of_full hfull, List.length_cons, hlimit]
  simp [hread]

theorem sated_cons_of_not_isRead (hfull : row.isEmpty = false) (hbroken : isRead row = false) :
    Sated limit (row :: run) := by
  refine .inr ⟨row, ?_, hbroken⟩
  rw [filled_cons_of_full hfull]
  exact List.mem_cons_self ..

theorem not_sated_nil (hlimit : 0 < limit) : ¬ Sated limit [] := by
  rintro (hnone | ⟨row, hrow, -⟩)
  · exact absurd hnone (Nat.not_le_of_lt hlimit)
  · cases hrow

theorem shortest_nil : Shortest limit [] [] where
  front := List.prefix_refl []
  least _ hshorter _ := List.prefix_nil.1 hshorter
  enough := .inr rfl

theorem shortest_singleton (hlimit : 0 < limit) (hsated : Sated limit [row]) :
    Shortest limit (row :: rest) [row] where
  front := ⟨rest, rfl⟩
  least shorter hshorter hsated' := by
    rcases List.prefix_cons_iff.1 hshorter with rfl | ⟨tail, rfl, htail⟩
    · exact absurd hsated' (not_sated_nil hlimit)
    · rw [List.prefix_nil.1 htail]
  enough := .inl hsated

theorem shortest_cons (hlimit : 0 < limit)
    (hsated : ∀ run, Sated limit (row :: run) ↔ Sated left run) (hrun : Shortest left rest run) :
    Shortest limit (row :: rest) (row :: run) where
  front := (List.prefix_cons_inj row).2 hrun.front
  least shorter hshorter hsated' := by
    rcases List.prefix_cons_iff.1 hshorter with rfl | ⟨tail, rfl, htail⟩
    · exact absurd hsated' (not_sated_nil hlimit)
    · rw [hrun.least tail htail ((hsated tail).1 hsated')]
  enough := hrun.enough.imp (hsated run).2 (congrArg (row :: ·))

end

/-! ## What is made of them -/

section

variable {ε : Type}

theorem isRead_iff {row : Row} :
    isRead row = true ↔ ∃ record, recordOf (ε := ε) row = .ok record := by
  unfold isRead recordOf
  cases SnapshotKey.decode row.key with
  | error e => simp
  | ok key => cases hrecord : Record.ofRow key row <;> simp [hrecord]

theorem isRead_of_error {row : Row} {e : Failure ε} (herror : recordOf row = .error e) :
    isRead row = false := by
  refine Bool.eq_false_iff.2 fun hread => ?_
  obtain ⟨record, hrecord⟩ := isRead_iff.1 hread
  rw [herror] at hrecord
  cases hrecord

/-- How rows end: as they should, or in a failure. -/
def ending : Option ε → Pull ε
  | none => .ended
  | some e => .failed e

def pullsOf (limit : Nat) (failure? : Option ε) (run : List Row) : List (Pull ε) :=
  run.map .row ++ if Sated limit run then [] else [ending failure?]

/-- The answer of a query that pulls these rows: the failure of the source if it was met, and else
the records of the rows with cells, or why the first of them that has no record has none. -/
def answerOf (limit : Nat) (failure? : Option ε) (run : List Row) :
    Except (Failure ε) (List Record) :=
  match if Sated limit run then none else failure? with
  | some e => .error (.source e)
  | none => (filled run).mapM recordOf

section

variable {limit left : Nat} {row : Row} (failure? : Option ε) (run : List Row)

theorem pullsOf_cons (hsated : ∀ run, Sated limit (row :: run) ↔ Sated left run) :
    pullsOf limit failure? (row :: run) = .row row :: pullsOf left failure? run := by
  simp only [pullsOf, hsated, List.map_cons, List.cons_append]

theorem pullsOf_singleton (hsated : Sated limit [row]) :
    pullsOf limit failure? [row] = [.row row] := by
  rw [pullsOf, if_pos hsated]
  rfl

theorem answerOf_cons_of_isEmpty (hempty : row.isEmpty = true) :
    answerOf limit failure? (row :: run) = answerOf limit failure? run := by
  simp only [answerOf, sated_cons_of_isEmpty hempty, filled_cons_of_isEmpty hempty]

theorem answerOf_cons_of_record (hfull : row.isEmpty = false) {record : Record}
    (hrecord : recordOf (ε := ε) row = .ok record) :
    answerOf limit failure? (row :: run) =
      (answerOf (limit - 1) failure? run).map (record :: ·) := by
  simp only [answerOf, sated_cons_of_isRead hfull (isRead_iff.2 ⟨record, hrecord⟩),
    filled_cons_of_full hfull]
  split
  · rfl
  · rw [List.mapM_cons, hrecord]
    cases (filled run).mapM (recordOf (ε := ε)) <;> rfl

theorem answerOf_singleton (hfull : row.isEmpty = false) (hsated : Sated limit [row]) :
    answerOf limit failure? [row] = (recordOf row).map ([·]) := by
  have hfilled : filled [row] = [row] := filled_cons_of_full hfull
  rw [answerOf, if_pos hsated, hfilled, List.mapM_cons, List.mapM_nil]
  cases recordOf (ε := ε) row <;> rfl

end

end

/-! ## Scanners -/

variable {σ κ ε : Type}

/-- Pulls give these rows, one after the other, and then how they end. -/
def Gives (pull : σ → Pull ε × σ) (failure? : Option ε) : List Row → σ → Prop
  | [], s => (pull s).1 = ending failure?
  | row :: rest, s => (pull s).1 = .row row ∧ Gives pull failure? rest (pull s).2

def Totals (rows : List Row) (m : Metrics) : Prop := ∃ roundTrips, m = .ofRows rows roundTrips

/-- The scanner counts each row when it hands it over. Batches may be counted at any time. -/
structure Source.Counts (source : Source σ κ ε) (scanner : κ) : Prop where
  row : ∀ s row, (source.pull scanner s).1 = .row row → ∃ roundTrips,
    source.metrics scanner (source.pull scanner s).2 =
      { (source.metrics scanner s).record row with roundTrips }
  stop : ∀ s failure?, (source.pull scanner s).1 = ending failure? → ∃ roundTrips,
    source.metrics scanner (source.pull scanner s).2 = { source.metrics scanner s with roundTrips }
  close : ∀ s, ∃ roundTrips,
    source.metrics scanner (source.close scanner s).2 = { source.metrics scanner s with roundTrips }
  note : ∀ entry s, source.metrics scanner (source.note entry s) = source.metrics scanner s

section

variable {source : Source σ κ ε} {scanner : κ} {rows front : List Row} {row : Row}
  {failure? : Option ε} {s : σ}

theorem totals_row (hcounts : source.Counts scanner)
    (hrow : (source.pull scanner s).1 = .row row)
    (htotals : Totals front (source.metrics scanner s)) :
    Totals (front ++ [row]) (source.metrics scanner (source.pull scanner s).2) := by
  obtain ⟨before, hbefore⟩ := htotals
  obtain ⟨after, hafter⟩ := hcounts.row s row hrow
  rw [hafter, hbefore, Metrics.record_ofRows]
  exact ⟨after, rfl⟩

theorem totals_stop (hcounts : source.Counts scanner)
    (hstop : (source.pull scanner s).1 = ending failure?)
    (htotals : Totals front (source.metrics scanner s)) :
    Totals front (source.metrics scanner (source.pull scanner s).2) := by
  obtain ⟨before, hbefore⟩ := htotals
  obtain ⟨after, hafter⟩ := hcounts.stop s failure? hstop
  rw [hafter, hbefore]
  exact ⟨after, rfl⟩

theorem totals_closed (hcounts : source.Counts scanner)
    (htotals : Totals front (source.metrics scanner s)) :
    Totals front (source.metrics scanner (source.closed scanner s)) := by
  obtain ⟨before, hbefore⟩ := htotals
  obtain ⟨after, hafter⟩ := hcounts.close s
  unfold Source.closed
  split
  · next hclose =>
    rw [hclose] at hafter
    rw [hafter, hbefore]
    exact ⟨after, rfl⟩
  · next hclose =>
    rw [hclose] at hafter
    rw [hcounts.note, hafter, hbefore]
    exact ⟨after, rfl⟩

/-- What a collection has come to, the calls kept: it has pulled the shortest run for the records
still wanted, and each row of it was counted. -/
def Collected (source : Source σ κ ε) (scanner : κ) (failure? : Option ε) (left : Nat)
    (acc : List Record) (rows : List Row) (s : σ) (calls : List (Call κ ε))
    (result : Except (Failure ε) (List Record) × σ × List (Call κ ε)) : Prop :=
  ∃ run after, Shortest left rows run ∧
    result = ((answerOf left failure? run).map (acc.reverse ++ ·), after,
      calls ++ (pullsOf left failure? run).map (.pulled scanner)) ∧
    (source.Counts scanner → ∀ front, Totals front (source.metrics scanner s) →
      Totals (front ++ run) (source.metrics scanner after))

section

variable {left left' : Nat} {acc acc' : List Record} {rest : List Row} {calls : List (Call κ ε)}

theorem collected_nil (acc : List Record) (calls : List (Call κ ε))
    (hended : (source.pull scanner s).1 = ending failure?) (hleft : 0 < left) :
    Collected source scanner failure? left acc [] s calls
      ((answerOf left failure? []).map (acc.reverse ++ ·), (source.pull scanner s).2,
        calls ++ [.pulled scanner (ending failure?)]) := by
  refine ⟨[], (source.pull scanner s).2, shortest_nil, ?_, fun hcounts front htotals => ?_⟩
  · rw [pullsOf, if_neg (not_sated_nil hleft)]
    rfl
  · rw [List.append_nil]
    exact totals_stop hcounts hended htotals

theorem collected_last (hrow : (source.pull scanner s).1 = .row row) (hleft : 0 < left)
    (hsated : Sated left [row]) :
    Collected source scanner failure? left acc (row :: rest) s calls
      ((answerOf left failure? [row]).map (acc.reverse ++ ·), (source.pull scanner s).2,
        calls ++ [.pulled scanner (.row row)]) := by
  refine ⟨[row], _, shortest_singleton hleft hsated, ?_, fun hcounts _ => totals_row hcounts hrow⟩
  rw [pullsOf_singleton failure? hsated]
  rfl

theorem collected_more {result : Except (Failure ε) (List Record) × σ × List (Call κ ε)}
    (hrow : (source.pull scanner s).1 = .row row) (hleft : 0 < left)
    (hsated : ∀ run, Sated left (row :: run) ↔ Sated left' run)
    (hanswer : ∀ run, (answerOf left' failure? run).map (acc'.reverse ++ ·) =
      (answerOf left failure? (row :: run)).map (acc.reverse ++ ·))
    (hrest : Collected source scanner failure? left' acc' rest (source.pull scanner s).2
      (calls ++ [.pulled scanner (.row row)]) result) :
    Collected source scanner failure? left acc (row :: rest) s calls result := by
  obtain ⟨run, after, hshortest, hresult, htotals⟩ := hrest
  refine ⟨row :: run, after, shortest_cons hleft hsated hshortest, ?_, fun hcounts front h => ?_⟩
  · rw [hresult, hanswer, pullsOf_cons failure? run hsated, List.append_assoc]
    rfl
  · have hfront := htotals hcounts (front ++ [row]) (totals_row hcounts hrow h)
    rwa [List.append_assoc] at hfront

end

section

variable {limit fuel : Nat} {acc : List Record} {rest : List Row} (calls : List (Call κ ε))

theorem collect_end (hended : (source.pull scanner s).1 = ending failure?)
    (hlimit : acc.length < limit) :
    Collected source scanner failure? (limit - acc.length) acc [] s calls
      (collect (source.recorded.pull scanner) limit (fuel + 1) acc (s, calls)) := by
  have hleft : 0 < limit - acc.length := by omega
  have hout : source.pull scanner s = (ending failure?, (source.pull scanner s).2) :=
    Prod.ext hended rfl
  have hnil := collected_nil acc calls hended hleft
  rw [answerOf, if_neg (not_sated_nil hleft)] at hnil
  rw [collect, pull_recorded, hout]
  cases failure? with
  | none =>
    have hall : (.ok (acc.reverse ++ []) : Except (Failure ε) (List Record)) =
        .ok acc.reverse := by rw [List.append_nil]
    rw [← hall]
    exact hnil
  | some e => exact hnil

/-- A row is pulled; it is skipped, it has no record, or its record is the last one wanted or not. -/
theorem collect_row (hrow : (source.pull scanner s).1 = .row row) (hlimit : acc.length < limit)
    (hmore : ∀ acc, acc.length < limit →
      Collected source scanner failure? (limit - acc.length) acc rest (source.pull scanner s).2
        (calls ++ [.pulled scanner (.row row)])
        (collect (source.recorded.pull scanner) limit fuel acc
          ((source.pull scanner s).2, calls ++ [.pulled scanner (.row row)]))) :
    Collected source scanner failure? (limit - acc.length) acc (row :: rest) s calls
      (collect (source.recorded.pull scanner) limit (fuel + 1) acc (s, calls)) := by
  have hleft : 0 < limit - acc.length := by omega
  have hout : source.pull scanner s = (.row row, (source.pull scanner s).2) := Prod.ext hrow rfl
  have hlast : Sated (limit - acc.length) [row] → row.isEmpty = false →
      Collected source scanner failure? (limit - acc.length) acc (row :: rest) s calls
        (((recordOf row).map ([·])).map (acc.reverse ++ ·), (source.pull scanner s).2,
          calls ++ [.pulled scanner (.row row)]) := by
    intro hsated hfull
    rw [← answerOf_singleton failure? hfull hsated]
    exact collected_last hrow hleft hsated
  rw [collect, pull_recorded, hout]
  dsimp only [kept]
  cases hempty : row.isEmpty with
  | true =>
    rw [if_pos rfl]
    refine collected_more hrow hleft (fun _ => sated_cons_of_isEmpty hempty) (fun _ => ?_)
      (hmore acc hlimit)
    rw [answerOf_cons_of_isEmpty failure? _ hempty]
  | false =>
    rw [if_neg Bool.false_ne_true]
    cases hrecord : recordOf (ε := ε) row with
    | error e =>
      have hbroken := hlast (sated_cons_of_not_isRead hempty (isRead_of_error hrecord)) hempty
      rwa [hrecord] at hbroken
    | ok record =>
      have hread : isRead row = true := isRead_iff.2 ⟨record, hrecord⟩
      dsimp only
      split
      · next hdone =>
        have henough := hlast ((sated_cons_of_isRead hempty hread).2 (.inl (by omega))) hempty
        rw [hrecord] at henough
        rwa [List.reverse_cons]
      · next hmany =>
        have hnext : limit - acc.length - 1 = limit - (record :: acc).length := by
          rw [List.length_cons]
          omega
        refine collected_more hrow hleft (fun run => ?_) (fun run => ?_)
          (hmore (record :: acc) (by rw [List.length_cons]; omega))
        · rw [sated_cons_of_isRead hempty hread, hnext]
        · rw [answerOf_cons_of_record failure? run hempty hrecord, hnext, List.reverse_cons]
          cases answerOf (limit - (record :: acc).length) failure? run with
          | error e => rfl
          | ok records => exact congrArg Except.ok (List.append_assoc ..)

/-- What is collected from a scanner, and the pulls that it takes. -/
theorem collect_gives (hgives : Gives (source.pull scanner) failure? rows s)
    (hfuel : rows.length < fuel) (hlimit : acc.length < limit) :
    Collected source scanner failure? (limit - acc.length) acc rows s calls
      (collect (source.recorded.pull scanner) limit fuel acc (s, calls)) := by
  induction rows generalizing fuel acc s calls with
  | nil =>
    obtain ⟨fuel, rfl⟩ := Nat.exists_eq_succ_of_ne_zero (Nat.ne_of_gt hfuel)
    exact collect_end calls hgives hlimit
  | cons row rest ih =>
    obtain ⟨fuel, rfl⟩ := Nat.exists_eq_succ_of_ne_zero (Nat.ne_of_gt (Nat.zero_lt_of_lt hfuel))
    obtain ⟨hrow, hrest⟩ := hgives
    exact collect_row calls hrow hlimit fun acc hlimit =>
      ih _ hrest (Nat.lt_of_succ_lt_succ hfuel) hlimit

end

end

/-! ## Queries -/

section

variable {source : Source σ κ ε} {cluster : Text} {plan : Plan} {s opened : σ} {scanner : κ}
  {rows : List Row} {failure? : Option ε}

/-- A plan whose scanner was opened gives what its rows give, and closes the scanner. -/
theorem run_gives (hopen : source.opens plan s = (.ok scanner, opened))
    (hgives : Gives (source.pull scanner) failure? rows opened)
    (hbound : rows.length ≤ source.bound scanner opened) (hlimit : 0 < plan.limit)
    (cluster : Text) :
    ∃ run closeFailure? m after, Shortest plan.limit rows run ∧
      Query.run source.recorded cluster plan (s, []) =
        (answerOf plan.limit failure? run, after,
          opening plan (source.prepared plan s).1 (.ok scanner) ++
            (pullsOf plan.limit failure? run).map (.pulled scanner) ++
            closing cluster scanner (succeeded (answerOf plan.limit failure? run))
              closeFailure? m) ∧
      (source.Counts scanner → Totals [] (source.metrics scanner opened) → Totals run m) := by
  have hrecorded := opens_recorded source plan s []
  rw [hopen] at hrecorded
  obtain ⟨run, after, hshortest, hcollect, htotals⟩ := collect_gives
    (opening plan (source.prepared plan s).1 (.ok scanner)) hgives (Nat.lt_succ_of_le hbound)
    (show ([] : List Record).length < plan.limit from hlimit)
  have hwhole : (answerOf plan.limit failure? run).map (([] : List Record).reverse ++ ·) =
      answerOf plan.limit failure? run := by
    cases answerOf plan.limit failure? run <;> rfl
  rw [List.length_nil, Nat.sub_zero, hwhole] at hcollect
  have hcollected : source.recorded.collected scanner plan
      (opened, opening plan (source.prepared plan s).1 (.ok scanner)) =
        (answerOf plan.limit failure? run, after,
          opening plan (source.prepared plan s).1 (.ok scanner) ++
            (pullsOf plan.limit failure? run).map (.pulled scanner)) := hcollect
  refine ⟨run, (source.close scanner after).1, source.metrics scanner (source.closed scanner after),
    finish source cluster (succeeded (answerOf plan.limit failure? run)) scanner after, hshortest,
    ?_, fun hcounts hfresh => totals_closed hcounts (htotals hcounts [] hfresh)⟩
  rw [run_of_opened hrecorded, List.nil_append, hcollected, finish_recorded]

theorem run_with_close (close : κ → σ → Option CloseFailure × σ) :
    (run { source with close } cluster plan s).1 = (run source cluster plan s).1 := by
  have hsame : ({ source with close } : Source σ κ ε).opens plan s = source.opens plan s := rfl
  rcases hopen : source.opens plan s with ⟨e | scanner, after⟩
  · rw [run_of_refused hopen, run_of_refused (hsame.trans hopen)]
  · rw [run_of_opened hopen, run_of_opened (hsame.trans hopen)]
    rfl

end

/-- **A scanner is closed once.** A query with a plan opens one scan. If that fails, so does the
query, and nothing is closed. If there is a scanner, which has any rows up to its bound and any end,
the query pulls the shortest run of the rows that holds enough of them or one that has no record, or
else all of them and their end. The answer hangs on the run and the end alone. The scanner is then
closed, once. If that fails a warning is logged; last of all what the scan has cost is logged, with
the outcome and, where the scanner counts its rows, the totals of the run. -/
theorem scanner_is_closed_once {service : Service} {request : Request} {plan : Plan}
    (hplan : service.plan request = .ok plan) (source : Source σ κ ε) (s : σ) :
    ∃ calls : List (Call κ ε),
      service.list source.recorded request (s, []) =
        ((service.list source request s).1, (service.list source request s).2, calls) ∧
      (∀ close, (service.list { source with close } request s).1 =
        (service.list source request s).1) ∧
      (∀ e after, source.opens plan s = (.error e, after) →
        (service.list source request s).1 = .error (.source e) ∧
        calls = opening plan (source.prepared plan s).1 (.error e)) ∧
      ∀ scanner opened rows failure?, source.opens plan s = (.ok scanner, opened) →
        Gives (source.pull scanner) failure? rows opened →
        rows.length ≤ source.bound scanner opened →
        ∃ run closeFailure? m, Shortest plan.limit rows run ∧
          (service.list source request s).1 = answerOf plan.limit failure? run ∧
          calls = opening plan (source.prepared plan s).1 (.ok scanner) ++
            (pullsOf plan.limit failure? run).map (.pulled scanner) ++
            closing request.cluster scanner (succeeded (answerOf plan.limit failure? run))
              closeFailure? m ∧
          (source.Counts scanner → Totals [] (source.metrics scanner opened) → Totals run m) := by
  have hlist : ∀ {τ : Type} (source : Source τ κ ε) (s : τ),
      service.list source request s = run source request.cluster plan s := by
    intro τ source s
    rw [Service.list, hplan]
  obtain ⟨calls, hcalls⟩ := list_recorded source s [] service request
  refine ⟨calls, hcalls, fun close => ?_, fun e after hopen => ?_,
    fun scanner opened rows failure? hopen hgives hbound => ?_⟩
  · rw [hlist, hlist, run_with_close]
  · have hrecorded := opens_recorded source plan s []
    rw [hopen] at hrecorded
    rw [hlist, hlist, run_of_refused hopen, run_of_refused hrecorded] at hcalls
    rw [hlist, run_of_refused hopen]
    exact ⟨rfl, (congrArg (·.2.2) hcalls).symm⟩
  · obtain ⟨run, closeFailure?, m, after, hshortest, hrun, htotals⟩ :=
      run_gives hopen hgives hbound (limit_of_plan hplan) request.cluster
    rw [hlist, hrun] at hcalls
    exact ⟨run, closeFailure?, m, hshortest, (congrArg (·.1) hcalls).symm,
      (congrArg (·.2.2) hcalls).symm, htotals⟩

theorem counts_scripted : scripted.Counts () where
  row s row hrow := by
    refine ⟨(s.metrics.record row).roundTrips, ?_⟩
    dsimp only [scripted] at hrow ⊢
    unfold ScriptState.pull at hrow ⊢
    split at hrow
    · cases hrow
    · split at hrow
      · cases hrow
      · next hgoes => cases hrow; rw [if_neg hgoes]
  stop s failure? hstop := by
    refine ⟨s.metrics.roundTrips, ?_⟩
    dsimp only [scripted] at hstop ⊢
    unfold ScriptState.pull at hstop ⊢
    split at hstop
    · rfl
    · split at hstop
      · next hbreaks => rw [if_pos hbreaks]
      · cases failure? <;> cases hstop
  close s := ⟨s.metrics.roundTrips, rfl⟩
  note _ _ := rfl

/-- A row without cells, a row that has a record, and a row whose key cannot be read. -/
def mixedRows : List Row :=
  let key := Utf8.points (SnapshotKey.keyText 3600 (text "c") (text "/a"))
  let families := [(infoFamily, [(Column.owner.name, [0x6F])])]
  [⟨key, []⟩, ⟨key, families⟩, ⟨[0xFF], families⟩]

/-- A scan that gives these rows and cannot be closed. -/
def mixedScript : Script := ⟨mixedRows, none, some (text "stuck"), none⟩

def mixedService : Service := ⟨10, by decide⟩

def mixedRequest : Request := ⟨text "c", none, 2, .ofSeconds 4000⟩

def mixedPlan : Plan := ⟨3600, Utf8.points (SnapshotKey.keyText 3600 (text "c") []), 2, 2⟩

/-- A query that meets an unreadable row on a scanner that cannot be closed. -/
theorem mixedScript_is_closed_once :
    ∃ run closeFailure? m, Shortest 2 mixedRows run ∧
      (mixedService.list scripted mixedRequest (.start mixedScript)).1 = answerOf 2 none run ∧
      (mixedService.list scripted.recorded mixedRequest (.start mixedScript, [])).2.2 =
        opening mixedPlan 0 (.ok ()) ++ (pullsOf 2 none run).map (.pulled ()) ++
          closing (text "c") () (succeeded (ε := ScriptFailure) (answerOf 2 none run))
            closeFailure? m ∧
      Totals run m := by
  have hplan : mixedService.plan mixedRequest = .ok mixedPlan := rfl
  obtain ⟨calls, hlist, -, -, hclosed⟩ :=
    scanner_is_closed_once hplan scripted (.start mixedScript)
  obtain ⟨run, closeFailure?, m, hshortest, hanswer, hcalls, htotals⟩ :=
    hclosed () _ mixedRows none rfl ⟨rfl, rfl, rfl, rfl⟩ (Nat.le_refl _)
  rw [hlist]
  exact ⟨run, closeFailure?, m, hshortest, hanswer, hcalls, htotals counts_scripted ⟨0, rfl⟩⟩

end HourlyUsage.Query
