import HourlyUsage.Query.Source
/-!
# Collecting records

A query pulls rows from a source until it has enough records. `Delivers` says which rows a source
has to give; what the query makes of them does not depend on where they come from.

Sources: the loop of `_create_from_results`.

Results:
* `collect_delivers`: a query gets the records of the first rows, as many as are wanted, or the first
  failure to read one.
* `run_of_failed`: a query fails as its first pull does.
-/
namespace HourlyUsage.Query

variable {σ κ ε : Type}

/-! ## Doing something that can fail for each element of a list -/

section

variable {α β : Type} {f : α → Except ε β} {l : List α}

end

/-! ## Rows from a source -/

/-- Pulls give these rows, one after the other, and then the end. -/
def Delivers (pull : σ → Pull ε × σ) : List Row → σ → Prop
  | [], s => (pull s).1 = .ended
  | row :: rest, s => (pull s).1 = .row row ∧ Delivers pull rest (pull s).2

/-- A query gets the records of the first rows, as many as are wanted, up to the first one that has
none. -/
theorem collect_delivers {pull : σ → Pull ε × σ} {limit fuel : Nat} {acc : List Record}
    {rows : List Row} {s : σ} (h : Delivers pull rows s)
    (hfull : ∀ row ∈ rows, row.isEmpty = false) (hfuel : rows.length < fuel)
    (hlimit : acc.length < limit) :
    (collect pull limit fuel acc s).1 =
      ((rows.take (limit - acc.length)).mapM recordOf).map (acc.reverse ++ ·) := by
  induction rows generalizing fuel acc s with
  | nil =>
    obtain ⟨fuel, rfl⟩ := Nat.exists_eq_succ_of_ne_zero (Nat.ne_of_gt hfuel)
    have hpull : pull s = (.ended, (pull s).2) := Prod.ext h rfl
    rw [collect, hpull, List.take_nil, List.mapM_nil]
    exact congrArg Except.ok (List.append_nil _).symm
  | cons row rest ih =>
    obtain ⟨fuel, rfl⟩ := Nat.exists_eq_succ_of_ne_zero (Nat.ne_of_gt (Nat.zero_lt_of_lt hfuel))
    obtain ⟨hrow, hrest⟩ := h
    have hpull : pull s = (.row row, (pull s).2) := Prod.ext hrow rfl
    have hleft : limit - acc.length = (limit - (acc.length + 1)) + 1 := by omega
    rw [collect, hpull, hleft, List.take_succ_cons, List.mapM_cons]
    dsimp only
    rw [hfull row (List.mem_cons_self ..), if_neg Bool.false_ne_true]
    cases hread : recordOf (ε := ε) row with
    | error e => rfl
    | ok record =>
      dsimp only
      split
      · next hdone =>
        have hzero : limit - (acc.length + 1) = 0 := by omega
        rw [hzero, List.take_zero, List.reverse_cons]
        rfl
      · next hmore =>
        rw [ih hrest (fun r hr => hfull r (List.mem_cons_of_mem _ hr))
          (Nat.lt_of_succ_lt_succ hfuel) (by rw [List.length_cons]; omega), List.length_cons,
          List.reverse_cons]
        cases (rest.take (limit - (acc.length + 1))).mapM (recordOf (ε := ε)) with
        | error e => rfl
        | ok records => exact congrArg Except.ok (List.append_assoc ..)

theorem run_eq {source : Source σ κ ε} {cluster : Text} {plan : Plan} {s noted opened : σ}
    {number : Nat} {scanner : κ}
    (hfilter : source.newFilter (source.note (plannedEntry plan) s) = (number, noted))
    (hopen : source.openScanner (plan.scan number) noted = (.ok scanner, opened)) :
    (run source cluster plan s).1 =
      (collect (source.pull scanner) plan.limit (source.bound scanner opened + 1) [] opened).1 := by
  simp only [run, hfilter, hopen]

/-- A plan fails as the first pull does, and closes its scanner. -/
theorem run_of_failed {source : Source σ κ ε} {cluster : Text} {plan : Plan} {s noted opened : σ}
    {number : Nat} {scanner : κ} {e : ε}
    (hfilter : source.newFilter (source.note (plannedEntry plan) s) = (number, noted))
    (hopen : source.openScanner (plan.scan number) noted = (.ok scanner, opened))
    (hpull : (source.pull scanner opened).1 = .failed e) :
    run source cluster plan s = (.error (.source e),
      finish source cluster false scanner (source.pull scanner opened).2) := by
  have hfirst : source.pull scanner opened = (.failed e, (source.pull scanner opened).2) :=
    Prod.ext hpull rfl
  simp only [run, hfilter, hopen]
  rw [collect, hfirst]
  rfl

end HourlyUsage.Query
