import HourlyUsage.Proofs.Table.Reference
import HourlyUsage.Proofs.Table.Rounds
/-!
# Batches that are too large

A fetch fails where its batch has more rows than can be fetched. Behind a full batch the next one is
not longer, and neither is one that begins further up in the same table. So a pull fails with its
first fetch or not at all, and while the table stays as it is the first fetch decides for all.

Sources: the statements of `_fetch_batch`, which fail where they are too large.

Results:
* `batches_of_failed`: a pull that fails has fetched nothing.
* `pull_of_supplied`: a pull whose first fetch does not fail is one without a limit.
* `pull_of_refused`: a pull whose first fetch fails.
* `supplied_of_inside`: in a table that stays as it is only the first fetch of an iteration can fail.
-/
namespace HourlyUsage.Scan

section

variable {ε : Type} {scan : Scan} {view : View ε} {t : Table} {c : Cursor} {e : ε}

/-- If a pull has to fetch, it can. -/
def Supplied (scan : Scan) (view : View ε) : Progress → Prop
  | .fresh => ∃ rows, scan.nextBatch view none = .ok rows
  | .within _ last true => ∃ rows, scan.nextBatch view (some last) = .ok rows
  | .within _ _ false => True
  | .finished => True

theorem supplied_afterFetch {last? : Option Bytes} {rows : List Row}
    (hnext : scan.nextBatch view last? = .ok rows) : scan.Supplied view (scan.afterFetch rows) := by
  obtain ⟨t, htable, rfl, hmost⟩ := nextBatch_eq_ok_iff.1 hnext
  match hafter : scan.afterFetch (scan.batch t last?) with
  | .fresh =>
    unfold afterFetch at hafter
    split at hafter <;> cases hafter
  | .finished => trivial
  | .within _ _ false => trivial
  | .within rows last true =>
    exact ⟨_, nextBatch_eq_ok_iff.2 ⟨t, htable, rfl, fun most e hlimit =>
      Nat.le_trans (length_batch_behind hafter) (hmost most e hlimit)⟩⟩

theorem pullWithin_of_supplied (htable : view.table = .ok t) (fuel : Nat)
    (hsupplied : scan.Supplied view c.progress) :
    scan.pullWithin view fuel c = scan.pullWithin (.ok t) fuel c := by
  induction fuel generalizing c with
  | zero => rfl
  | succ fuel ih =>
    obtain ⟨progress, spent, m⟩ := c
    have hfetch : ∀ last? spent rows, scan.nextBatch view last? = .ok rows →
        scan.pullWithin view fuel ⟨scan.afterFetch rows, spent, m.fetched⟩ =
          scan.pullWithin (.ok t) fuel
            ⟨scan.afterFetch (scan.batch t last?), spent, m.fetched⟩ := by
      intro last? spent rows hnext
      rw [ih (supplied_afterFetch hnext)]
      obtain ⟨t', htable', rfl, -⟩ := nextBatch_eq_ok_iff.1 hnext
      obtain rfl : t = t' := Except.ok.inj (htable.symm.trans htable')
      rfl
    rw [pullWithin, pullWithin]
    cases progress with
    | finished => rfl
    | fresh =>
      obtain ⟨rows, hnext⟩ := hsupplied
      dsimp only
      rw [hnext]
      exact hfetch none spent rows hnext
    | within pending last more =>
      dsimp only
      cases walk scan.filter spent pending with
      | found row rest spent => rfl
      | «over» spent => rfl
      | through spent =>
        cases more with
        | false => rfl
        | true =>
          obtain ⟨rows, hnext⟩ := hsupplied
          dsimp only [if_true]
          rw [hnext]
          exact hfetch (some last) spent rows hnext

/-- A pull whose first fetch does not fail is one without a limit. -/
theorem pull_of_supplied (htable : view.table = .ok t) (hsupplied : scan.Supplied view c.progress) :
    scan.pull view c = scan.pull (.ok t) c := by
  rw [pull, pull, htable, pullWithin_of_supplied htable _ hsupplied]
  rfl

theorem pullWithin_ok_ne_failed (fuel : Nat) :
    (scan.pullWithin (.ok t) fuel c).1 ≠ .failed e := by
  intro hfailed
  obtain ⟨last?, hnext⟩ := failed_pullWithin hfailed
  cases hnext

/-- A pull that fails has fetched nothing. -/
theorem batches_of_failed (hfailed : (scan.pull view c).1 = .failed e) :
    scan.batches view c = [] := by
  have hsound := round_sound scan view c
  rw [pull, pullWithin_succ] at hfailed
  rw [batches, batchesWithin]
  generalize scan.round view c = round at hsound hfailed ⊢
  cases hsound with
  | row | ended | failed => rfl
  | fetched hnext hprogress _ =>
    obtain ⟨t, htable, -⟩ := nextBatch_eq_ok_iff.1 hnext
    dsimp only at hfailed
    rw [pullWithin_of_supplied htable _ (hprogress ▸ supplied_afterFetch hnext)] at hfailed
    exact absurd hfailed (pullWithin_ok_ne_failed _)

/-- The first pull of an iteration fails with its fetch, which leaves memory and counters alone. -/
theorem pull_of_refused (hfresh : c.progress = .fresh) (hnext : scan.nextBatch view none = .error e) :
    scan.pull view c = (.failed e, ⟨.finished, c.spent, c.metrics⟩) := by
  rw [pull, pullWithin, hfresh]
  dsimp only
  rw [hnext]

/-! ## Tables that stay as they are -/

theorem length_batch_le {last : Bytes} (hlast : scan.inRange none last = true) :
    (scan.batch t (some last)).length ≤ (scan.batch t none).length := by
  have hsub : (scan.window t (some last)).length ≤ (scan.window t none).length := by
    rw [window_behind hlast]
    exact List.length_filter_le ..
  rw [batch_eq_cutBatch, batch_eq_cutBatch, cutBatch, cutBatch]
  split
  · exact hsub
  · rw [List.length_take, List.length_take]
    omega

/-- Where the first batch can be fetched, all can. -/
theorem supplied_of_inside (htable : view.table = .ok t) (hfirst : scan.Supplied view .fresh)
    {p : Progress} (hinside : scan.Inside t p) : scan.Supplied view p := by
  match p with
  | .fresh => exact hfirst
  | .finished => trivial
  | .within _ _ false => trivial
  | .within _ last true =>
    obtain ⟨rows, hnext⟩ := hfirst
    obtain ⟨t', htable', rfl, hmost⟩ := nextBatch_eq_ok_iff.1 hnext
    obtain rfl : t = t' := Except.ok.inj (htable.symm.trans htable')
    exact ⟨_, nextBatch_eq_ok_iff.2 ⟨t, htable, rfl, fun most e hlimit =>
      Nat.le_trans (length_batch_le hinside.2) (hmost most e hlimit)⟩⟩

end

end HourlyUsage.Scan
