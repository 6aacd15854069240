import HourlyUsage.Proofs.Database.Growth
/-!
# Writes that fail

A write that fails is not taken back: the transaction that it started stays open, with the cells
that were inserted before the one that was refused. They are what the connection sees from then on,
and what its next commit commits.

Sources: the statement of `put_row` that inserts the cells, and the commit that it does not come to.

Results:
* `put_failed`: what a failed write leaves.
* `leftover_unchanged`: when that is what was there before.
-/
namespace HourlyUsage.Engine

variable {e : Engine} {c : ConnectionId}

/-- The cells that a write inserts before it fails: those in front of the first one that is refused,
if it gets the lock. -/
def inserted (e : Engine) (c : ConnectionId) (family : Text) (cells : Cells) : Cells :=
  match e.lock c with
  | .ok _ => accepted family cells
  | .error _ => []

theorem encodable_of_inserted {family : Text} {cells : Cells} {cell : Text × Bytes}
    (h : cell ∈ e.inserted c family cells) : Utf8.Encodable family ∧ Utf8.Encodable cell.1 := by
  have haccepted : cell ∈ accepted family cells := by
    unfold inserted at h
    split at h
    · exact h
    · cases h
  have hnone := List.all_eq_true.1 List.all_takeWhile cell haccepted
  simpa [refusal?, Utf8.encodable_iff, Utf8.surrogatesFrom?_eq_none_iff] using hnone

theorem lock_of_inserted {family : Text} {cells : Cells} (h : e.inserted c family cells ≠ []) :
    ∃ base, e.lock c = .ok base := by
  unfold inserted at h
  split at h
  · next base hlock => exact ⟨base, hlock⟩
  · exact absurd rfl h

/-- The transaction that a failed write leaves open, where the table could be read. -/
def leftover (e : Engine) (c : ConnectionId) (t : Table) (key : Bytes) (family : Text)
    (cells : Cells) : Transaction :=
  if e.inserted c family cells = [] then (e.connection c).transaction.start
  else .writing (some (t.putAll key family (e.inserted c family cells)))

/-- A write that fails leaves its transaction open. -/
theorem put_failed {t : Table} (hview : e.view c = .ok t) {key : Bytes} {family : Text}
    {cells : Cells} {x : WriteError} (hfail : (e.put c key family cells).1 = .error x) :
    (e.put c key family cells).2 = e.setTransaction c (e.leftover c t key family cells) := by
  have hcases := put_cases (lt_of_view hview) key family cells
  generalize e.put c key family cells = result at hfail hcases ⊢
  obtain ⟨outcome, after⟩ := result
  cases hcases with
  | unseen f h => rw [hview] at h; cases h
  | empty _ _ _ => cases hfail
  | committed _ _ _ _ _ => cases hfail
  | refused _ _ _ haccepted _ =>
    have hnone : e.inserted c family cells = [] := by
      unfold inserted
      split
      · exact haccepted
      · rfl
    rw [leftover, if_pos hnone]
    rfl
  | locked _ _ f _ hlock =>
    have hnone : e.inserted c family cells = [] := by rw [inserted, hlock]
    rw [leftover, if_pos hnone]
    rfl
  | stuck t' h _ haccepted hlock _ =>
    obtain rfl := Except.ok.inj (hview.symm.trans h)
    have hinserted : e.inserted c family cells = accepted family cells := by rw [inserted, hlock]
    rw [leftover, hinserted, if_neg haccepted]
    rfl

theorem put_unseen {f : Fault} (hview : e.view c = .error f) (key : Bytes) (family : Text)
    (cells : Cells) : e.put c key family cells = (.error (.fault f), e) := by
  rw [put, hview]

/-- Where a connection is in the middle of something already, a failed write that has inserted
nothing new leaves it there. -/
theorem leftover_unchanged {t : Table} (hview : e.view c = .ok t) {key : Bytes} {family : Text}
    {cells : Cells} (hsame : t.putAll key family (e.inserted c family cells) = t)
    (hquiet : e.inserted c family cells = [] ∧ (e.connection c).transaction ≠ .idle ∨
      (e.connection c).transaction.isWriting = true) :
    e.leftover c t key family cells = (e.connection c).transaction := by
  have hsees := (view_eq_ok_iff.1 hview).2
  unfold leftover
  rw [hsame]
  cases htr : (e.connection c).transaction with
  | writing work =>
    rw [htr] at hsees
    obtain rfl : work = some t := hsees
    split <;> rfl
  | idle => simp [htr, Transaction.isWriting] at hquiet
  | begun =>
    obtain ⟨hnone, -⟩ := hquiet.resolve_right (by simp [htr, Transaction.isWriting])
    rw [if_pos hnone]
    rfl
  | reading snapshot version =>
    obtain ⟨hnone, -⟩ := hquiet.resolve_right (by simp [htr, Transaction.isWriting])
    rw [if_pos hnone]
    rfl

end HourlyUsage.Engine
