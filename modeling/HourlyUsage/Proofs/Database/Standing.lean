import HourlyUsage.Proofs.Database.Connections
/-!
# Which connections stay open

Nothing that is done through a connection opens or closes one, be it that connection or another. A
new connection changes nothing about the old ones.

Sources: the statements of a store, `_create_connection`.

Results:
* `standing_put`, `standing_ensureTable`, `standing_dropTable`, `standing_afterRead`: what is done
  through a connection.
* `standing_of_append`: making a connection.
-/
namespace HourlyUsage.Engine

/-- The connections are still there, and open exactly if they were. -/
structure Standing (e e' : Engine) : Prop where
  length : e.connections.length ≤ e'.connections.length
  isOpen : ∀ c < e.connections.length, (e'.connection c).isOpen = (e.connection c).isOpen

variable {e e' : Engine}

theorem Standing.refl (e : Engine) : e.Standing e := ⟨Nat.le_refl _, fun _ _ => rfl⟩

theorem Standing.trans {e'' : Engine} (h : e.Standing e') (h' : e'.Standing e'') :
    e.Standing e'' where
  length := Nat.le_trans h.length h'.length
  isOpen c hc := (h'.isOpen c (Nat.lt_of_lt_of_le hc h.length)).trans (h.isOpen c hc)

theorem standing_of_connections (hsame : e'.connections = e.connections) : e.Standing e' where
  length := Nat.le_of_eq (congrArg List.length hsame.symm)
  isOpen c _ := by rw [connection, connection, hsame]

theorem standing_setTransaction (e : Engine) (c : ConnectionId) (tr : Transaction) :
    e.Standing (e.setTransaction c tr) where
  length := Nat.le_of_eq (length_setTransaction tr).symm
  isOpen x hx := by
    by_cases hxc : x = c
    · subst hxc
      rw [connection_setTransaction hx]
    · rw [connection_setTransaction_of_ne hxc]

theorem standing_setDatabase (e : Engine) (d : DatabaseId) (state : Database) :
    e.Standing (e.setDatabase d state) := standing_of_connections rfl

theorem standing_commit (e : Engine) (c : ConnectionId) : e.Standing (e.commit c) :=
  (standing_setDatabase e _ _).trans (standing_setTransaction _ c .idle)

theorem standing_afterRead (e : Engine) (c : ConnectionId) : e.Standing (e.afterRead c) :=
  standing_setTransaction e c _

theorem standing_put (e : Engine) (c : ConnectionId) (key : Bytes) (family : Text)
    (cells : Cells) : e.Standing (e.put c key family cells).2 := by
  cases hview : e.view c with
  | error f =>
    rw [put, hview]
    exact .refl e
  | ok t =>
    have hcases := put_cases (lt_of_view hview) key family cells
    generalize e.put c key family cells = result at hcases ⊢
    obtain ⟨outcome, after⟩ := result
    cases hcases with
    | unseen f _ => exact .refl _
    | empty t _ _ => exact standing_commit _ c
    | refused t _ x _ _ => exact standing_setTransaction _ c _
    | locked t _ f _ _ => exact standing_setTransaction _ c _
    | stuck t _ x _ _ _ => exact standing_setTransaction _ c _
    | committed t _ _ _ _ =>
      exact (standing_setDatabase _ _ _).trans (standing_setTransaction _ c .idle)

theorem standing_ensureTable (e : Engine) (c : ConnectionId) :
    e.Standing (e.ensureTable c).2 := by
  have hcommit := standing_commit e c
  unfold ensureTable
  split
  · exact .refl e
  · dsimp only
    split
    · exact hcommit
    · split
      · exact hcommit
      · exact (hcommit.trans (standing_setTransaction _ c _)).trans (standing_commit _ c)

theorem standing_dropTable (e : Engine) (c : ConnectionId) : e.Standing (e.dropTable c).2 := by
  have hdropped := standing_setTransaction e c (.writing none)
  unfold dropTable
  split
  · exact .refl e
  · split
    · exact .refl e
    · dsimp only
      split
      · exact hdropped.trans (standing_commit _ c)
      · exact hdropped

theorem standing_of_append {d : DatabaseId}
    (hconnections : e'.connections = e.connections ++ [{ database := d }]) : e.Standing e' where
  length := by
    rw [hconnections, List.length_append]
    exact Nat.le_add_right _ _
  isOpen c hc := by
    rw [connection_of_lt hc (by rw [hconnections, List.getElem?_append_left hc])]

end HourlyUsage.Engine
