/-!
# Maps

A sorted map is a finite map kept as a list of entries with strictly ascending keys, so that a walk
over the entries meets the keys in order and each key once. `get?` is the map's view: `get?_update`
says what a write does to it.

An association list is a list of pairs read as a map: the first pair of a name counts. `set` keeps a
name unique and in the place where it first came.

Sources: the primary key of the table `cells`, by which its rows are kept in order; the families and
cells of a `Row`; the values handed over to settings and log entries.
-/
namespace HourlyUsage

/-- Entries with strictly ascending keys. -/
structure SortedMap (κ α : Type) [LT κ] where
  entries : List (κ × α)
  ascending : entries.Pairwise fun a b => a.1 < b.1

namespace SortedMap

variable {κ α : Type} [LT κ]

def empty : SortedMap κ α := ⟨[], .nil⟩

variable [DecidableEq κ]

def lookup (k : κ) : List (κ × α) → Option α
  | [] => none
  | (k', v) :: rest => if k = k' then some v else lookup k rest

def get? (m : SortedMap κ α) (k : κ) : Option α := lookup k m.entries

@[simp] theorem get?_empty (k : κ) : (empty : SortedMap κ α).get? k = none := rfl

variable [DecidableLT κ]

/-- The entries with the value of `k` replaced by `f` of the value it had, if any. -/
def updateEntries (k : κ) (f : Option α → α) : List (κ × α) → List (κ × α)
  | [] => [(k, f none)]
  | (k', v) :: rest =>
    if k < k' then (k, f none) :: (k', v) :: rest
    else if k = k' then (k', f (some v)) :: rest
    else (k', v) :: updateEntries k f rest

theorem key_mem_updateEntries {k x : κ} {f : Option α → α} {es : List (κ × α)}
    (h : x ∈ (updateEntries k f es).map (·.1)) : x = k ∨ x ∈ es.map (·.1) := by
  induction es with
  | nil => simpa [updateEntries] using h
  | cons e rest ih =>
    obtain ⟨k', v⟩ := e
    rw [updateEntries] at h
    split at h
    · simpa using h
    · split at h
      · exact .inr (by simpa using h)
      · simp only [List.map_cons, List.mem_cons] at h ⊢
        rcases h with h | h
        · exact .inr (.inl h)
        · exact (ih h).imp id .inr

variable [LE κ] [Std.IsLinearOrder κ] [Std.LawfulOrderLT κ]

theorem updateEntries_ascending (k : κ) (f : Option α → α) {es : List (κ × α)}
    (h : es.Pairwise fun a b => a.1 < b.1) :
    (updateEntries k f es).Pairwise fun a b => a.1 < b.1 := by
  induction es with
  | nil => simp [updateEntries]
  | cons e rest ih =>
    obtain ⟨k', v⟩ := e
    obtain ⟨hhead, htail⟩ := List.pairwise_cons.1 h
    rw [updateEntries]
    split
    · next hlt =>
      refine List.pairwise_cons.2 ⟨fun x hx => ?_, h⟩
      rcases List.mem_cons.1 hx with rfl | hx
      · exact hlt
      · exact Std.lt_trans hlt (hhead x hx)
    · next hle =>
      split
      · exact List.pairwise_cons.2 ⟨hhead, htail⟩
      · next hne =>
        refine List.pairwise_cons.2 ⟨fun x hx => ?_, ih htail⟩
        rcases key_mem_updateEntries (List.mem_map_of_mem (f := (·.1)) hx) with hx | hx
        · rw [hx]
          exact Std.lt_of_le_of_ne (Std.not_lt.1 hle) (Ne.symm hne)
        · obtain ⟨y, hy, hyx⟩ := List.mem_map.1 hx
          exact hyx ▸ hhead y hy

/-- The map with the value of `k` replaced by `f` of the value it had, if any. -/
def update (m : SortedMap κ α) (k : κ) (f : Option α → α) : SortedMap κ α :=
  ⟨updateEntries k f m.entries, updateEntries_ascending k f m.ascending⟩

def insert (m : SortedMap κ α) (k : κ) (v : α) : SortedMap κ α := m.update k fun _ => v

theorem lookup_updateEntries (k x : κ) (f : Option α → α) {es : List (κ × α)}
    (h : es.Pairwise fun a b => a.1 < b.1) :
    lookup x (updateEntries k f es) = if x = k then some (f (lookup k es)) else lookup x es := by
  induction es with
  | nil => simp [updateEntries, lookup]
  | cons e rest ih =>
    obtain ⟨k', v⟩ := e
    obtain ⟨hhead, htail⟩ := List.pairwise_cons.1 h
    rw [updateEntries]
    split
    · next hlt =>
      have hk : lookup k ((k', v) :: rest) = none := by
        have hne : ∀ y ∈ (k', v) :: rest, k ≠ y.1 := by
          intro y hy he
          rcases List.mem_cons.1 hy with rfl | hy
          · exact Std.lt_irrefl (he ▸ hlt)
          · exact Std.lt_irrefl (he ▸ Std.lt_trans hlt (hhead y hy))
        generalize (k', v) :: rest = l at hne
        induction l with
        | nil => rfl
        | cons y l ih =>
          rw [lookup, if_neg (hne y (List.mem_cons_self ..))]
          exact ih fun z hz => hne z (List.mem_cons_of_mem _ hz)
      rw [hk]
      rfl
    · split
      · next heq =>
        subst heq
        by_cases hx : x = k <;> simp [lookup, hx]
      · next hne =>
        rw [lookup, ih htail]
        by_cases hx : x = k
        · subst hx
          simp [hne, lookup]
        · simp [hx, lookup]

theorem get?_update (m : SortedMap κ α) (k x : κ) (f : Option α → α) :
    (m.update k f).get? x = if x = k then some (f (m.get? k)) else m.get? x :=
  lookup_updateEntries k x f m.ascending

theorem get?_insert (m : SortedMap κ α) (k x : κ) (v : α) :
    (m.insert k v).get? x = if x = k then some v else m.get? x :=
  get?_update m k x fun _ => v

end SortedMap

/-! ## Association lists -/

namespace Assoc

variable {κ α : Type} [DecidableEq κ]

def get? (k : κ) : List (κ × α) → Option α
  | [] => none
  | (k', v) :: rest => if k' = k then some v else get? k rest

/-- The pairs with `k` set to `v`; an old pair of `k` keeps its place. -/
def set (k : κ) (v : α) : List (κ × α) → List (κ × α)
  | [] => [(k, v)]
  | (k', w) :: rest => if k' = k then (k', v) :: rest else (k', w) :: set k v rest

/-- The map that a sequence of settings makes, the last one of a name winning. -/
def ofList (pairs : List (κ × α)) : List (κ × α) := pairs.foldl (fun m (k, v) => set k v m) []

theorem mem_of_get? {k : κ} {v : α} {m : List (κ × α)} (h : get? k m = some v) : (k, v) ∈ m := by
  induction m with
  | nil => cases h
  | cons e rest ih =>
    rw [get?] at h
    split at h
    · next hk =>
      cases h
      exact hk ▸ List.mem_cons_self
    · exact List.mem_cons_of_mem _ (ih h)

theorem get?_set_self (k : κ) (v : α) (m : List (κ × α)) : get? k (set k v m) = some v := by
  induction m with
  | nil => simp [set, get?]
  | cons e rest ih => by_cases h : e.1 = k <;> simp [set, get?, h, ih]

theorem get?_set_of_ne {k k' : κ} (h : k' ≠ k) (v : α) (m : List (κ × α)) :
    get? k (set k' v m) = get? k m := by
  induction m with
  | nil => simp [set, get?, h]
  | cons e rest ih =>
    by_cases hk : e.1 = k'
    · simp [set, get?, hk, h]
    · simp [set, get?, hk, ih]

end Assoc

end HourlyUsage
