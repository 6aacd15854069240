import HourlyUsage.Disk.Basic
/-!
# Making directories

The directories above a database file are made before the file is, and making them leaves the
database files that are there alone.

Sources: the directories made by `bootstrap`.

Results:
* `sameFiles_makeParents`: the database files are the same afterwards, whatever was missing.
-/
namespace HourlyUsage.Disk

structure SameFiles (disk disk' : Disk) : Prop where
  workingDirectory : disk'.workingDirectory = disk.workingDirectory
  databases : ∀ p n, disk'.node? p = some (.database n) ↔ disk.node? p = some (.database n)

theorem SameFiles.refl (disk : Disk) : disk.SameFiles disk := ⟨rfl, fun _ _ => .rfl⟩

theorem SameFiles.trans {a b c : Disk} (h : a.SameFiles b) (h' : b.SameFiles c) : a.SameFiles c :=
  ⟨h'.workingDirectory.trans h.workingDirectory,
    fun p n => (h'.databases p n).trans (h.databases p n)⟩

theorem node?_set_self {disk : Disk} {p : Path} (h : disk.node? p = none) (n : Node) :
    (disk.set p n).node? p = some n := by
  have hne : p ≠ [] := by rintro rfl; cases h
  rw [node?, if_neg hne, set, Assoc.get?_set_self]

theorem node?_set_of_ne (disk : Disk) {p q : Path} (hne : p ≠ q) (n : Node) :
    (disk.set p n).node? q = disk.node? q := by
  unfold node?
  rw [set, Assoc.get?_set_of_ne hne]

theorem sameFiles_set {disk : Disk} {p : Path} (h : disk.node? p = none) :
    disk.SameFiles (disk.set p .directory) := by
  refine ⟨rfl, ?_⟩
  intro q n
  by_cases hpq : p = q
  · subst hpq
    simp [node?_set_self h, h]
  · rw [node?_set_of_ne disk hpq]

variable {disk disk' : Disk} {absolute : Bool} {start : Path}

theorem sameFiles_makeDirectory {back : List Text}
    (hmake : disk.makeDirectory start back = .ok disk') : disk.SameFiles disk' := by
  unfold makeDirectory at hmake
  split at hmake
  · cases hmake
  · split at hmake
    · cases hmake
    · dsimp only at hmake
      split at hmake
      · cases hmake
      · next hfree =>
        cases hmake
        rw [Bool.or_eq_true, not_or, Bool.not_eq_true, Option.not_isSome_iff_eq_none] at hfree
        exact sameFiles_set hfree.2

theorem settle_eq_ok {steps : List Text} {obstacle : Obstacle}
    (h : disk.settle absolute start steps obstacle = .ok disk') : disk' = disk := by
  unfold settle at h
  dsimp only at h
  split at h
  · cases h
  · cases h
  · split at h
    · cases h; rfl
    · cases h

theorem sameFiles_makeDirectories {back : List Text}
    (hmake : disk.makeDirectories absolute start back = .ok disk') : disk.SameFiles disk' := by
  induction back generalizing disk' with
  | nil =>
    rw [makeDirectories] at hmake
    split at hmake
    · next hone => cases hmake; exact sameFiles_makeDirectory hone
    · cases hmake
    · rw [settle_eq_ok hmake]; exact .refl disk
  | cons last above ih =>
    rw [makeDirectories] at hmake
    split at hmake
    · next hone => cases hmake; exact sameFiles_makeDirectory hone
    · split at hmake
      · cases hmake
      · next between habove =>
        split at hmake
        · next hone => cases hmake; exact (ih habove).trans (sameFiles_makeDirectory hone)
        · rw [settle_eq_ok hmake]; exact ih habove
    · rw [settle_eq_ok hmake]; exact .refl disk

theorem sameFiles_makeParents {path : Text} (hmake : disk.makeParents path = .ok disk') :
    disk.SameFiles disk' := sameFiles_makeDirectories hmake

end HourlyUsage.Disk
