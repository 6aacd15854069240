import HourlyUsage.Proofs.Query.Containment
import HourlyUsage.Proofs.Query.Cost
import HourlyUsage.Proofs.Table.Agreement
/-!
# What has no influence on a query

A query hangs on the cells of the known columns below its stem. Other hours, clusters and paths, other
families and columns can hold anything: they change neither the answer nor what the scan costs.

Sources: `list_by_prefix` of the query service on the scanner of a store, with `_log_scan`.

Hypotheses: the query's arguments have a plan; the two tables agree on the known columns below its
stem, and may differ in everything else.

Results:
* `below_eq_of_cells`: the rows below a stem hang on its known cells.
* `other_cells_have_no_influence`: so do the answer of a query and its log.
-/
namespace HourlyUsage.Query

/-- Tables with the same known cells below a stem have the same rows there. -/
theorem below_eq_of_cells {t t' : Table} {stem : Bytes}
    (hcells : ∀ key, stem <+: key → ∀ c : Column,
      t.cell? key infoFamily c.name = t'.cell? key infoFamily c.name) :
    below stem (t.rows statsColumns) = below stem (t'.rows statsColumns) := by
  have hagrees : Table.Agrees statsColumns stem.isPrefixOf t t' := by
    intro key hkey f q hrequested
    obtain ⟨c, rfl, rfl⟩ := isRequested_statsColumns hrequested
    exact hcells key (List.isPrefixOf_iff_prefix.1 hkey) c
  exact Table.rows_eq_of_agrees hagrees

/-- **Other cells have no influence.** Two stores, seen by any workers on any hosts, whose tables
hold the same cells in the known columns below the stem of a query, give the query the same answer,
and it logs the same: the plan, and with the outcome the numbers of rows, columns, octets and round
trips. -/
theorem other_cells_have_no_influence {h h' : Host} {w w' : Worker} {s s' : StoreId} {t t' : Table}
    (hsees : h.Sees w s t) (hsees' : h'.Sees w' s' t') (hunused : h.nextFilter ∉ h.spent)
    (hunused' : h'.nextFilter ∉ h'.spent) {service : Service}
    (hsize : service.batchSize < Cell.intBound) {request : Request} (hlimit : 0 < request.limit)
    {bucketStart : Int} (hbucket : request.time.bucket = .ok bucketStart) {stem : Bytes}
    (hstem : SnapshotKey.encode bucketStart request.cluster (request.path?.getD []) = .ok stem)
    (hcells : ∀ key, stem <+: key → ∀ c : Column,
      t.cell? key infoFamily c.name = t'.cell? key infoFamily c.name) :
    ∃ answer metrics,
      (service.list (Host.source w s) request h).1 = answer ∧
      (service.list (Host.source w' s') request h').1 = answer ∧
      ∃ plan, service.plan request = .ok plan ∧
        (service.list (Host.source w s) request h).2.log =
          finishedEntry request.cluster (succeeded answer) metrics :: plannedEntry plan :: h.log ∧
        (service.list (Host.source w' s') request h').2.log =
          finishedEntry request.cluster (succeeded answer) metrics :: plannedEntry plan :: h'.log := by
  have hrows := below_eq_of_cells hcells
  have hanswer := list_reads hsees hunused hsize hlimit hbucket hstem
  have hanswer' := list_reads hsees' hunused' hsize hlimit hbucket hstem
  have hlog := list_log hsees hunused hsize hlimit hbucket hstem
  have hlog' := list_log hsees' hunused' hsize hlimit hbucket hstem
  rw [hrows] at hlog hanswer
  rw [hanswer] at hlog
  rw [hanswer'] at hlog'
  exact ⟨_, _, hanswer, hanswer', _, plan_eq_ok hlimit hbucket hstem, hlog, hlog'⟩

def quietTable : Table :=
  Table.put .empty (damagedStem ++ [0x61]) infoFamily Column.owner.name [0x62]

/-- The same row among others: of a cluster that the name of the queried one begins, of another
family of its key, and of an unknown column of another key below the stem. -/
def crowdedTable : Table :=
  ((quietTable.put (Utf8.points (SnapshotKey.keyText 3600 (text "c1") [])) infoFamily
    Column.owner.name [0xFF]).put (damagedStem ++ [0x61]) (text "x") Column.owner.name [0xFF]).put
      damagedKey infoFamily (text "unknown") [0xFF]

/-- The query cannot tell the two tables apart. -/
theorem crowdedTable_has_no_influence :
    (damagedService.list (Host.source .main 0) damagedRequest (Host.holding quietTable)).1 =
        (damagedService.list (Host.source .main 0) damagedRequest (Host.holding crowdedTable)).1 ∧
      (damagedService.list (Host.source .main 0) damagedRequest (Host.holding quietTable)).2.log =
        (damagedService.list (Host.source .main 0) damagedRequest
          (Host.holding crowdedTable)).2.log := by
  have hstem : SnapshotKey.encode 3600 damagedRequest.cluster (damagedRequest.path?.getD []) =
      .ok damagedStem := rfl
  have hfamily : infoFamily ≠ text "x" := by decide
  have hcolumn : ∀ c : Column, c.name ≠ text "unknown" := by
    have hall : ∀ c ∈ Column.all, c.name ≠ text "unknown" := by decide
    exact fun c => hall c (Column.mem_all c)
  have hcells : ∀ key, damagedStem <+: key → ∀ c : Column,
      quietTable.cell? key infoFamily c.name = crowdedTable.cell? key infoFamily c.name := by
    intro key hkey c
    have hother : key ≠ Utf8.points (SnapshotKey.keyText 3600 (text "c1") []) := by
      rintro rfl
      exact absurd hkey (by decide)
    rw [crowdedTable, Table.cell?_put, if_neg fun h => hcolumn c h.2.2, Table.cell?_put,
      if_neg fun h => hfamily h.2.1, Table.cell?_put, if_neg fun h => hother h.1]
  obtain ⟨answer, metrics, hquiet, hcrowded, plan, -, hlog, hlog'⟩ :=
    other_cells_have_no_influence (Host.sees_holding quietTable .main)
      (Host.sees_holding crowdedTable .main) List.not_mem_nil List.not_mem_nil
      (by decide : damagedService.batchSize < Cell.intBound)
      (by decide : 0 < damagedRequest.limit) rfl hstem hcells
  exact ⟨hquiet.trans hcrowded.symm, hlog.trans hlog'.symm⟩

end HourlyUsage.Query
