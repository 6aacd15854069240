import HourlyUsage.Proofs.CommandLine.Reading
import HourlyUsage.Proofs.CommandLine.Running
import HourlyUsage.Proofs.Http.Asking
import HourlyUsage.Proofs.Store.LastWrite
import HourlyUsage.Proofs.Store.Opening
/-!
# Both surfaces agree

The application answers from the store that it has open, on the connections of its own worker; a run
of the command line opens a store for itself. Where both ask the same of one file, they say the
same, whatever their batch sizes are and whatever is in the file.

Sources: `list_hdfs_stats`, `main` of the command line, `list_by_prefix`.

Hypotheses: the file was opened and used in any way that leaves no transaction open (`Step.Plain`);
the application's store is one of the file (`App.Serves`) and the command line names the file
(`CommandLine.Accepts`); both batch sizes can be configured.

Results:
* `list_agrees`: what a query answers hangs on the table and the request alone.
* `surfaces_agree`: a request and a run of the command line succeed together, and the body of one is
  the output of the other.
-/
namespace HourlyUsage

namespace Query

theorem plan_congr (service service' : Service) (request : Request) :
    service'.plan request = (service.plan request).map fun plan =>
      { plan with batchSize := min request.limit service'.batchSize } := by
  unfold Service.plan
  split
  · rfl
  · cases request.time.bucket with
    | error fault => rfl
    | ok bucketStart =>
      dsimp only
      cases SnapshotKey.encode bucketStart request.cluster (request.path?.getD []) <;> rfl

/-- What a query for few rows answers hangs on the table and the request alone. -/
theorem list_agrees {h h' : Host} {w w' : Worker} {s s' : StoreId} {t : Table}
    (hsees : h.Sees w s t) (hsees' : h'.Sees w' s' t) (hunused : h.nextFilter ∉ h.spent)
    (hunused' : h'.nextFilter ∉ h'.spent) {service service' : Service}
    (hsize : service.batchSize < Cell.intBound) (hsize' : service'.batchSize < Cell.intBound)
    {request : Request} (hfew : request.limit ≤ mostAsked) :
    (service.list (Host.source w s) request h).1 =
      (service'.list (Host.source w' s') request h').1 := by
  cases hplan : service.plan request with
  | error refusal =>
    have hplan' := plan_congr service service' request
    rw [hplan] at hplan'
    rw [Service.list, Service.list, hplan, hplan']
    rfl
  | ok plan =>
    obtain ⟨hlimit, hbucket, hstem, -⟩ := of_plan_eq_ok hplan
    have hsmall : ∀ batchSize n, Fetchable (min request.limit batchSize) n := fun _ _ =>
      fetchable_of_le (Int.le_trans (Int.min_le_left ..) hfew) _
    rw [list_reads hsees hunused hsize hlimit hbucket hstem, if_pos (hsmall ..),
      list_reads hsees' hunused' hsize' hlimit hbucket hstem, if_pos (hsmall ..)]

end Query

/-- The application has a service on a store of the file at the place. -/
def Http.App.Serves (app : Http.App) (h : Host) (p : Path) : Prop :=
  ∃ s service, app.service? = some (s, service) ∧ service.batchSize < Cell.intBound ∧ h.FileAt s p

namespace CommandLine

def Arguments.listing (arguments : Arguments) : Http.Listing :=
  ⟨arguments.path, arguments.limit, arguments.time?⟩

/-- A command line with arguments, a log level and a batch size that are accepted, on the file at a
place. -/
structure Accepts (context : Context) (argv : List Text) (arguments : Arguments) (h : Host)
    (p : Path) : Prop where
  parse : CommandLine.parse argv = .ok arguments
  level : ∃ sink first, Log.Sink.configure context.logDefaults arguments.logLevel?
    (some (text "text")) = .ok (sink, first)
  positive : 0 < context.batchSize
  bounded : context.batchSize < Cell.intBound
  file : h.Reaches (databasePath context arguments) p

theorem outputLines_output (records : List Record) :
    outputLines (output records) = records.map fun r => r.response.compact := by
  refine outputLines_unlines fun line hline => ?_
  obtain ⟨record, -, rfl⟩ := List.mem_map.1 hline
  exact Json.oneLine_compact record.response

end CommandLine

open CommandLine (Crash Outcome outputLines unlines)

/-- The answer to a request and what comes of a run of the command line say the same. -/
structure Agree (answer : Http.Answer) (result : Except Crash Outcome) : Prop where
  /-- One succeeds exactly if the other does. -/
  succeed : answer.response.status = 200 ↔ ∃ outcome, result = .ok outcome ∧ outcome.status = 0
  /-- The output is lines, and the body is these in brackets, with commas in between. -/
  body : ∀ outcome, result = .ok outcome → outcome.status = 0 →
    outcome.output = unlines (outputLines outcome.output) ∧
    answer.response.body = 0x5B :: Text.join [0x2C] (outputLines outcome.output) ++ [0x5D]
  /-- A run that fails has no output. -/
  silent : ∀ outcome, result = .ok outcome → outcome.status = 1 → outcome.output = []

theorem agree_of_query {origins : Origins} {r : Http.Request} {result : Except Crash Outcome}
    {queried : Except (Query.Failure StoreError) (List Record)}
    (hresult : result.map (fun outcome => (outcome.status, outcome.output)) =
      CommandLine.ended (CommandLine.shown queried)) :
    Agree (Http.answered origins r queried) result := by
  cases queried with
  | ok records =>
    obtain ⟨outcome, rfl, houtcome⟩ : ∃ outcome, result = .ok outcome ∧
        (outcome.status, outcome.output) = (0, CommandLine.output records) := by
      cases result with
      | error crash => cases hresult
      | ok outcome => exact ⟨outcome, rfl, Except.ok.inj hresult⟩
    obtain ⟨hstatus, houtput⟩ := Prod.mk.inj houtcome
    have hlines := CommandLine.outputLines_output records
    refine ⟨?_, ?_, ?_⟩
    · rw [Http.answered_status]
      exact iff_of_true ⟨records, rfl⟩ ⟨outcome, rfl, hstatus⟩
    · rintro _ ⟨⟩ -
      rw [houtput, hlines, Http.answered_body]
      exact ⟨rfl, rfl⟩
    · rintro _ ⟨⟩ hfailed
      rw [hstatus] at hfailed
      cases hfailed
  | error e =>
    have hfails : ∀ outcome, result = .ok outcome → outcome.status = 1 ∧ outcome.output = [] := by
      rintro outcome rfl
      rw [CommandLine.shown] at hresult
      cases he : e.known? with
      | none => rw [he] at hresult; cases hresult
      | some f =>
        rw [he] at hresult
        exact Prod.mk.inj (Except.ok.inj hresult)
    refine ⟨?_, ?_, ?_⟩
    · rw [Http.answered_status]
      refine iff_of_false ?_ ?_
      · rintro ⟨records, hrecords⟩
        cases hrecords
      · rintro ⟨outcome, houtcome, hstatus⟩
        rw [(hfails outcome houtcome).1] at hstatus
        cases hstatus
    · intro outcome houtcome hstatus
      rw [(hfails outcome houtcome).1] at hstatus
      cases hstatus
    · intro outcome houtcome _
      exact (hfails outcome houtcome).2

theorem agree_of_fileTable {h : Host} {p : Path} {t : Table} (hst : h.Steady)
    (ht : h.engine.fileTable? p = some t) (hunused : h.nextFilter ∉ h.spent) {app : Http.App}
    (happ : app.Serves h p) {context : CommandLine.Context} {argv : List Text}
    {arguments : CommandLine.Arguments} (hcommand : CommandLine.Accepts context argv arguments h p)
    (hfew : arguments.limit ≤ Query.mostAsked) {r : Http.Request}
    (hasks : r.Asks arguments.cluster arguments.listing) (w : Worker) :
    Agree (app.handle context.now r h).1 (CommandLine.run context w argv h).1 := by
  obtain ⟨s, service, hservice, hsize, hfile⟩ := happ
  obtain ⟨sink, first, hlevel⟩ := hcommand.level
  cases htime : Instant.orNow arguments.time? context.now with
  | error fault =>
    rw [Http.handle_of_no_time hasks hservice htime,
      CommandLine.run_of_no_time hcommand.parse hlevel htime]
    refine ⟨iff_of_false ?_ ?_, nofun, nofun⟩
    · exact Nat.ne_of_beq_eq_false rfl
    · rintro ⟨outcome, houtcome, -⟩
      cases houtcome
  | ok time =>
    let logged : Host := { h with log := [first] }
    have hreaches : logged.Reaches (CommandLine.databasePath context arguments) p :=
      ⟨hcommand.file.shared, hcommand.file.place, hcommand.file.parents⟩
    obtain ⟨s', opened, hopen, hsees⟩ :=
      Host.sees_openStore (hst.withLog [first]) (h := logged) ht hreaches w
    have hpossible : Query.Service.ofBatchSize context.batchSize =
        .ok ⟨context.batchSize, hcommand.positive⟩ := dif_pos hcommand.positive
    have hfresh := Host.openStore_unused w (CommandLine.databasePath context arguments)
      (h := logged) hunused
    rw [hopen] at hfresh
    have hrun := CommandLine.run_of_query hcommand.parse hlevel htime w h
    rw [CommandLine.query_of_opened hopen hpossible,
      ← Query.list_agrees (Host.sees_of_fileTable hst hfile ht .requests) hsees hunused hfresh hsize
        hcommand.bounded hfew] at hrun
    rw [Http.handle_of_asks hasks hservice htime]
    exact agree_of_query hrun

/-! ## Files that were written -/

/-- What a request can ask for too: names and paths without surrogates, a limit and an instant
within the bounds that requests have. -/
structure CommandLine.Arguments.Askable (arguments : CommandLine.Arguments) : Prop where
  nonempty : arguments.cluster ≠ []
  whole : Path.slash ∉ arguments.cluster
  cluster : Utf8.Encodable arguments.cluster
  path : Utf8.Encodable arguments.path
  limit : 1 ≤ arguments.limit ∧ arguments.limit ≤ 10000
  time : ∀ n ∈ arguments.time?, 0 ≤ n

theorem exists_asks {argv : List Text} {arguments : CommandLine.Arguments}
    (hparse : CommandLine.parse argv = .ok arguments) (haskable : arguments.Askable) :
    ∃ r : Http.Request, r.Asks arguments.cluster arguments.listing := by
  have hsendable : arguments.listing.Sendable := by
    refine ⟨haskable.path, haskable.limit, fun n hn => ?_⟩
    have hlow := haskable.time n hn
    have hread := CommandLine.time_lt_of_parse hparse n hn
    exact ⟨hlow, by omega⟩
  exact ⟨_, Http.asks_ofListing haskable.nonempty haskable.whole haskable.cluster hsendable⟩

/-- **Both surfaces agree.** Any number of workers open stores, write and read in any order. Then
the application is asked for usage from a store of a file that was opened, and a command line with
the same arguments is run on the same file by the same clock, each with a batch size of its own. The
response has status 200 exactly if the run has exit status 0; its body is then the lines of the
output in brackets, with commas in between; and a run with exit status 1 has no output. There is
such a request for all arguments within the bounds of requests. -/
theorem surfaces_agree {start : Host} (hbegins : start.Begins) {p : Path} {steps : List Step}
    (hplain : ∀ step ∈ steps, step.Plain) (hopened : ∃ e ∈ start.events steps, e.Opens p)
    (hunused : (start.after steps).nextFilter ∉ (start.after steps).spent) {app : Http.App}
    (happ : app.Serves (start.after steps) p) {context : CommandLine.Context} {argv : List Text}
    {arguments : CommandLine.Arguments} (haskable : arguments.Askable)
    (hcommand : CommandLine.Accepts context argv arguments (start.after steps) p) :
    (∃ r : Http.Request, r.Asks arguments.cluster arguments.listing) ∧
      ∀ (r : Http.Request) (w : Worker), r.Asks arguments.cluster arguments.listing →
        Agree (app.handle context.now r (start.after steps)).1
          (CommandLine.run context w argv (start.after steps)).1 := by
  have hk := Host.kept_after (p := p) hbegins hplain
  obtain ⟨t, ht⟩ := Option.isSome_iff_exists.1 (hk.table hopened)
  refine ⟨exists_asks hcommand.parse haskable, fun r w hasks => ?_⟩
  have hmost : (Query.mostAsked : Int) = 32740 := by decide
  have hfew : arguments.limit ≤ Query.mostAsked := by
    have := haskable.limit.2
    omega
  exact agree_of_fileTable hk.steady ht hunused happ hcommand hfew hasks w

/-- A store is opened and a row is written to it, with a line feed and a quotation mark in its
owner. -/
def listedSteps : List Step :=
  [⟨.main, .newStore (text "usage.db")⟩, ⟨.main, .bootstrap 0⟩,
    ⟨.main, .putRow 0 (Utf8.points (SnapshotKey.keyText 3600 (text "c") (text "/a"))) infoFamily
      [(text "quota", [0, 0, 0, 0, 0, 0, 0, 7]), (text "owner", [0x22, 0x0A])]⟩]

/-- An application with a store of the file, in batches of one row. -/
def listedApp : Http.App := ⟨.list [], some (0, ⟨1, by decide⟩)⟩

def listedRequest : Http.Request := ⟨text "GET", text "/api/v1/hdfs/c?path=%2F&attime=4000", []⟩

def listedArgv : List Text := [text "--path=/", text "c", text "--attime", text "4000"]

def listedContext : CommandLine.Context :=
  ⟨⟨text "info", text "text"⟩, text "/usage.db", 100, .ofSeconds 0⟩

def listedArguments : CommandLine.Arguments := ⟨text "c", text "/", 100, some 4000, none, none⟩

/-- Both surfaces are asked for the row, and find it. -/
theorem listed_row_is_agreed_on :
    Agree (listedApp.handle (.ofSeconds 0) listedRequest
        ((Host.ofDisk ⟨[], []⟩).after listedSteps)).1
      (CommandLine.run listedContext .main listedArgv
        ((Host.ofDisk ⟨[], []⟩).after listedSteps)).1 ∧
    (listedApp.handle (.ofSeconds 0) listedRequest
      ((Host.ofDisk ⟨[], []⟩).after listedSteps)).1.response.status = 200 := by
  have hplain : ∀ step ∈ listedSteps, step.Plain := by
    simp only [listedSteps, List.forall_mem_cons]
    exact ⟨⟨nofun, nofun, nofun, nofun⟩, ⟨nofun, nofun, nofun, nofun⟩,
      Step.plain_putRow (by decide) (by decide), nofun⟩
  have hopened : ∃ e ∈ (Host.ofDisk ⟨[], []⟩).events listedSteps, e.Opens [text "usage.db"] :=
    ⟨((Host.ofDisk ⟨[], []⟩).events listedSteps)[1], List.getElem_mem _, 0, rfl, by decide,
      by decide⟩
  have hunused : ((Host.ofDisk ⟨[], []⟩).after listedSteps).nextFilter ∉
      ((Host.ofDisk ⟨[], []⟩).after listedSteps).spent := by decide
  have happ : listedApp.Serves ((Host.ofDisk ⟨[], []⟩).after listedSteps) [text "usage.db"] :=
    ⟨_, _, rfl, by decide, by decide⟩
  have haskable : listedArguments.Askable :=
    ⟨by decide, by decide, by decide, by decide, by decide, fun n hn => by cases hn; decide⟩
  have hcommand : CommandLine.Accepts listedContext listedArgv listedArguments
      ((Host.ofDisk ⟨[], []⟩).after listedSteps) [text "usage.db"] :=
    ⟨by rfl, ⟨_, _, rfl⟩, by decide, by decide, by decide, by decide, ⟨_, rfl⟩⟩
  have hasks : listedRequest.Asks listedArguments.cluster listedArguments.listing :=
    ⟨rfl, by decide +kernel, by rfl⟩
  exact ⟨(surfaces_agree Host.begins_empty hplain hopened hunused happ haskable hcommand).2
    listedRequest .main hasks, by decide +kernel⟩

end HourlyUsage
