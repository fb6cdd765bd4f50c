import PgmanProxy.Control.DoctorChecks
import PgmanProxy.Control.Forwarding
import PgmanProxy.Library.FirstMatch

/-!
# The doctor's report and pgmctl's exit code

`pgmctl doctor` asks `POST /v1/doctor/run`, decodes the report into a mirror of its wire
shape and turns the summary into an exit code. The handler, the encoder, the decoder and
the exit code are put together here, so that the code a script sees is stated in terms of
what the engine answered the checks.
-/

namespace PgmanProxy.Pgmctl.DoctorReport

open PgmanProxy.Library.GoJson PgmanProxy.PgManager
open PgmanProxy.Library.GoScan (FitsInt64)
open PgmanProxy.Library.FirstMatch (find_eq_of_unique)
open PgmanProxy.Control.DoctorChecks
open PgmanProxy.Control.JoinWindowCheck (Severity)
open PgmanProxy.Control.Handlers (DoctorRun Ending Handled Moment Request Server handleDoctorRun
  runDoctor decodeOptionalBody decodeBody)
open PgmanProxy.Control.Requests (DocRunRequest docRunRequest)
open PgmanProxy.Control.Wrap (Closing close)
open PgmanProxy.Pgmctl.Client (ClientError accepted_read readResponse)
open PgmanProxy.Pgmctl.Commands (Failure exitUnhealthy)
open PgmanProxy.Control.Forwarding (failoverRequest refusingEngine sampleMoment sampleServer)
open PgmanProxy.Pgmctl.QuorumVerdicts (numberedReaders reachable secondsText seconds_read
  store_int store_time)
open PgmanProxy.Pgmctl.ReadCommands (Format ReadFlags Readers exitCode exitOK exitWarnStrict
  openFormat timeField)
open PgmanProxy.Pgmctl.StatusFrames (WireInstance number)

set_option autoImplicit false

def exitUnknown : Nat := 5
def exitNetwork : Nat := 65

/-! ## The report on the wire -/

section Encoding

variable (formatTime : Nat → String)

def encodeFix (fix : SuggestedFix) : Json :=
  .obj ([("name", .str fix.name), ("description", .str fix.description),
    ("blast_radius", .str fix.blastRadius.text), ("applies_to_check", .str fix.appliesToCheck)] ++
    omitEmpty "args_schema" fix.argsSchema ++ [("apply_endpoint", .str fix.applyEndpoint)])

/-- A map or a pointer with `omitempty`. -/
def omitNil (key : String) : Option Json → List (String × Json)
  | none => []
  | some value => [(key, value)]

/-- An empty map is left out like a nil one. -/
def evidenceJson : Option (List (String × Json)) → Option Json
  | none => none
  | some [] => none
  | some (member :: members) => some (.obj (member :: members))

def encodeResult (result : CheckResult) : Json :=
  .obj ([("name", .str result.name), ("status", .str result.status.text)] ++
    omitEmpty "message" result.message ++
    omitNil "evidence" (evidenceJson result.evidence) ++
    omitNil "suggested_fix" (result.suggestedFix.map encodeFix) ++
    [("executed_at", .str (formatTime result.executedAt))])

def encodeSummary (summary : DoctorSummary) : List (String × Json) :=
  [("pass", number summary.pass), ("info", number summary.info), ("warn", number summary.warn),
    ("fail", number summary.fail), ("unknown", number summary.unknown)]

def encodeReport (report : DoctorReport) : Json :=
  .obj [("apiVersion", .str report.apiVersion), ("kind", .str report.kind),
    ("captured_at", .str (formatTime report.capturedAt)),
    ("summary", .obj (encodeSummary report.summary)),
    ("checks", .arr (report.checks.map (encodeResult formatTime)))]

end Encoding

/-! ## pgmctl's mirror -/

structure Fix where
  name : String
  description : String
  blastRadius : String
  appliesToCheck : String
  applyEndpoint : String
deriving DecidableEq, Repr

structure Check where
  name : String
  status : String
  message : String
  evidence : List (String × Json)
  suggestedFix : Option Fix
  executedAt : Nat
  nodeID : String

structure Summary where
  pass : Int
  info : Int
  warn : Int
  fail : Int
  unknown : Int
deriving DecidableEq, Repr

structure Report where
  apiVersion : String
  kind : String
  capturedAt : Nat
  summary : Summary
  checks : List Check

def fixShape : Shape Fix where
  name := "Fix"
  goType := "doctor.Fix"
  fields := [
    stringField "name" "string" (fun text target => { target with name := text }),
    stringField "description" "string" (fun text target => { target with description := text }),
    stringField "blast_radius" "string" (fun text target => { target with blastRadius := text }),
    stringField "applies_to_check" "string"
      (fun text target => { target with appliesToCheck := text }),
    stringField "apply_endpoint" "string"
      (fun text target => { target with applyEndpoint := text })]
  zero := ⟨"", "", "", "", ""⟩

def summaryShape : Shape Summary where
  name := "Summary"
  goType := "doctor.Summary"
  fields := [
    intField "pass" (fun count target => { target with pass := count }),
    intField "info" (fun count target => { target with info := count }),
    intField "warn" (fun count target => { target with warn := count }),
    intField "fail" (fun count target => { target with fail := count }),
    intField "unknown" (fun count target => { target with unknown := count })]
  zero := ⟨0, 0, 0, 0, 0⟩

section Shapes

variable (readers : Readers)

def checkShape : Shape Check where
  name := "Check"
  goType := "doctor.Check"
  fields := [
    stringField "name" "string" (fun text target => { target with name := text }),
    stringField "status" "string" (fun text target => { target with status := text }),
    stringField "message" "string" (fun text target => { target with message := text }),
    mapField "evidence" (fun members target => { target with evidence := members }),
    pointerField "suggested_fix" fixShape
      (fun fix target => { target with suggestedFix := fix }),
    timeField readers "executed_at" (fun time target => { target with executedAt := time }),
    stringField "node_id" "string" (fun text target => { target with nodeID := text })]
  zero := ⟨"", "", "", [], none, 0, ""⟩

def reportShape : Shape Report where
  name := "Report"
  goType := "doctor.Report"
  fields := [
    stringField "apiVersion" "string" (fun text target => { target with apiVersion := text }),
    stringField "kind" "string" (fun text target => { target with kind := text }),
    timeField readers "captured_at" (fun time target => { target with capturedAt := time }),
    structField "summary" summaryShape Report.summary
      (fun summary target => { target with summary := summary }),
    sliceField "checks" "[]doctor.Check" (checkShape readers)
      (fun checks target => { target with checks := checks })]
  zero := ⟨"", "", 0, ⟨0, 0, 0, 0, 0⟩, []⟩

end Shapes

/-! ## What is seen of a report -/

def seenFix (fix : SuggestedFix) : Fix where
  name := fix.name
  description := fix.description
  blastRadius := fix.blastRadius.text
  appliesToCheck := fix.appliesToCheck
  applyEndpoint := fix.applyEndpoint

def seenCheck (result : CheckResult) : Check where
  name := result.name
  status := result.status.text
  message := result.message
  evidence := result.evidence.getD []
  suggestedFix := result.suggestedFix.map seenFix
  executedAt := result.executedAt
  nodeID := ""

def seenSummary (summary : DoctorSummary) : Summary where
  pass := summary.pass
  info := summary.info
  warn := summary.warn
  fail := summary.fail
  unknown := summary.unknown

def seenReport (report : DoctorReport) : Report where
  apiVersion := report.apiVersion
  kind := report.kind
  capturedAt := report.capturedAt
  summary := seenSummary report.summary
  checks := report.checks.map seenCheck

section Decoding

variable (readers : Readers) (formatTime : Nat → String)
-- RFC 3339 texts are read back as the time they were written for
variable (clock : ∀ time, readers.parseTime (formatTime time) = some time)

theorem fix_decodes (fix : SuggestedFix) :
    decodeNested fixShape (encodeFix fix) = .ok (seenFix fix) := by
  have decoded : decodeValue false fixShape (encodeFix fix) = .ok (seenFix fix) := by
    apply decodes_value
    apply decodes_append
    · apply Decodes.stored rfl rfl
      apply Decodes.stored rfl rfl
      apply Decodes.stored rfl rfl
      apply Decodes.stored rfl rfl
      unfold omitEmpty
      split
      · exact Decodes.nil _
      · exact Decodes.unknown rfl (Decodes.nil _)
    · exact Decodes.stored rfl rfl (Decodes.nil _)
  rw [decodeNested, decoded]

include clock in
theorem result_decodes (result : CheckResult) :
    decodeNested (checkShape readers) (encodeResult formatTime result) =
      .ok (seenCheck result) := by
  have decoded : decodeValue false (checkShape readers) (encodeResult formatTime result) =
      .ok (seenCheck result) := by
    apply decodes_value
    apply decodes_append _ _ _ _ { seenCheck result with executedAt := 0 }
    · apply decodes_append _ _ _ _ { seenCheck result with executedAt := 0, suggestedFix := none }
      · apply decodes_append _ _ _ _
          { seenCheck result with executedAt := 0, suggestedFix := none, evidence := [] }
        · apply decodes_append _ _ _ _
            { seenCheck result with
              executedAt := 0, suggestedFix := none, evidence := [], message := "" }
          · apply Decodes.stored rfl rfl
            exact Decodes.stored rfl rfl (Decodes.nil _)
          · exact omitted_decodes (checkShape readers) "message" result.message "string"
              (fun text (target : Check) => { target with message := text }) _ rfl rfl
        · unfold seenCheck
          cases result.evidence with
          | none => exact Decodes.nil _
          | some members =>
              cases members with
              | nil => exact Decodes.nil _
              | cons member members => exact Decodes.stored rfl rfl (Decodes.nil _)
      · unfold seenCheck
        cases result.suggestedFix with
        | none => exact Decodes.nil _
        | some fix =>
            apply Decodes.stored rfl _ (Decodes.nil _)
            simp only [pointerField, encodeFix]
            rw [← encodeFix, fix_decodes fix]
            rfl
    · exact Decodes.stored rfl (store_time readers formatTime clock _ _ _ _) (Decodes.nil _)
  rw [decodeNested, decoded]

/-- The counts of a report fit into an `int`. -/
def ReportFits (report : DoctorReport) : Prop := report.checks.length < int64Bound

include clock in
/-- pgmctl decodes a report to what the server put into it. -/
theorem report_decodes (report : DoctorReport)
    (counted : report.summary = summariseChecks report.checks) (fits : ReportFits report) :
    decodeValue false (reportShape readers) (encodeReport formatTime report) =
      .ok (seenReport report) := by
  have bounded : ∀ test : CheckResult → Bool, FitsInt64 (report.checks.countP test : Nat) := by
    intro test
    have small := Nat.lt_of_le_of_lt (List.countP_le_length (p := test)) fits
    exact ⟨by omega, by exact_mod_cast small⟩
  have items := decode_items_map (checkShape readers) (encodeResult formatTime) seenCheck
    report.checks (fun result _ => result_decodes readers formatTime clock result)
  apply decodes_value
  apply Decodes.stored rfl rfl
  apply Decodes.stored rfl rfl
  apply Decodes.stored rfl (store_time readers formatTime clock _ _ _ _)
  apply Decodes.stored rfl
  · apply struct_stored _ _ _ _ _ _ (seenSummary report.summary)
    rw [counted, summary_counts]
    apply Decodes.stored rfl (store_int _ _ _ (bounded _) _)
    apply Decodes.stored rfl (store_int _ _ _ (bounded _) _)
    apply Decodes.stored rfl (store_int _ _ _ (bounded _) _)
    apply Decodes.stored rfl (store_int _ _ _ (bounded _) _)
    apply Decodes.stored rfl (store_int _ _ _ (bounded _) _)
    exact Decodes.nil _
  apply Decodes.stored rfl
  · change (decodeItems (checkShape readers) _).map _ = _
    rw [items]
    rfl
  exact Decodes.nil _

end Decoding

/-! ## The command -/

def worstSeverity (report : Report) : String :=
  if report.summary.fail > 0 then "FAIL"
  else if report.summary.unknown > 0 then "UNKNOWN"
  else if report.summary.warn > 0 then "WARN"
  else if report.summary.info > 0 then "INFO"
  else if report.summary.pass > 0 then "PASS"
  else ""

def doctorExitForReport (report : Report) (strict : Bool) : Except Failure Unit :=
  let worst := worstSeverity report
  if worst = "FAIL" then
    .error ⟨exitUnhealthy, "doctor: " ++ toString report.summary.fail ++ " FAIL finding(s)"⟩
  else if worst = "UNKNOWN" then
    .error ⟨exitUnknown, "doctor: " ++ toString report.summary.unknown ++ " UNKNOWN finding(s)"⟩
  else if worst = "WARN" ∧ strict = true then
    .error ⟨exitWarnStrict,
      "doctor: " ++ toString report.summary.warn ++ " WARN finding(s) (--strict)"⟩
  else .ok ()

/-- `runDoctorRun`. Every format renders the report first and then goes on to its verdict. -/
def runDoctorRun (readers : Readers) (setup : Except Failure Unit)
    (reply : Except Failure (Option Json)) (flags : ReadFlags) : Except Failure Unit := do
  let _ ← openFormat flags
  setup
  let raw ← reply
  match raw with
  | none => doctorExitForReport (reportShape readers).zero flags.strict
  | some value =>
      match decodeValue false (reportShape readers) value with
      | .error failure => .error ⟨exitUnhealthy, "decode doctor report: " ++ failure.text⟩
      | .ok report => doctorExitForReport report flags.strict

/-- The body of the request; `check` is left out to run them all. -/
def doctorBody (check : String) : Json := .obj (omitEmpty "check" check)

/-! ## The server -/

section Server

variable (texts : Texts) (start now : Nat) (answersAt : String → Answers)

/-- What a check asks of the local engine. The timelines come from the fan-out, if there is
one. -/
def engineCalls (aggregatorWired : Bool) (check : String) : List EngineCall :=
  if check = "engine.diagnose-clean" then [.diagnose]
  else if check = "replication.timeline-consistent" && aggregatorWired then []
  else [.status]

/-- The checks of these names, each with the answers it gets. -/
def selectedRuns (selected : List String) : List (NamedCheck × Answers) :=
  selected.filterMap (fun name =>
    (findCheckByName (defaultDoctorChecks texts) name).map (fun check =>
      (check, answersAt name)))

def catalogNames : List String := (defaultDoctorChecks texts).map NamedCheck.name

def doctorRun (aggregatorWired : Bool) (selected : List String) : DoctorRun where
  calls := selected.flatMap (engineCalls aggregatorWired)
  report := .ok (encodeReport texts.formatTime
    (doctorReport start now (selectedRuns texts answersAt selected)))

/-- A server with the registry, at a moment when its engine gives these answers. -/
def withRegistry (server : Server) : Server :=
  { server with doctorCatalog := catalogNames texts }

def whileAnswering (server : Server) (moment : Moment) : Moment :=
  { moment with doctor := doctorRun texts start now answersAt server.aggregatorWired }

/-- The status and the body a request is answered with. -/
def responseOf : Option Closing → Nat × Option Json
  | some ⟨_, .envelope envelope⟩ => (envelope.status, envelope.toJson)
  | _ => (200, none)

/-- `ExitCodeFromError` for what `do` returns once the server has answered. -/
def exitCodeFromError : ClientError → Nat
  | .api failure =>
      if failure.code = "auth_required" ∨ failure.code = "auth_invalid" then exitNetwork
      else exitUnhealthy
  | .emptyResponse _ => exitUnhealthy
  | .decode _ _ => exitUnhealthy

/-- What `PostJSON` returns when the handler of a caller ends like this. -/
def clientReply (url actor : String) (server : Server) (moment : Moment) (request : Request)
    (ending : Ending) : Except Failure (Option Json) :=
  let response := responseOf (close server .doctorRun moment request actor ending)
  match readResponse response.1 response.2 with
  | .ok envelope => .ok envelope.engineResult
  | .error failure => .error ⟨exitCodeFromError failure, failure.text url⟩

/-- The findings a run of these names makes, by severity. -/
def severitiesOf (selected : List String) : List Severity :=
  (selectedRuns texts answersAt selected).map (fun run => (run.1.run run.2).severity)

end Server

/-- FAIL before UNKNOWN before WARN, which counts only when asked to. -/
def exitFor (strict : Bool) (found : List Severity) : Nat :=
  if .fail ∈ found then exitUnhealthy
  else if .unknown ∈ found then exitUnknown
  else if .warn ∈ found ∧ strict = true then exitWarnStrict
  else exitOK

theorem count_status (results : List CheckResult) (severity : Severity) :
    0 < results.countP (fun result => result.status = severity) ↔
      severity ∈ results.map CheckResult.status := by
  rw [List.countP_pos_iff, List.mem_map]
  simp only [decide_eq_true_eq]

/-- The verdict goes by the counts, and they by the results. -/
theorem exit_for_report (results : List CheckResult) (report : Report) (strict : Bool)
    (counted : report.summary = seenSummary (summariseChecks results)) :
    exitCode (doctorExitForReport report strict) =
      exitFor strict (results.map CheckResult.status) := by
  have fails := count_status results .fail
  have unknowns := count_status results .unknown
  have warns := count_status results .warn
  rw [summary_counts] at counted
  unfold doctorExitForReport worstSeverity exitFor
  simp only [counted, seenSummary, gt_iff_lt, Int.natCast_pos, fails, unknowns, warns]
  by_cases failed : .fail ∈ results.map CheckResult.status
  · simp [failed, exitCode]
  · by_cases lost : .unknown ∈ results.map CheckResult.status
    · simp [failed, lost, exitCode]
    · by_cases warned : .warn ∈ results.map CheckResult.status
      · cases strict <;> simp [failed, lost, warned, exitCode]
      · simp only [failed, lost, warned, if_false, false_and]
        split
        · simp [exitCode]
        · split <;> simp [exitCode]

theorem find_registered (texts : Texts) (check : NamedCheck)
    (registered : check ∈ defaultDoctorChecks texts) :
    findCheckByName (defaultDoctorChecks texts) check.name = some check := by
  apply find_eq_of_unique _ _ _ registered (by simp)
  intro first firstMember second secondMember firstNamed secondNamed
  rw [decide_eq_true_eq] at firstNamed secondNamed
  exact List.inj_on_of_nodup_map (catalog_names_distinct texts) firstMember secondMember
    (firstNamed.trans secondNamed.symm)

theorem all_runs (texts : Texts) (answersAt : String → Answers) :
    selectedRuns texts answersAt (catalogNames texts) =
      (defaultDoctorChecks texts).map (fun check => (check, answersAt check.name)) := by
  unfold selectedRuns catalogNames
  rw [List.filterMap_map]
  apply List.filterMap_eq_map_iff_forall_eq_some.2
  intro check registered
  simp [find_registered texts check registered]

theorem selected_length (texts : Texts) (answersAt : String → Answers) (selected : List String) :
    (selectedRuns texts answersAt selected).length ≤ selected.length :=
  List.length_filterMap_le _ _

section EndToEnd

variable (readers : Readers) (texts : Texts)
variable (clock : ∀ time, readers.parseTime (texts.formatTime time) = some time)
variable (start now : Nat) (answersAt : String → Answers) (flags : ReadFlags)
variable (url actor : String)

theorem doctor_request (request : Request) (check : String)
    (announced : request.contentLength ≠ 0) (length : Nat) (trailing : Option String)
    (sent : request.body.scan = .document (doctorBody check) length trailing) :
    decodeOptionalBody docRunRequest request = .ok ⟨check⟩ := by
  rw [decodeOptionalBody, if_neg announced, decodeBody, sent]
  unfold doctorBody omitEmpty
  by_cases all : check = ""
  · rw [if_pos all, all]
    rfl
  · rw [if_neg all]
    rfl

/-- The client gets the document the handler completes with. -/
theorem client_reads_report (server : Server) (moment : Moment) (request : Request) (value : Json)
    (latency : Int) :
    clientReply url actor server moment request (.completeOK "" (some (.value value)) latency) =
      .ok (some value) := by
  obtain ⟨read, answered, result⟩ := accepted_read
    ⟨.doctorRun, moment.requestID, .accepted, some (.value value), none⟩ _ rfl rfl rfl
  unfold clientReply
  simp only [responseOf, close]
  rw [answered]
  exact congrArg Except.ok result

/-- A refused argument is no authentication failure. -/
theorem client_reads_refusal (server : Server) (moment : Moment) (request : Request)
    (message : String) :
    ∃ text, clientReply url actor server moment request
      (.completeFail "" .invalidArgument message 0 "") = .error ⟨exitUnhealthy, text⟩ :=
  ⟨_, rfl⟩

include clock in
/-- The run of some of the checks, from the report to the exit code. -/
theorem run_exit_code (moment : Moment) (server : Server) (request : Request)
    (selected : List String) (few : selected.length < int64Bound) (format : Format)
    (valid : openFormat flags = .ok format) :
    let asked := whileAnswering texts start now answersAt server moment
    exitCode (runDoctorRun readers (.ok ())
        (clientReply url actor (withRegistry texts server) asked request
          (runDoctor asked selected).ending) flags) =
      exitFor flags.strict (severitiesOf texts answersAt selected) := by
  have fits : ReportFits (doctorReport start now (selectedRuns texts answersAt selected)) := by
    have bound := selected_length texts answersAt selected
    unfold ReportFits
    simp only [doctorReport, runChecks, List.length_map]
    omega
  have decoded := report_decodes readers texts.formatTime clock _ rfl fits
  have statuses : severitiesOf texts answersAt selected =
      (runChecks now (selectedRuns texts answersAt selected)).map CheckResult.status := by
    simp [severitiesOf, runChecks, resultOf, Function.comp_def]
  intro asked
  have same : clientReply url actor (withRegistry texts server) asked request
      (runDoctor asked selected).ending = .ok (some (encodeReport texts.formatTime
        (doctorReport start now (selectedRuns texts answersAt selected)))) :=
    client_reads_report url actor _ asked request _ _
  rw [statuses, same]
  simp only [runDoctorRun, valid, bind, Except.bind, decoded]
  exact exit_for_report _ _ flags.strict rfl

end EndToEnd

/-! ## A clean run -/

def quiet : Severity → Bool
  | .pass => true
  | .info => true
  | .warn => false
  | .fail => false
  | .unknown => false

theorem strict_ok_iff (found : List Severity) :
    exitFor true found = exitOK ↔ ∀ severity ∈ found, quiet severity = true := by
  constructor
  · intro passed severity member
    unfold exitFor at passed
    split at passed
    · cases passed
    · split at passed
      · cases passed
      · split at passed
        · cases passed
        · rename_i unfailed unlost unwarned
          cases severity with
          | pass => rfl
          | info => rfl
          | warn => exact absurd ⟨member, rfl⟩ unwarned
          | fail => exact absurd member unfailed
          | unknown => exact absurd member unlost
  · intro clean
    have absent : ∀ severity, quiet severity = false → severity ∉ found := by
      intro severity loud member
      rw [clean severity member] at loud
      cases loud
    unfold exitFor
    rw [if_neg (absent .fail rfl), if_neg (absent .unknown rfl),
      if_neg (fun both => absent .warn rfl both.1)]

/-- What each check has to find in the answers it got. -/
structure Clean (answersAt : String → Answers) : Prop where
  primary : ∃ view, (answersAt "cluster.has-primary").status = .ok view ∧
    view.instances.countP activePrimary = 1
  leader : ∃ view, (answersAt "cluster.has-leader").status = .ok view ∧
    view.status.leaderNodeID ≠ ""
  quorum : ∃ view, (answersAt "cluster.quorum").status = .ok view ∧
    view.instances.length < 2 * view.instances.countP reachable
  reachable : ∃ view, (answersAt "nodes.all-reachable").status = .ok view ∧
    ∀ inst ∈ view.instances, inst.state ≠ State.unknown
  unfailed : ∃ view, (answersAt "nodes.no-failed-state").status = .ok view ∧
    ∀ inst ∈ view.instances, inst.state ≠ State.failed
  responding : ∃ view, (answersAt "postgres.responding").status = .ok view ∧
    ∀ inst ∈ view.instances, inst.state ≠ State.unknown → inst.postgresUp = true
  lag : ∃ view, (answersAt "replication.lag-acceptable").status = .ok view ∧
    ∀ inst ∈ view.instances, inst.role = Role.standby → inst.lagBytes < replicationLagWarnBytes
  diagnosis : ∃ found, (answersAt "engine.diagnose-clean").diagnose = .ok found ∧
    found.healthy = true
  identity : ∃ view, (answersAt "cluster.identity").status = .ok view ∧
    view.identityMismatch = none
  timelines : ∃ peers, (answersAt "replication.timeline-consistent").timelines = .ok peers ∧
    ∀ peer ∈ peers, peer.answered = true → peer.divergence = none
  window : ∃ view, (answersAt "cluster.join-window").status = .ok view ∧
    ∀ window, view.joinWindow = some window →
      view.promotionAuthorization = none ∧ window.publisherHoldsLease = true

section Quiet

variable (answers : Answers)

/-- A check on the status is quiet over a status it could read and likes. -/
theorem quiet_on_status (check : View → Finding) (good : View → Prop)
    (likes : ∀ view, answers.status = .ok view →
      (quiet (onStatus check answers).severity = true ↔ good view)) :
    quiet (onStatus check answers).severity = true ↔
      ∃ view, answers.status = .ok view ∧ good view := by
  cases read : answers.status with
  | error why => simp [onStatus, read, quiet]
  | ok view =>
      rw [likes view read]
      simp

theorem quiet_ite (holds : Prop) [Decidable holds] (other : Severity)
    (loud : quiet other = false) :
    quiet (if holds then .pass else other) = true ↔ holds := by
  by_cases here : holds
  · rw [if_pos here]
    exact ⟨fun _ => here, fun _ => rfl⟩
  · rw [if_neg here, loud]
    simp [here]

theorem quiet_list_nodes (bad : WireInstance → Bool) (key : String) (severity : Severity)
    (loud : quiet severity = false) (lead : String) (fine : View → String) :
    quiet (listNodes bad key severity lead fine answers).severity = true ↔
      ∃ view, answers.status = .ok view ∧ ∀ inst ∈ view.instances, bad inst = false := by
  apply quiet_on_status answers
  intro view read
  have said := list_nodes_severity answers view read bad key severity lead fine
  rw [listNodes] at said
  rw [said, quiet_ite _ _ loud]

theorem quiet_has_primary :
    quiet (checkClusterHasPrimary answers).severity = true ↔
      ∃ view, answers.status = .ok view ∧ view.instances.countP activePrimary = 1 := by
  apply quiet_on_status answers
  intro view read
  have said := has_primary_severity answers view read
  rw [checkClusterHasPrimary] at said
  rw [said, quiet_ite _ _ rfl]

theorem quiet_has_leader :
    quiet (checkClusterHasLeader answers).severity = true ↔
      ∃ view, answers.status = .ok view ∧ view.status.leaderNodeID ≠ "" := by
  apply quiet_on_status answers
  intro view read
  have said := has_leader_severity answers view read
  rw [checkClusterHasLeader] at said
  rw [said, ← ite_not, quiet_ite _ _ rfl]

theorem quiet_quorum :
    quiet (checkClusterQuorum answers).severity = true ↔
      ∃ view, answers.status = .ok view ∧
        view.instances.length < 2 * view.instances.countP reachable := by
  cases read : answers.status with
  | error why =>
      simp [checkClusterQuorum, QuorumVerdicts.checkClusterQuorum, read, Except.map, quiet]
  | ok view =>
      rw [quorum_severity answers view read]
      by_cases empty : view.instances = []
      · rw [if_pos empty]
        simp [empty, quiet]
      · rw [if_neg empty, quiet_ite _ _ rfl]
        simp

theorem quiet_all_reachable :
    quiet (checkNodesAllReachable answers).severity = true ↔
      ∃ view, answers.status = .ok view ∧
        ∀ inst ∈ view.instances, inst.state ≠ State.unknown := by
  rw [checkNodesAllReachable, quiet_list_nodes answers _ _ _ rfl]
  simp only [decide_eq_false_iff_not, ne_eq]

theorem quiet_no_failed_state :
    quiet (checkNodesNoFailedState answers).severity = true ↔
      ∃ view, answers.status = .ok view ∧
        ∀ inst ∈ view.instances, inst.state ≠ State.failed := by
  rw [checkNodesNoFailedState, quiet_list_nodes answers _ _ _ rfl]
  simp only [decide_eq_false_iff_not, ne_eq]

theorem quiet_responding :
    quiet (checkPostgresResponding answers).severity = true ↔
      ∃ view, answers.status = .ok view ∧
        ∀ inst ∈ view.instances, inst.state ≠ State.unknown → inst.postgresUp = true := by
  rw [checkPostgresResponding, quiet_list_nodes answers _ _ _ rfl]
  simp only [Bool.and_eq_false_imp, decide_eq_true_eq, Bool.not_eq_false']

theorem quiet_lag :
    quiet (checkReplicationLag answers).severity = true ↔
      ∃ view, answers.status = .ok view ∧ ∀ inst ∈ view.instances,
        inst.role = Role.standby → inst.lagBytes < replicationLagWarnBytes := by
  apply quiet_on_status answers
  intro view read
  have said := lag_severity answers view read
  rw [checkReplicationLag] at said
  rw [said]
  have small : replicationLagWarnBytes < replicationLagFailBytes := by decide
  constructor
  · intro calm inst member role
    by_contra lags
    split at calm
    · cases calm
    · rename_i unfailed
      rw [if_pos] at calm
      · cases calm
      · refine ⟨inst, member, ?_⟩
        have below : ¬lagsFail inst = true := fun fails => unfailed ⟨inst, member, fails⟩
        simp only [lagsFail, lagsWarn, role, decide_true, Bool.true_and, decide_eq_true_eq,
          Bool.and_eq_true, Bool.not_eq_true', decide_eq_false_iff_not] at below ⊢
        omega
  · intro calm
    have close : ∀ inst ∈ view.instances, lagsFail inst = false ∧ lagsWarn inst = false := by
      intro inst member
      by_cases role : inst.role = Role.standby
      · have below := calm inst member role
        simp only [lagsFail, lagsWarn, role, decide_true, Bool.true_and, decide_eq_false_iff_not,
          Bool.and_eq_false_imp, Bool.not_eq_true', decide_eq_false_iff_not]
        omega
      · simp [lagsFail, lagsWarn, role]
    rw [if_neg, if_neg]
    · rfl
    · intro lagging
      rcases lagging with ⟨inst, member, lags⟩
      rw [(close inst member).2] at lags
      cases lags
    · intro lagging
      rcases lagging with ⟨inst, member, lags⟩
      rw [(close inst member).1] at lags
      cases lags

theorem quiet_diagnose (texts : Texts) :
    quiet (checkEngineDiagnose texts answers).severity = true ↔
      ∃ found, answers.diagnose = .ok found ∧ found.healthy = true := by
  cases read : answers.diagnose with
  | error why => simp [checkEngineDiagnose, read, quiet]
  | ok found =>
      rw [diagnose_severity texts answers found read, quiet_ite]
      · simp
      · split <;> rfl

theorem quiet_identity :
    quiet (checkClusterIdentity answers).severity = true ↔
      ∃ view, answers.status = .ok view ∧ view.identityMismatch = none := by
  apply quiet_on_status answers
  intro view read
  have said := identity_severity answers view read
  rw [checkClusterIdentity] at said
  rw [said, quiet_ite _ _ rfl]

theorem quiet_timelines (texts : Texts) :
    quiet (checkTimelineConsistent texts answers).severity = true ↔
      ∃ peers, answers.timelines = .ok peers ∧
        ∀ peer ∈ peers, peer.answered = true → peer.divergence = none := by
  cases read : answers.timelines with
  | error why => simp [checkTimelineConsistent, read, quiet]
  | ok peers =>
      rw [timeline_severity texts answers peers read, ← ite_not, quiet_ite _ _ rfl]
      push Not
      simp only [Except.ok.injEq, exists_eq_left']
      apply forall₂_congr
      intro peer _
      unfold reported
      cases peer.answered <;> cases peer.divergence <;> simp

theorem quiet_window (texts : Texts) :
    quiet (checkJoinWindow texts answers).severity = true ↔
      ∃ view, answers.status = .ok view ∧ ∀ window, view.joinWindow = some window →
        view.promotionAuthorization = none ∧ window.publisherHoldsLease = true := by
  rw [← join_window_pass_iff texts answers]
  unfold checkJoinWindow
  dsimp only
  have graver := Control.JoinWindowCheck.check_not_info texts.roundText texts.abandonSilence
    (answers.status.map View.toWindowView)
  generalize (Control.JoinWindowCheck.checkJoinWindow texts.roundText texts.abandonSilence
    (answers.status.map View.toWindowView)).severity = severity at graver ⊢
  cases severity <;> simp [quiet] at graver ⊢

end Quiet

/-- A whole run is quiet exactly over clean answers. -/
theorem all_quiet_iff (texts : Texts) (answersAt : String → Answers) :
    (∀ severity ∈ severitiesOf texts answersAt (catalogNames texts), quiet severity = true) ↔
      Clean answersAt := by
  have found : severitiesOf texts answersAt (catalogNames texts) =
      [(checkClusterHasPrimary (answersAt "cluster.has-primary")).severity,
        (checkClusterHasLeader (answersAt "cluster.has-leader")).severity,
        (checkClusterQuorum (answersAt "cluster.quorum")).severity,
        (checkNodesAllReachable (answersAt "nodes.all-reachable")).severity,
        (checkNodesNoFailedState (answersAt "nodes.no-failed-state")).severity,
        (checkPostgresResponding (answersAt "postgres.responding")).severity,
        (checkReplicationLag (answersAt "replication.lag-acceptable")).severity,
        (checkEngineDiagnose texts (answersAt "engine.diagnose-clean")).severity,
        (checkClusterIdentity (answersAt "cluster.identity")).severity,
        (checkTimelineConsistent texts
          (answersAt "replication.timeline-consistent")).severity,
        (checkJoinWindow texts (answersAt "cluster.join-window")).severity] := by
    rw [severitiesOf, all_runs]
    rfl
  rw [found]
  simp only [List.forall_mem_cons, quiet_has_primary, quiet_has_leader, quiet_quorum,
    quiet_all_reachable, quiet_no_failed_state, quiet_responding, quiet_lag, quiet_diagnose,
    quiet_identity, quiet_timelines, quiet_window]
  constructor
  · intro all
    rcases all with ⟨primary, leader, quorum, reached, unfailed, responding, lag, diagnosis,
      identity, timelines, window, -⟩
    exact ⟨primary, leader, quorum, reached, unfailed, responding, lag, diagnosis, identity,
      timelines, window⟩
  · intro clean
    exact ⟨clean.primary, clean.leader, clean.quorum, clean.reachable, clean.unfailed,
      clean.responding, clean.lag, clean.diagnosis, clean.identity, clean.timelines, clean.window,
      List.forall_mem_nil _⟩

section Results

variable (readers : Readers) (texts : Texts)
variable (start now : Nat) (answersAt : String → Answers) (flags : ReadFlags)
variable (url actor : String)

/-- What `pgmctl doctor` exits with when the server lets its request through and the checks get
these answers. -/
def doctorExit (server : Server) (moment : Moment) (request : Request) : Nat :=
  let registered := withRegistry texts server
  let asked := whileAnswering texts start now answersAt server moment
  exitCode (runDoctorRun readers (.ok ())
    (clientReply url actor registered asked request
      (handleDoctorRun registered asked request).ending) flags)

/-- The request of `pgmctl doctor`, with or without `--check`, as it arrives. -/
structure Sent (check : String) (request : Request) : Prop where
  announced : request.contentLength ≠ 0
  body : ∃ length trailing,
    request.body.scan = .document (doctorBody check) length trailing

theorem doctor_exit_severities
    (clock : ∀ time, readers.parseTime (texts.formatTime time) = some time) (server : Server)
    (moment : Moment) (request : Request) (check : String) (sent : Sent check request)
    (format : Format) (valid : openFormat flags = .ok format) :
    doctorExit readers texts start now answersAt flags url actor server moment request =
      if check = "" then exitFor flags.strict (severitiesOf texts answersAt (catalogNames texts))
      else if check ∈ catalogNames texts then
        exitFor flags.strict (severitiesOf texts answersAt [check])
      else exitUnhealthy := by
  rcases sent.body with ⟨length, trailing, scanned⟩
  have read := doctor_request request check sent.announced length trailing scanned
  have few : (catalogNames texts).length < int64Bound := by
    change 11 < int64Bound
    decide
  have names : (withRegistry texts server).doctorCatalog = catalogNames texts := rfl
  unfold doctorExit handleDoctorRun
  dsimp only
  rw [read, names]
  dsimp only
  by_cases all : check = ""
  · rw [if_pos all, if_pos all]
    exact run_exit_code readers texts clock start now answersAt flags url actor moment server
      request _ few format valid
  · rw [if_neg all, if_neg all]
    by_cases listed : check ∈ catalogNames texts
    · rw [if_pos listed, if_pos listed]
      exact run_exit_code readers texts clock start now answersAt flags url actor moment server
        request [check] (by simp [int64Bound]) format valid
    · rw [if_neg listed, if_neg listed]
      obtain ⟨text, refused⟩ := client_reads_refusal url actor (withRegistry texts server)
        (whileAnswering texts start now answersAt server moment) request
        ("unknown check: " ++ check)
      simp only [runDoctorRun, valid, bind, Except.bind, Handled.local, refused]
      rfl

/-- In every format the exit code says which severities the selected checks reached, FAIL before
UNKNOWN before WARN, and an unknown name exits as unhealthy. A strict run of all checks exits with
zero exactly if every check found its part of the cluster clean in the answers it got. -/
theorem doctor_exit_exact
    (clock : ∀ time, readers.parseTime (texts.formatTime time) = some time) (server : Server)
    (moment : Moment) (request : Request) (check : String) (sent : Sent check request)
    (format : Format) (valid : openFormat flags = .ok format) :
    (doctorExit readers texts start now answersAt flags url actor server moment request =
      if check = "" then exitFor flags.strict (severitiesOf texts answersAt (catalogNames texts))
      else if check ∈ catalogNames texts then
        exitFor flags.strict (severitiesOf texts answersAt [check])
      else exitUnhealthy) ∧
      (check = "" → flags.strict = true →
        (doctorExit readers texts start now answersAt flags url actor server moment request =
            exitOK ↔
          Clean answersAt)) := by
  have said := doctor_exit_severities readers texts start now answersAt flags url actor clock
    server moment request check sent format valid
  refine ⟨said, ?_⟩
  intro all strict
  rw [said, if_pos all, strict, strict_ok_iff, all_quiet_iff]

def plainFlags : ReadFlags where
  outputFormat := "json"
  quiet := false
  verbose := 0
  force := false
  endpoint := ""
  context := ""
  cluster := ""
  configPath := ""
  insecureSkipTLSVerify := false
  strict := false

def plainTexts : Texts := ⟨toString, 0, fun _ => "", secondsText⟩

/-- `pgmctl doctor --check cluster.quorum` -/
def quorumRequest : Request :=
  { failoverRequest with
    path := "/v1/doctor/run"
    contentLength := 26
    body := ⟨26, .document (doctorBody "cluster.quorum") 25 none⟩ }

theorem unread_quorum_exits_unknown :
    doctorExit numberedReaders plainTexts 1 2
        (fun _ => ⟨.error "kv timeout", .error "kv timeout", .error "kv timeout"⟩) plainFlags
        "http://127.0.0.1:9090/v1/doctor/run" "operator" (sampleServer "n1")
        (sampleMoment true refusingEngine (fun _ => .error .leaderRouteTimeout))
        quorumRequest = exitUnknown := by
  rw [(doctor_exit_exact numberedReaders plainTexts 1 2 _ plainFlags _ _ seconds_read _ _
    quorumRequest "cluster.quorum" ⟨by decide, 25, none, rfl⟩ .json rfl).1]
  rfl

end Results

end PgmanProxy.Pgmctl.DoctorReport
