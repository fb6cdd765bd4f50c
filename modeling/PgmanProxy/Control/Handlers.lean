import PgmanProxy.Obs.Tracer
import PgmanProxy.Control.Auth
import PgmanProxy.Control.Requests

/-!
# The route handlers of the HTTP control plane

A handler is a function from what it reads to the engine calls it makes, the
message it forwards and the way it ends (`completeOK`, `completeFail`, `refuse`,
a panic, a stream). Everything the outside answers during one request (the
engine, the leader view, the token source, the forward transport, clocks and
identifiers) is a `Moment`.
-/

namespace PgmanProxy.Control.Handlers

open PgmanProxy.Library.GoJson PgmanProxy.PgManager PgmanProxy.Obs.Tracer
open PgmanProxy.Control.Wire PgmanProxy.Control.Auth PgmanProxy.Control.Requests

set_option autoImplicit false

structure Request where
  authorization : String
  traceparent : String
  remoteAddr : String
  path : String
  contentLength : Int
  body : Input
  /-- `parseHistoryQuery` of the query string: the refusal text, or no objection. -/
  historyQuery : Option String

/-- A forwarded request as it travels on NATS. -/
structure Message where
  subject : String
  requestID : String
  actor : String
  traceparent : String
  data : Input

inductive ForwardError where
  | leaderRouteTimeout
  | transport (text : String)
deriving DecidableEq, Repr

structure LeaderView where
  isLeader : Bool
  leaderID : String
  leaderAddr : String
deriving DecidableEq, Repr

structure Stamp where
  time : String
  engineLatencyMS : Int
  totalLatencyMS : Int
deriving DecidableEq, Repr

/-- What the doctor's checks ask of the engine, and their report or panic. -/
structure DoctorRun where
  calls : List EngineCall
  report : Except String Json

structure Moment where
  requestID : String
  stamp : Stamp
  tokens : TokenSource
  leader : LeaderView
  engine : Engine
  forward : Message → Except ForwardError RawJSON
  enrichStatus : Status → Status
  queryHistory : Result Json
  reload : Result Unit
  doctor : List String → DoctorRun

structure ProxySelfTerminator where
  supervisorPresence : String
  localNodeID : String
deriving DecidableEq, Repr

structure Server where
  clusterID : String
  nodeID : String
  auth : Authenticator
  mode : String
  shapes : WireShapes
  aggregatorWired : Bool
  historyWired : Bool
  reloaderWired : Bool
  embeddedSnapshot : Option Json
  proxy : Option ProxySelfTerminator
  doctorCatalog : List String
  doctorChecks : Json

structure RequestEnv where
  op : Op
  reqID : String
  actor : String
  forwarded : Bool
deriving DecidableEq, Repr

inductive Ending where
  | completeOK (target : String) (result : Option EngineResult) (engineLatencyMS : Int)
  | completeFail (target : String) (code : Code) (message : String) (engineLatencyMS : Int)
      (leaderAt : String)
  | refuse (code : Code) (message : String)
  | panic (value : String)
  | stream

structure Handled where
  calls : List EngineCall
  sent : Option Message
  ending : Ending

/-- An ending reached without talking to the engine or another peer. -/
def Handled.local (ending : Ending) : Handled := ⟨[], none, ending⟩

def rejectInvalid (message : String) : Ending := .refuse .invalidArgument message

/-- How a handler ends once the operation has been run. -/
def conclude (engineLatencyMS : Int) : Dispatch → Ending
  | .invalid message => rejectInvalid message
  | .completed _ target result => .completeOK target result engineLatencyMS
  | .failed _ target code message => .completeFail target code message engineLatencyMS ""
  | .panicked _ value => .panic value

/-- `LeaderRouter.Forward` up to the transport. -/
def forwardMessage (server : Server) (request : Request) (env : RequestEnv) : Message where
  subject := "pgman_proxy." ++ server.clusterID ++ ".lcm.request." ++ env.op.name
  requestID := env.reqID
  actor := env.actor
  traceparent := (parseTraceParent request.traceparent).header
  data := request.body

def forwardEngineCall (server : Server) (moment : Moment) (request : Request)
    (env : RequestEnv) : Handled :=
  if request.body.size > maxRequestBodyBytes then
    .local (rejectInvalid "read body: http: request body too large")
  else
    let message := forwardMessage server request env
    let latency := moment.stamp.engineLatencyMS
    let leaderID := moment.leader.leaderID
    let ending := match moment.forward message with
      | .error .leaderRouteTimeout =>
          .completeFail "" .leaderRouteTimeout "forward to leader timed out" latency leaderID
      | .error (.transport text) => .completeFail "" .engineError text latency leaderID
      -- the leader's envelope becomes the engine result of a fresh accepted envelope
      | .ok reply => .completeOK "" (some (.raw reply)) latency
    ⟨[], some message, ending⟩

/-- The handlers of the leader-only operations. -/
def handleLeaderOp (op : LeaderOp) (server : Server) (moment : Moment) (request : Request)
    (env : RequestEnv) : Handled :=
  if env.forwarded then forwardEngineCall server moment request env
  else
    let dispatch := dispatchEngine server.shapes .decodeJSON moment.engine request.body op
    ⟨dispatch.calls, none, conclude moment.stamp.engineLatencyMS dispatch⟩

def handleSwitchover := handleLeaderOp .switchover
def handleFailover := handleLeaderOp .failover
def handleFence := handleLeaderOp .fence
def handleUnfence := handleLeaderOp .unfence
def handleUpdateTopology := handleLeaderOp .updateTopology
def handleTriggerBackup := handleLeaderOp .triggerBackup
def handlePrepareUpgrade := handleLeaderOp .prepareUpgrade
def handleExecuteUpgrade := handleLeaderOp .executeUpgrade

def promoteNotSupported : String :=
  "promote is not supported: pg-manager's Manager.Promote never " ++
  "acted on a request, so this endpoint used to report success without promoting. " ++
  "To end a join window whose publisher is lost, use POST /v1/promotion-authorization " ++
  "(pgmctl promote NODE --accept-data-loss). To move the primary, use POST /v1/switchover " ++
  "or POST /v1/failover (both need a leader)"

def handlePromote : Handled :=
  .local (.refuse .notSupported promoteNotSupported)

def promotionErrorCode (failure : EngineError) : Code :=
  if failure.is .configInvalid then .invalidArgument
  else if failure.is .noJoinWindow then .noJoinWindow
  else if failure.is .promotionAuthorizationPending then .promotionAuthorizationPending
  else if failure.is .targetIsPublisher || failure.is .targetNotEligible ||
      failure.is .publisherNotSilent || failure.is .targetIdentityMismatch ||
      failure.is .targetBehind then .promotionRefused
  else .engineError

/-- `int64` arithmetic wraps around. -/
def wrapInt64 (value : Int) : Int :=
  (value + int64Bound) % (2 * int64Bound) - int64Bound

theorem wrap_int64_eq_iff (value : Int) :
    wrapInt64 value = value ↔ -(int64Bound : Int) ≤ value ∧ value < int64Bound := by
  unfold wrapInt64 int64Bound
  omega

/-- `time.Duration(n) * time.Second` -/
def secondsDuration (seconds : Int) : Int :=
  wrapInt64 (seconds * 1000000000)

def authorizePromotionCall (server : Server) (moment : Moment)
    (request : PromotionAuthorizationRequest) : Handled :=
  let call := EngineCall.authorizeJoinWindowPromotion request
  match moment.engine call with
  | .returned authorization =>
      ⟨[call], none, .completeOK request.target
        (some (.value (server.shapes.encodeAuthorization authorization)))
        moment.stamp.engineLatencyMS⟩
  | .failed failure =>
      ⟨[call], none, .completeFail request.target (promotionErrorCode failure) failure.text
        moment.stamp.engineLatencyMS ""⟩
  | .panicked value => ⟨[call], none, .panic value⟩

def handleAuthorizePromotion (server : Server) (moment : Moment) (request : Request)
    (env : RequestEnv) : Handled :=
  match Decoding.decode .decodeJSON promotionAuthorizationReq request.body with
  | .error failure => .local (rejectInvalid ("decode body: " ++ failure.text))
  | .ok body =>
      if body.target = "" then .local (rejectInvalid "target is required")
      else if body.reason = "" then .local (rejectInvalid "reason is required")
      else if !body.acceptDataLoss then
        .local (rejectInvalid ("accept_data_loss must be true: promoting " ++ body.target ++
          " abandons every write the join-window publisher acknowledged that " ++ body.target ++
          " has not received"))
      else if body.ttlSeconds < 0 then .local (rejectInvalid "ttl_seconds must be >= 0")
      else
        authorizePromotionCall server moment
          { target := body.target, actor := env.actor, reason := body.reason,
            requestID := env.reqID, ttl := secondsDuration body.ttlSeconds,
            replace := body.replace }

def handleCancelPromotionAuthorization (server : Server) (moment : Moment) : Handled :=
  let call := EngineCall.cancelPromotionAuthorization
  match moment.engine call with
  | .failed failure =>
      ⟨[call], none,
        .completeFail "" .engineError failure.text moment.stamp.engineLatencyMS ""⟩
  | .returned none => ⟨[call], none, .completeOK "" none moment.stamp.engineLatencyMS⟩
  | .returned (some authorization) =>
      ⟨[call], none, .completeOK authorization.target
        (some (.value (server.shapes.encodeAuthorization authorization)))
        moment.stamp.engineLatencyMS⟩
  | .panicked value => ⟨[call], none, .panic value⟩

/-- `decodeBody`: strict, with no size cap. -/
def decodeBody {Target : Type} (shape : Shape Target) (input : Input) :
    Except DecodeError Target :=
  decodeStream true shape input.scan

def handleRestartPostgres (server : Server) (moment : Moment) (body : RestartRequest) :
    Handled :=
  let elsewhere := match server.proxy with
    | some proxy => body.targetNode ≠ "" && body.targetNode ≠ proxy.localNodeID
    | none => false
  if elsewhere then
    let localID := (server.proxy.map (fun proxy => proxy.localNodeID)).getD ""
    .local (.refuse .wrongPeer
      ("target_node " ++ body.targetNode ++ " does not match receiving peer " ++ localID))
  else
    match moment.engine .restartPostgres with
    | .returned _ =>
        ⟨[.restartPostgres], none, .completeOK body.targetNode (some (.value (.obj
          [("target", .str "postgres"), ("target_node", .str server.nodeID)])))
          moment.stamp.engineLatencyMS⟩
    | .failed failure =>
        ⟨[.restartPostgres], none, .completeFail body.targetNode .engineError failure.text
          moment.stamp.engineLatencyMS ""⟩
    | .panicked value => ⟨[.restartPostgres], none, .panic value⟩

def handleRestartProxy (server : Server) (body : RestartRequest) : Handled :=
  match server.proxy with
  | none => .local (.refuse .internal "proxy self-terminator not wired")
  | some proxy =>
      if body.targetNode = "" || body.targetNode ≠ proxy.localNodeID then
        .local (.refuse .wrongPeer ("target_node " ++ body.targetNode ++
          " does not match receiving peer " ++ proxy.localNodeID))
      else if proxy.supervisorPresence = "none" then
        .local (.refuse .supervisorNotDetected ("no process supervisor detected on this peer; " ++
          "set proxy.assume_supervised=true to override"))
      else
        .local (.completeOK proxy.localNodeID (some (.value (.obj
          [("supervisor_presence", .str proxy.supervisorPresence), ("target", .str "proxy"),
           ("target_node", .str proxy.localNodeID)]))) 0)

def handleRestart (server : Server) (moment : Moment) (request : Request) : Handled :=
  match decodeBody restartRequest request.body with
  | .error failure => .local (rejectInvalid failure.text)
  | .ok body =>
      if body.target = "postgres" then handleRestartPostgres server moment body
      else if body.target = "proxy" then handleRestartProxy server body
      else .local (rejectInvalid "invalid target: must be 'postgres' or 'proxy'")

def setConfigAllowList : List String := ["cluster.route_peers", "cluster.password"]

def handleSetConfig (server : Server) (moment : Moment) (request : Request) : Handled :=
  match decodeBody setConfigRequest request.body with
  | .error failure => .local (rejectInvalid failure.text)
  | .ok body =>
      if body.key = "" then .local (rejectInvalid "missing field 'key'")
      else if body.key ∉ setConfigAllowList then
        .local (.refuse .setConfigKeyDisallowed ("key " ++ body.key ++
          " is not in the hot-reload allow-list (peer routes + cluster password only)"))
      else if !server.reloaderWired then
        .local (.completeFail body.key .internal "reloader not wired" 0 "")
      else
        match moment.reload with
        | .returned _ =>
            .local (.completeOK body.key (some (.value (.obj
              [("applied", .bool true), ("key", .str body.key)]))) moment.stamp.engineLatencyMS)
        | .failed failure =>
            .local (.completeFail body.key .engineError failure.text
              moment.stamp.engineLatencyMS "")
        | .panicked value => .local (.panic value)

/-- Both doctor endpoints skip decoding when the request announces no body. -/
def decodeOptionalBody {Target : Type} (shape : Shape Target) (request : Request) :
    Except DecodeError Target :=
  if request.contentLength = 0 then .ok shape.zero else decodeBody shape request.body

def handleDoctorChecks (server : Server) : Handled :=
  .local (.completeOK "" (some (.value server.doctorChecks)) 0)

def runDoctor (moment : Moment) (selected : List String) : Handled :=
  let run := moment.doctor selected
  match run.report with
  | .ok report =>
      ⟨run.calls, none,
        .completeOK "" (some (.value report)) moment.stamp.engineLatencyMS⟩
  | .error value => ⟨run.calls, none, .panic value⟩

def handleDoctorRun (server : Server) (moment : Moment) (request : Request) : Handled :=
  match decodeOptionalBody docRunRequest request with
  | .error failure =>
      .local (.completeFail "" .invalidArgument ("decode body: " ++ failure.text) 0 "")
  | .ok body =>
      if body.check = "" then runDoctor moment server.doctorCatalog
      else if body.check ∈ server.doctorCatalog then runDoctor moment [body.check]
      else .local (.completeFail "" .invalidArgument ("unknown check: " ++ body.check) 0 "")

def handleDoctorFix (request : Request) : Handled :=
  match decodeOptionalBody docFixRequest request with
  | .error failure =>
      .local (.completeFail "" .invalidArgument ("decode body: " ++ failure.text) 0 "")
  | .ok body =>
      if body.fix = "" then .local (.completeFail "" .invalidArgument "missing fix name" 0 "")
      else
        .local (.completeFail body.fix .advisoryOnly ("fix \"" ++ body.fix ++
          "\" is advisory-only in this build (no apply path; recommendation only)") 0 "")

def statusResult (server : Server) (status : Status) : EngineResult :=
  let encoded := server.shapes.encodeStatus status
  match server.embeddedSnapshot with
  | some snapshot => .value (.obj [("engine", encoded), ("embedded_nats", snapshot)])
  | none => .value encoded

def handleStatus (server : Server) (moment : Moment) : Handled :=
  match moment.engine .status with
  | .returned status =>
      let enriched := if server.aggregatorWired then moment.enrichStatus status else status
      ⟨[.status], none,
        .completeOK "" (some (statusResult server enriched)) moment.stamp.engineLatencyMS⟩
  | .failed failure =>
      ⟨[.status], none,
        .completeFail "" .engineError failure.text moment.stamp.engineLatencyMS ""⟩
  | .panicked value => ⟨[.status], none, .panic value⟩

def handleDiagnose (moment : Moment) : Handled :=
  match moment.engine .diagnose with
  | .returned diagnosis =>
      ⟨[.diagnose], none,
        .completeOK "" (some (.value diagnosis)) moment.stamp.engineLatencyMS⟩
  | .failed failure =>
      ⟨[.diagnose], none,
        .completeFail "" .engineError failure.text moment.stamp.engineLatencyMS ""⟩
  | .panicked value => ⟨[.diagnose], none, .panic value⟩

def emptyHistory : Json :=
  .obj [("apiVersion", .str "pgman-proxy/v1"), ("kind", .str "HistoryQueryResult"),
    ("events", .null), ("truncated", .bool false)]

def handleHistoryQuery (server : Server) (moment : Moment) (request : Request) : Handled :=
  if !server.historyWired then .local (.completeOK "" (some (.value emptyHistory)) 0)
  else
    match request.historyQuery with
    | some refusal => .local (.completeFail "" .invalidArgument refusal 0 "")
    | none =>
        match moment.queryHistory with
        | .returned result =>
            .local (.completeOK "" (some (.value result)) moment.stamp.engineLatencyMS)
        | .failed failure =>
            .local (.completeFail "" .engineError failure.text moment.stamp.engineLatencyMS "")
        | .panicked value => .local (.panic value)

/-- The handler registered for each route. -/
def handlerFunc (server : Server) (moment : Moment) (request : Request) (env : RequestEnv) :
    Op → Handled
  | .status => handleStatus server moment
  | .diagnose => handleDiagnose moment
  | .historyQuery => handleHistoryQuery server moment request
  | .switchover => handleSwitchover server moment request env
  | .failover => handleFailover server moment request env
  | .fence => handleFence server moment request env
  | .unfence => handleUnfence server moment request env
  | .promote => handlePromote
  | .authorizePromotion => handleAuthorizePromotion server moment request env
  | .cancelPromotionAuthorization => handleCancelPromotionAuthorization server moment
  | .updateTopology => handleUpdateTopology server moment request env
  | .triggerBackup => handleTriggerBackup server moment request env
  | .prepareUpgrade => handlePrepareUpgrade server moment request env
  | .executeUpgrade => handleExecuteUpgrade server moment request env
  | .doctorChecks => handleDoctorChecks server
  | .doctorRun => handleDoctorRun server moment request
  | .doctorFix => handleDoctorFix request
  | .restart => handleRestart server moment request
  | .setConfig => handleSetConfig server moment request
  -- the watch endpoints answer with a stream, or a plain HTTP error, and are not audited
  | .watchStatus | .watchTransitions | .watchEvents | .watchNode => .local .stream

theorem handler_func_leader_op (server : Server) (moment : Moment) (request : Request)
    (env : RequestEnv) (op : LeaderOp) :
    handlerFunc server moment request env op.op =
      handleLeaderOp op server moment request env := by
  cases op <;> rfl

end PgmanProxy.Control.Handlers
