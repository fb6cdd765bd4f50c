import PgmanProxy.PgManager

/-!
# The wire vocabulary of the LCM control plane

Operations with their routes, outcomes, error codes and the HTTP status of
each, the audit record, and the response envelope with its JSON form.
-/

namespace PgmanProxy.Control.Wire

open PgmanProxy.Library.GoJson

set_option autoImplicit false

inductive Op where
  | status
  | diagnose
  | historyQuery
  | switchover
  | failover
  | fence
  | unfence
  | promote
  | authorizePromotion
  | cancelPromotionAuthorization
  | updateTopology
  | triggerBackup
  | prepareUpgrade
  | executeUpgrade
  | doctorChecks
  | doctorRun
  | doctorFix
  | restart
  | setConfig
  | watchStatus
  | watchTransitions
  | watchEvents
  | watchNode
deriving DecidableEq, Repr

/-- One `mux.Handle` line of `Handler`. -/
structure Route where
  method : String
  path : String
  name : String
  mutating : Bool
  leaderOnly : Bool
deriving DecidableEq, Repr

def Op.route : Op → Route
  | .status => ⟨"GET", "/v1/status", "Status", false, false⟩
  | .diagnose => ⟨"GET", "/v1/diagnose", "Diagnose", false, false⟩
  | .historyQuery => ⟨"GET", "/v1/history", "HistoryQuery", false, false⟩
  | .switchover => ⟨"POST", "/v1/switchover", "Switchover", true, true⟩
  | .failover => ⟨"POST", "/v1/failover", "Failover", true, true⟩
  | .fence => ⟨"POST", "/v1/fence", "Fence", true, true⟩
  | .unfence => ⟨"POST", "/v1/unfence", "Unfence", true, true⟩
  | .promote => ⟨"POST", "/v1/promote", "Promote", true, false⟩
  | .authorizePromotion =>
      ⟨"POST", "/v1/promotion-authorization", "AuthorizePromotion", true, false⟩
  | .cancelPromotionAuthorization =>
      ⟨"DELETE", "/v1/promotion-authorization", "CancelPromotionAuthorization", true, false⟩
  | .updateTopology => ⟨"POST", "/v1/topology", "UpdateTopology", true, true⟩
  | .triggerBackup => ⟨"POST", "/v1/backup", "TriggerBackup", true, true⟩
  | .prepareUpgrade => ⟨"POST", "/v1/upgrade/prepare", "PrepareUpgrade", true, true⟩
  | .executeUpgrade => ⟨"POST", "/v1/upgrade/execute", "ExecuteUpgrade", true, true⟩
  | .doctorChecks => ⟨"GET", "/v1/doctor/checks", "DoctorChecks", false, false⟩
  | .doctorRun => ⟨"POST", "/v1/doctor/run", "DoctorRun", false, false⟩
  | .doctorFix => ⟨"POST", "/v1/doctor/fix", "DoctorFix", true, false⟩
  | .restart => ⟨"POST", "/v1/restart", "Restart", true, false⟩
  | .setConfig => ⟨"POST", "/v1/config/set", "SetConfig", true, false⟩
  | .watchStatus => ⟨"GET", "/v1/watch/status", "WatchStatus", false, false⟩
  | .watchTransitions => ⟨"GET", "/v1/watch/transitions", "WatchTransitions", false, false⟩
  | .watchEvents => ⟨"GET", "/v1/watch/events", "WatchEvents", false, false⟩
  | .watchNode => ⟨"GET", "/v1/watch/node/\x7bid\x7d", "WatchNode", false, false⟩

def Op.name (op : Op) : String := op.route.name
def Op.mutating (op : Op) : Bool := op.route.mutating
def Op.leaderOnly (op : Op) : Bool := op.route.leaderOnly

/-- The operations the leader runs for everybody: `isKnownLeaderOnlyOp` lists
exactly the routes registered as leader-only. -/
inductive LeaderOp where
  | switchover
  | failover
  | fence
  | unfence
  | updateTopology
  | triggerBackup
  | prepareUpgrade
  | executeUpgrade
deriving DecidableEq, Repr

def LeaderOp.op : LeaderOp → Op
  | .switchover => .switchover
  | .failover => .failover
  | .fence => .fence
  | .unfence => .unfence
  | .updateTopology => .updateTopology
  | .triggerBackup => .triggerBackup
  | .prepareUpgrade => .prepareUpgrade
  | .executeUpgrade => .executeUpgrade

@[simp] theorem leader_op_mutating (op : LeaderOp) : op.op.mutating = true := by
  cases op <;> rfl

@[simp] theorem leader_op_leader_only (op : LeaderOp) : op.op.leaderOnly = true := by
  cases op <;> rfl

inductive Outcome where
  | accepted
  | rejected
  | failed
deriving DecidableEq, Repr

def Outcome.text : Outcome → String
  | .accepted => "accepted"
  | .rejected => "rejected"
  | .failed => "failed"

inductive Code where
  | authRequired
  | authInvalid
  | notLeader
  | clusterBootstrapping
  | leadershipInTransition
  | backupExecutorMissing
  | auditUnavailable
  | engineError
  | invalidArgument
  | leaderRouteTimeout
  | advisoryOnly
  | internal
  | supervisorNotDetected
  | wrongPeer
  | setConfigKeyDisallowed
  | notSupported
  | noJoinWindow
  | promotionRefused
  | promotionAuthorizationPending
deriving DecidableEq, Repr

def Code.text : Code → String
  | .authRequired => "auth_required"
  | .authInvalid => "auth_invalid"
  | .notLeader => "not_leader"
  | .clusterBootstrapping => "cluster_bootstrapping"
  | .leadershipInTransition => "leadership_in_transition"
  | .backupExecutorMissing => "backup_executor_missing"
  | .auditUnavailable => "audit_unavailable"
  | .engineError => "engine_error"
  | .invalidArgument => "invalid_argument"
  | .leaderRouteTimeout => "leader_route_timeout"
  | .advisoryOnly => "advisory_only"
  | .internal => "internal"
  | .supervisorNotDetected => "supervisor_not_detected"
  | .wrongPeer => "wrong_peer"
  | .setConfigKeyDisallowed => "set_config_key_disallowed"
  | .notSupported => "not_supported"
  | .noJoinWindow => "no_join_window"
  | .promotionRefused => "promotion_refused"
  | .promotionAuthorizationPending => "promotion_authorization_pending"

def httpStatusForCode : Code → Nat
  | .authRequired => 401
  | .authInvalid => 403
  | .clusterBootstrapping => 409
  | .leadershipInTransition | .auditUnavailable => 503
  | .backupExecutorMissing | .advisoryOnly | .supervisorNotDetected => 412
  | .invalidArgument | .wrongPeer | .setConfigKeyDisallowed => 400
  | .leaderRouteTimeout => 504
  | .notSupported => 501
  | .noJoinWindow | .promotionRefused | .promotionAuthorizationPending => 409
  | .notLeader | .engineError | .internal => 500

structure AuditRecord where
  time : String
  requestID : String
  operation : Op
  target : String
  actor : String
  sourceAddr : String
  outcome : Outcome
  engineLatencyMS : Int
  totalLatencyMS : Int
  errorCode : Option Code
  clusterID : String
  nodeID : String
  traceID : String
  spanID : String
  leaderAtRequest : String
deriving DecidableEq, Repr

structure ErrorEnvelope where
  code : Code
  message : String
deriving DecidableEq, Repr

/-- Bytes another peer replied with, as the JSON encoder will meet them. -/
inductive RawJSON where
  | empty
  | encoded (value : Json)
  | malformed
deriving Repr

/-- `rawJSON.MarshalJSON`; the encoder rejects a marshaler that emits broken JSON. -/
def RawJSON.marshal : RawJSON → Option Json
  | .empty => some .null
  | .encoded value => some value
  | .malformed => none

inductive EngineResult where
  | value (json : Json)
  | raw (reply : RawJSON)
deriving Repr

def EngineResult.marshal : EngineResult → Option Json
  | .value json => some json
  | .raw reply => reply.marshal

structure Envelope where
  operation : Op
  requestID : String
  outcome : Outcome
  engineResult : Option EngineResult
  error : Option ErrorEnvelope
deriving Repr

/-- The status `writeEnvelope` sends. -/
def Envelope.status (envelope : Envelope) : Nat :=
  match envelope.error with
  | none => 200
  | some failure => httpStatusForCode failure.code

def Envelope.code (envelope : Envelope) : Option Code :=
  envelope.error.map (fun failure => failure.code)

def ErrorEnvelope.toJson (failure : ErrorEnvelope) : Json :=
  .obj [("code", .str failure.code.text), ("message", .str failure.message)]

/-- The JSON document `encodeJSON` writes; `none` when the spliced reply is not
JSON, in which case the encoder writes nothing after the header. -/
def Envelope.toJson (envelope : Envelope) : Option Json :=
  let head := [("operation", Json.str envelope.operation.name),
    ("request_id", .str envelope.requestID), ("outcome", .str envelope.outcome.text)]
  let tail := match envelope.error with
    | none => []
    | some failure => [("error", failure.toJson)]
  match envelope.engineResult with
  | none => some (.obj (head ++ tail))
  | some result =>
      match result.marshal with
      | none => none
      | some json => some (.obj (head ++ [("engine_result", json)] ++ tail))

end PgmanProxy.Control.Wire
