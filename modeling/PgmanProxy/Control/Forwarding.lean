import PgmanProxy.Control.LeaderRoute
import PgmanProxy.Pgmctl.Client

/-!
# What the caller of a forwarded request receives

A leader-only request that reaches another peer in `forward` mode travels as a
message to the leader's responder, whose envelope comes back to the forwarder.
This module compares what the caller then receives with what the same operation
answers on the leader's own HTTP endpoint.
-/

namespace PgmanProxy.Control.Forwarding

open PgmanProxy.Library.GoJson PgmanProxy.Library.GoStrings PgmanProxy.PgManager
open PgmanProxy.Control.Wire PgmanProxy.Control.Auth PgmanProxy.Control.AuditSinks
open PgmanProxy.Control.Requests PgmanProxy.Control.Handlers PgmanProxy.Control.Wrap
open PgmanProxy.Control.LeaderRoute PgmanProxy.Pgmctl.Client

set_option autoImplicit false

/-- HTTP status, outcome and error code, as a caller sees them. -/
structure Reception where
  status : Nat
  outcome : Option Outcome
  code : Option Code
deriving DecidableEq, Repr

def envelopeReception (envelope : Envelope) : Reception :=
  ⟨envelope.status, some envelope.outcome, envelope.code⟩

def reception (response : Response) : Reception :=
  match response.content with
  | .envelope envelope => envelopeReception envelope
  | .redirect _ => ⟨307, none, none⟩
  | .stream => ⟨200, none, none⟩

/-- The JSON document of the response, if it has one. -/
def responseBody (response : Response) : Option Json :=
  match response.content with
  | .envelope envelope => envelope.toJson
  | .redirect _ => none
  | .stream => none

/-- What the current leader's responder answers a message with. -/
def leaderAnswers (responder : Responder) (audit : Audit) (turn : Turn) (message : Message) :
    Option Reply :=
  match dispatch true message with
  | some op => (handle responder audit op turn message).reply
  | none => none

/-- NATS request/reply with that responder at the other end. -/
def hop (responder : Responder) (audit : Audit) (turn : Turn) (message : Message) :
    Except ForwardError RawJSON :=
  match leaderAnswers responder audit turn message with
  | none => .error .leaderRouteTimeout
  | some reply =>
      match reply.envelope.toJson with
      | some json => .ok (.encoded json)
      | none => .error .leaderRouteTimeout

theorem forward_message_subject (server : Server) (request : Request) (env : RequestEnv)
    (op : LeaderOp) (same : env.op = op.op) :
    opFromSubject (forwardMessage server request env).subject = op.op.name := by
  have joined : (forwardMessage server request env).subject =
      ("pgman_proxy." ++ server.clusterID ++ ".lcm.request") ++ String.singleton '.' ++
        op.op.name := by
    have dotted : ".lcm.request." = ".lcm.request" ++ String.singleton '.' := by decide
    have subject : (forwardMessage server request env).subject =
        "pgman_proxy." ++ server.clusterID ++ ".lcm.request." ++ env.op.name := rfl
    rw [subject, same, dotted]
    simp only [String.append_assoc]
  have clean : '.' ∉ op.op.name.toList := by cases op <;> decide
  rw [joined]
  exact after_last_append _ _ _ clean

/-- A leader recognises the operation of every message a forwarder publishes. -/
theorem forward_message_dispatched (server : Server) (request : Request) (env : RequestEnv)
    (op : LeaderOp) (same : env.op = op.op) :
    dispatch true (forwardMessage server request env) = some op := by
  have named : op.op.name ≠ "" := by cases op <;> decide
  simp only [dispatch, forward_message_subject server request env op same, named, if_false,
    Bool.not_true, Bool.false_eq_true, known_leader_only_op_name]

/-- A handler that publishes a message ends as the transport's answer to it says. -/
theorem leader_op_sent (op : LeaderOp) (server : Server) (moment : Moment) (request : Request)
    (env : RequestEnv) (message : Message)
    (sent : (handleLeaderOp op server moment request env).sent = some message) :
    message = forwardMessage server request env ∧
      ∀ reply, moment.forward message = .ok reply →
        (handleLeaderOp op server moment request env).ending =
          .completeOK "" (some (.raw reply)) moment.stamp.engineLatencyMS := by
  unfold handleLeaderOp forwardEngineCall at sent ⊢
  split at sent
  · split at sent
    · cases sent
    · rename_i forwarded small
      simp only [Option.some.injEq] at sent
      subst sent
      refine ⟨rfl, ?_⟩
      intro reply delivered
      simp only [forwarded, small, if_true, if_false, delivered]
  · cases sent

/-- Whatever the leader replied, the forwarder's own envelope is an accepted one. -/
theorem wrap_forwarded_content (server : Server) (audit : Audit) (op : LeaderOp)
    (moment : Moment) (request : Request) (message : Message) (reply : RawJSON)
    (sent : (wrap server audit op.op moment request).sent = some message)
    (delivered : moment.forward message = .ok reply) :
    (wrap server audit op.op moment request).response.content =
      .envelope ⟨op.op, moment.requestID, .accepted, some (.raw reply), none⟩ := by
  simp only [wrap, serve, respond] at sent ⊢
  cases admitted : admission server audit op.op moment request with
  | refuse actor code message => simp [admitted] at sent
  | redirect actor location => simp [admitted] at sent
  | handle env =>
      simp only [admitted, handler_func_leader_op] at sent ⊢
      obtain ⟨_, ends⟩ := leader_op_sent op server moment request env message sent
      rw [ends reply delivered]
      rfl

theorem wrap_sent_dispatched (server : Server) (audit : Audit) (op : LeaderOp)
    (moment : Moment) (request : Request) (message : Message)
    (sent : (wrap server audit op.op moment request).sent = some message) :
    dispatch true message = some op := by
  simp only [wrap, serve] at sent
  cases admitted : admission server audit op.op moment request with
  | refuse actor code message => simp [admitted] at sent
  | redirect actor location => simp [admitted] at sent
  | handle env =>
      simp only [admitted, handler_func_leader_op] at sent
      obtain ⟨published, _⟩ := leader_op_sent op server moment request env message sent
      obtain ⟨same, _⟩ := admission_handle server audit op.op moment request env admitted
      rw [published]
      exact forward_message_dispatched server request env op same

/-- The responder's envelope and the HTTP handler's response to one and the same
engine result carry the same status, outcome and error code. -/
theorem direct_reception (op : LeaderOp) (responder : Responder) (audit : Audit) (turn : Turn)
    (message : Message) (reply : Reply)
    (replied : (handle responder audit op turn message).reply = some reply)
    (leader : Server) (moment : Moment) (request : Request) (actor : String)
    (verified : leader.auth.verify moment.tokens request.authorization = .ok actor)
    (leads : moment.leader.isLeader = true)
    (same : dispatchEngine leader.shapes .decodeJSON moment.engine request.body op =
      dispatchEngine responder.shapes .unmarshal turn.engine message.data op) :
    reception (wrap leader audit op.op moment request).response =
      envelopeReception reply.envelope := by
  have reported := handle_reported responder audit op turn message reply replied
  rw [← same] at reported
  generalize result : dispatchEngine leader.shapes .decodeJSON moment.engine request.body op =
    dispatched at reported
  generalize reply.envelope = envelope at reported
  cases healthy : audit.healthy with
  | false =>
      rw [healthy] at reported
      cases reported
      simp only [wrap, serve, respond,
        admission_unhealthy leader audit op.op moment request actor (by simp) verified healthy]
      rfl
  | true =>
      rw [healthy] at reported
      simp only [wrap, serve, respond,
        admission_leader_op leader audit op moment request actor verified healthy leads,
        handler_func_leader_op, handleLeaderOp, Bool.false_eq_true, if_false, result]
      cases reported <;> rfl

theorem reply_accepted_iff (op : LeaderOp) (responder : Responder) (audit : Audit) (turn : Turn)
    (message : Message) (reply : Reply)
    (replied : (handle responder audit op turn message).reply = some reply) :
    (envelopeReception reply.envelope = ⟨200, some .accepted, none⟩ ↔
        audit.healthy = true ∧
          (dispatchEngine responder.shapes .unmarshal turn.engine message.data op).succeeded =
            true) ∧
      (reply.envelope.outcome = .accepted ↔
        audit.healthy = true ∧
          (dispatchEngine responder.shapes .unmarshal turn.engine message.data op).succeeded =
            true) := by
  have reported := handle_reported responder audit op turn message reply replied
  generalize dispatchEngine responder.shapes .unmarshal turn.engine message.data op =
    dispatched at reported ⊢
  generalize audit.healthy = healthy at reported ⊢
  generalize reply.envelope = envelope at reported ⊢
  cases reported with
  | gateClosed => simp [envelopeReception]
  | invalid text => simp [envelopeReception, Dispatch.succeeded]
  | failed call target code text valid => simp [envelopeReception, Dispatch.succeeded]
  | completed call target result encodes =>
      simp [envelopeReception, Envelope.status, Envelope.code, Dispatch.succeeded]

theorem reply_encodes (op : LeaderOp) (responder : Responder) (audit : Audit) (turn : Turn)
    (message : Message) (reply : Reply)
    (replied : (handle responder audit op turn message).reply = some reply) :
    ∃ json, reply.envelope.toJson = some json := by
  have reported := handle_reported responder audit op turn message reply replied
  generalize dispatchEngine responder.shapes .unmarshal turn.engine message.data op =
    dispatched at reported
  generalize audit.healthy = healthy at reported
  generalize reply.envelope = envelope at reported ⊢
  cases reported with
  | gateClosed => exact ⟨_, rfl⟩
  | invalid text => exact ⟨_, rfl⟩
  | failed call target code text valid => exact ⟨_, rfl⟩
  | completed call target result encodes =>
      cases result with
      | none => exact ⟨_, rfl⟩
      | some value =>
          obtain ⟨json, marshalled⟩ := encodes value rfl
          simp [Envelope.toJson, marshalled]

/-- Forwarding shows the caller what the leader itself would have answered exactly
when the leader accepts: its audit gate is open and the operation goes through.
The same condition decides whether pgmctl's success message can be believed. -/
theorem forwarding_transparent_iff_leader_accepts (op : LeaderOp)
    (forwarder : Server) (audit : Audit) (moment : Moment) (request : Request)
    (message : Message)
    (sent : (wrap forwarder audit op.op moment request).sent = some message)
    (responder : Responder) (leaderAudit : Audit) (turn : Turn) (reply : Reply)
    (replied : leaderAnswers responder leaderAudit turn message = some reply)
    (delivered : moment.forward message = hop responder leaderAudit turn message)
    (leader : Server) (directMoment : Moment) (directRequest : Request) (actor : String)
    (verified : leader.auth.verify directMoment.tokens directRequest.authorization = .ok actor)
    (leads : directMoment.leader.isLeader = true)
    (sameResult :
      dispatchEngine leader.shapes .decodeJSON directMoment.engine directRequest.body op =
        dispatchEngine responder.shapes .unmarshal turn.engine message.data op) :
    (reception (wrap forwarder audit op.op moment request).response =
        reception (wrap leader leaderAudit op.op directMoment directRequest).response ↔
      leaderAudit.healthy = true ∧
        (dispatchEngine responder.shapes .unmarshal turn.engine message.data op).succeeded =
          true) ∧
    ((reportsSuccess (reception (wrap forwarder audit op.op moment request).response).status
          (responseBody (wrap forwarder audit op.op moment request).response) = true →
        reply.envelope.outcome = .accepted) ↔
      leaderAudit.healthy = true ∧
        (dispatchEngine responder.shapes .unmarshal turn.engine message.data op).succeeded =
          true) := by
  have dispatched := wrap_sent_dispatched forwarder audit op moment request message sent
  have answered : (handle responder leaderAudit op turn message).reply = some reply := by
    simpa only [leaderAnswers, dispatched] using replied
  obtain ⟨json, encoded⟩ := reply_encodes op responder leaderAudit turn message reply answered
  have returned : moment.forward message = .ok (.encoded json) := by
    simp only [delivered, hop, replied, encoded]
  have content := wrap_forwarded_content forwarder audit op moment request message
    (.encoded json) sent returned
  have received : reception (wrap forwarder audit op.op moment request).response =
      ⟨200, some .accepted, none⟩ := by
    simp [reception, content, envelopeReception, Envelope.status, Envelope.code]
  obtain ⟨sameReception, sameOutcome⟩ :=
    reply_accepted_iff op responder leaderAudit turn message reply answered
  constructor
  · rw [received, direct_reception op responder leaderAudit turn message reply answered leader
      directMoment directRequest actor verified leads sameResult, eq_comm]
    exact sameReception
  · have success : reportsSuccess
        (reception (wrap forwarder audit op.op moment request).response).status
        (responseBody (wrap forwarder audit op.op moment request).response) = true := by
      simp only [received, responseBody, content]
      exact (reports_success_iff
        ⟨op.op, moment.requestID, .accepted, some (.raw (.encoded json)), none⟩ _ rfl).2
        ⟨rfl, by simp [Envelope.status], by simp [Envelope.status]⟩
    rw [← sameOutcome]
    exact ⟨fun believed => believed success, fun accepted _ => accepted⟩

/-! A two-peer cluster for concrete runs: the leader answers on `n1`, the request
arrives on `n2`. -/

def sampleShapes : WireShapes where
  encodeStatus := fun status => .obj [("ClusterID", .str status.clusterID)]
  encodeAuthorization := fun authorization => .obj [("Target", .str authorization.target)]
  topology := fun _ document => .ok ⟨"", document⟩
  zeroTopology := ⟨"", .null⟩
  policy := fun _ document => .ok ⟨document⟩
  zeroPolicy := ⟨.null⟩
  plan := fun _ document => .ok ⟨document⟩
  zeroPlan := ⟨.null⟩

def sampleServer (nodeID : String) : Server where
  clusterID := "prod"
  nodeID := nodeID
  auth := ⟨"PGMAN_TOKEN", "", false, fun token => token⟩
  mode := "forward"
  shapes := sampleShapes
  aggregatorWired := false
  historyWired := false
  reloaderWired := false
  embeddedSnapshot := none
  proxy := none
  doctorCatalog := []
  doctorChecks := .null

def sampleStamp : Stamp := ⟨"2026-01-01T00:00:00Z", 12, 15⟩

def sampleMoment (leads : Bool) (engine : Engine)
    (forward : Message → Except ForwardError RawJSON) : Moment where
  requestID := "01J"
  stamp := sampleStamp
  tokens := ⟨fun _ => "s3cret", fun _ => .error "no such file"⟩
  leader := ⟨leads, "n1", ""⟩
  engine := engine
  forward := forward
  enrichStatus := fun status => status
  queryHistory := .returned .null
  reload := .returned ()
  doctor := fun _ => ⟨[], .ok .null⟩

def failoverRequest : Request where
  authorization := "Bearer s3cret"
  traceparent := ""
  remoteAddr := "10.0.0.9:41000"
  path := "/v1/failover"
  contentLength := 0
  body := ⟨0, .empty⟩
  historyQuery := none

def sampleResponder : Responder := ⟨"prod", "n1", sampleShapes⟩

def sampleTurn (engine : Engine) : Turn := ⟨"01K", sampleStamp, engine⟩

def reliableAudit : Audit :=
  .fresh (.fresh true (fun _ => none)) (.fresh true (fun _ => none))

def refusingEngine : Engine := fun _ => .failed ⟨"no eligible standby", []⟩

/-- Every mutation succeeds; nothing else is served. -/
def obedientEngine : Engine
  | .switchover _ => .returned ()
  | .failover => .returned ()
  | .fence _ => .returned ()
  | .unfence _ => .returned ()
  | .updateTopology _ _ => .returned ()
  | .prepareUpgrade _ => .returned ()
  | .executeUpgrade _ => .returned ()
  | .restartPostgres => .returned ()
  | .triggerBackup => .returned "base-1"
  | .cancelPromotionAuthorization => .returned none
  | .authorizeJoinWindowPromotion request =>
      .returned ⟨request.target, request.actor, request.reason, request.requestID⟩
  | .status => .failed ⟨"not served", []⟩
  | .diagnose => .failed ⟨"not served", []⟩

/-- A failover sent to `n2` and forwarded to `n1`, whose engine is the given one. -/
def forwardedFailover (engine : Engine) : Exchange :=
  wrap (sampleServer "n2") reliableAudit .failover
    (sampleMoment false engine (hop sampleResponder reliableAudit (sampleTurn engine)))
    failoverRequest

/-- The same failover sent to `n1`. -/
def directFailover (engine : Engine) : Exchange :=
  wrap (sampleServer "n1") reliableAudit .failover
    (sampleMoment true engine (fun _ => .error .leaderRouteTimeout)) failoverRequest

theorem forwarding_transparent_for_obedient_leader :
    reception (forwardedFailover obedientEngine).response =
      reception (directFailover obedientEngine).response :=
  (forwarding_transparent_iff_leader_accepts .failover (sampleServer "n2") reliableAudit
    (sampleMoment false obedientEngine
      (hop sampleResponder reliableAudit (sampleTurn obedientEngine)))
    failoverRequest _ rfl sampleResponder reliableAudit (sampleTurn obedientEngine) _ rfl rfl
    (sampleServer "n1") (sampleMoment true obedientEngine (fun _ => .error .leaderRouteTimeout))
    failoverRequest "bearer:s3cret" rfl rfl rfl).1.2 ⟨by decide, by decide⟩

/-- A failover the leader's engine refused: the direct caller gets a 500 with
`engine_error`, the caller of the forwarder a 200 with outcome `accepted`, and
pgmctl reports success. -/
theorem forwarded_failure_answered_as_accepted :
    reception (directFailover refusingEngine).response =
        ⟨500, some .failed, some .engineError⟩ ∧
      reception (forwardedFailover refusingEngine).response = ⟨200, some .accepted, none⟩ ∧
      reportsSuccess (reception (forwardedFailover refusingEngine).response).status
        (responseBody (forwardedFailover refusingEngine).response) = true ∧
      (forwardedFailover refusingEngine).sent.map (fun message =>
        (leaderAnswers sampleResponder reliableAudit (sampleTurn refusingEngine) message).map
          (fun reply => reply.envelope.outcome)) = some (some .failed) := by
  decide

end PgmanProxy.Control.Forwarding
