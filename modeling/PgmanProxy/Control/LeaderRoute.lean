import PgmanProxy.Control.Wrap

/-!
# The leader-side responder for forwarded requests

Every peer subscribes to the request subjects. `dispatch` is the subscription
callback: it keeps a message only while the peer's leadership check holds, and
hands it to `handle`, which gates, runs the operation, audits and replies. An
engine panic is not recovered here: it ends the process, so such a message has
neither record nor reply.
-/

namespace PgmanProxy.Control.LeaderRoute

open PgmanProxy.Library.GoStrings PgmanProxy.PgManager PgmanProxy.Obs.Tracer
open PgmanProxy.Control.Wire PgmanProxy.Control.AuditSinks PgmanProxy.Control.Requests
open PgmanProxy.Control.Handlers PgmanProxy.Control.Wrap

set_option autoImplicit false

structure Responder where
  clusterID : String
  nodeID : String
  shapes : WireShapes

/-- What the outside answers while one message is handled. -/
structure Turn where
  freshID : String
  stamp : Stamp
  engine : Engine

def opFromSubject (subject : String) : String := afterLast '.' subject

/-- `isKnownLeaderOnlyOp`, returning the operation it recognises. -/
def knownLeaderOnlyOp (name : String) : Option LeaderOp :=
  [LeaderOp.failover, .switchover, .fence, .unfence, .updateTopology, .triggerBackup,
    .prepareUpgrade, .executeUpgrade].find? (fun op => op.op.name = name)

theorem known_leader_only_op_name (op : LeaderOp) :
    knownLeaderOnlyOp op.op.name = some op := by
  cases op <;> decide

/-- The operation the callback hands to a worker, if any. -/
def dispatch (isLeader : Bool) (message : Message) : Option LeaderOp :=
  let op := opFromSubject message.subject
  if op = "" then none
  else if !isLeader then none
  else knownLeaderOnlyOp op

/-- Non-leaders stay silent. -/
theorem dispatch_non_leader (message : Message) : dispatch false message = none := by
  simp [dispatch]

theorem dispatch_some_is_leader (isLeader : Bool) (message : Message) (op : LeaderOp)
    (dispatched : dispatch isLeader message = some op) : isLeader = true := by
  cases isLeader with
  | true => rfl
  | false =>
      rw [dispatch_non_leader] at dispatched
      cases dispatched

def responderActorFallback : String := "leader-route-forward"

structure Headers where
  reqID : String
  actor : String
  traceparent : String
deriving DecidableEq, Repr

def headersOrDefaults (freshID : String) (message : Message) : Headers where
  reqID := if message.requestID = "" then freshID else message.requestID
  actor := if message.actor = "" then responderActorFallback else message.actor
  traceparent := message.traceparent

def makeRecord (responder : Responder) (op : LeaderOp) (turn : Turn) (message : Message)
    (target : String) (engineLatencyMS : Int) (outcome : Outcome) (errorCode : Option Code) :
    AuditRecord where
  time := turn.stamp.time
  requestID := (headersOrDefaults turn.freshID message).reqID
  operation := op.op
  target := target
  actor := (headersOrDefaults turn.freshID message).actor
  sourceAddr := ""
  outcome := outcome
  engineLatencyMS := engineLatencyMS
  totalLatencyMS := turn.stamp.totalLatencyMS
  errorCode := errorCode
  clusterID := responder.clusterID
  nodeID := responder.nodeID
  traceID := (parseTraceParent message.traceparent).traceID
  spanID := (parseTraceParent message.traceparent).spanID
  leaderAtRequest := ""

structure Reply where
  record : AuditRecord
  envelope : Envelope

structure Answered where
  calls : List EngineCall
  /-- Absent when the engine panicked. -/
  reply : Option Reply

def rejection (responder : Responder) (op : LeaderOp) (turn : Turn) (message : Message)
    (target : String) (engineLatencyMS : Int) (outcome : Outcome) (failure : ErrorEnvelope) :
    Reply where
  record := makeRecord responder op turn message target engineLatencyMS outcome
    (some failure.code)
  envelope :=
    ⟨op.op, (headersOrDefaults turn.freshID message).reqID, outcome, none, some failure⟩

/-- The reply `handle` gives for what `dispatchEngine` returned. -/
def replyTo (responder : Responder) (op : LeaderOp) (turn : Turn) (message : Message) :
    Dispatch → Option Reply
  | .invalid text => some
      (rejection responder op turn message "" turn.stamp.engineLatencyMS .rejected
        ⟨.invalidArgument, text⟩)
  | .failed _ target code text => some
      (rejection responder op turn message target turn.stamp.engineLatencyMS
        (if code = .invalidArgument then .rejected else .failed) ⟨code, text⟩)
  | .completed _ target result => some
      { record := makeRecord responder op turn message target turn.stamp.engineLatencyMS
          .accepted none
        envelope :=
          ⟨op.op, (headersOrDefaults turn.freshID message).reqID, .accepted, result, none⟩ }
  | .panicked _ _ => none

def handle (responder : Responder) (audit : Audit) (op : LeaderOp) (turn : Turn)
    (message : Message) : Answered :=
  if !audit.healthy then
    ⟨[], some (rejection responder op turn message "" 0 .rejected
      ⟨.auditUnavailable, auditUnavailable⟩)⟩
  else
    let dispatched := dispatchEngine responder.shapes .unmarshal turn.engine message.data op
    ⟨dispatched.calls, replyTo responder op turn message dispatched⟩

def Answered.audited (answered : Answered) (audit : Audit) : Audit :=
  match answered.reply with
  | some reply => audit.record reply.record
  | none => audit

theorem handle_unhealthy (responder : Responder) (audit : Audit) (op : LeaderOp) (turn : Turn)
    (message : Message) (unhealthy : audit.healthy = false) :
    handle responder audit op turn message =
      ⟨[], some (rejection responder op turn message "" 0 .rejected
        ⟨.auditUnavailable, auditUnavailable⟩)⟩ := by
  simp [handle, unhealthy]

theorem handle_healthy (responder : Responder) (audit : Audit) (op : LeaderOp) (turn : Turn)
    (message : Message) (healthy : audit.healthy = true) :
    handle responder audit op turn message =
      ⟨(dispatchEngine responder.shapes .unmarshal turn.engine message.data op).calls,
        replyTo responder op turn message
          (dispatchEngine responder.shapes .unmarshal turn.engine message.data op)⟩ := by
  simp [handle, healthy]

/-- The envelopes a reply can carry, by the state of the audit gate and by what
`dispatchEngine` returned. -/
inductive Reported (op : LeaderOp) (reqID : String) : Bool → Dispatch → Envelope → Prop where
  | gateClosed (dispatched : Dispatch) :
      Reported op reqID false dispatched
        ⟨op.op, reqID, .rejected, none, some ⟨.auditUnavailable, auditUnavailable⟩⟩
  | invalid (text : String) :
      Reported op reqID true (.invalid text)
        ⟨op.op, reqID, .rejected, none, some ⟨.invalidArgument, text⟩⟩
  | failed (call : EngineCall) (target : String) (code : Code) (text : String)
      (valid : code ≠ .invalidArgument) :
      Reported op reqID true (.failed call target code text)
        ⟨op.op, reqID, .failed, none, some ⟨code, text⟩⟩
  | completed (call : EngineCall) (target : String) (result : Option EngineResult)
      (encodes : ∀ value, result = some value → ∃ json, value.marshal = some json) :
      Reported op reqID true (.completed call target result)
        ⟨op.op, reqID, .accepted, result, none⟩

theorem handle_reported (responder : Responder) (audit : Audit) (op : LeaderOp) (turn : Turn)
    (message : Message) (reply : Reply)
    (replied : (handle responder audit op turn message).reply = some reply) :
    Reported op (headersOrDefaults turn.freshID message).reqID audit.healthy
      (dispatchEngine responder.shapes .unmarshal turn.engine message.data op)
      reply.envelope := by
  have regular := dispatch_engine_regular responder.shapes .unmarshal turn.engine message.data op
  cases healthy : audit.healthy with
  | false =>
      rw [handle_unhealthy _ _ _ _ _ healthy] at replied
      cases replied
      exact .gateClosed _
  | true =>
      rw [handle_healthy _ _ _ _ _ healthy] at replied
      cases result : dispatchEngine responder.shapes .unmarshal turn.engine message.data op with
      | invalid text =>
          simp only [result, replyTo] at replied
          cases replied
          exact .invalid text
      | completed call target value =>
          simp only [result, replyTo] at replied
          cases replied
          refine .completed call target value ?_
          rintro engineResult rfl
          rw [result] at regular
          exact regular
      | failed call target code text =>
          rw [result] at regular
          have valid : code ≠ .invalidArgument := regular
          simp only [result, replyTo, valid, if_false] at replied
          cases replied
          exact .failed call target code text valid
      | panicked call value =>
          simp only [result, replyTo] at replied
          cases replied

end PgmanProxy.Control.LeaderRoute
