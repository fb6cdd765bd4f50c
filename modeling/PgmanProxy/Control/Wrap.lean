import PgmanProxy.Control.AuditSinks
import PgmanProxy.Control.Handlers

/-!
# The middleware around every route

`admission` is the part of `wrap` before a handler runs: authentication, the audit
gate of mutating operations, leader routing. `close` is the part after it: one
audit record and one response for each way a handler can end.
-/

namespace PgmanProxy.Control.Wrap

open PgmanProxy.Library.GoJson PgmanProxy.PgManager PgmanProxy.Obs.Tracer
open PgmanProxy.Control.Wire PgmanProxy.Control.Auth PgmanProxy.Control.AuditSinks
open PgmanProxy.Control.Requests PgmanProxy.Control.Handlers

set_option autoImplicit false

inductive Verdict where
  | refuse (actor : String) (code : Code) (message : String)
  | redirect (actor location : String)
  | handle (env : RequestEnv)
deriving DecidableEq, Repr

def auditUnavailable : String := "audit pipeline unavailable; mutating ops refused (FR-028)"

/-- Steps 2 and 3 of `wrap`, once the caller is known. -/
def route (server : Server) (audit : Audit) (op : Op) (moment : Moment) (request : Request)
    (actor : String) : Verdict :=
  if op.mutating && !audit.healthy then .refuse actor .auditUnavailable auditUnavailable
  else if op.leaderOnly && !moment.leader.isLeader then
    if server.mode = "redirect" then
      if moment.leader.leaderAddr = "" then
        .refuse actor .leadershipInTransition "no known leader; retry shortly"
      else .redirect actor (moment.leader.leaderAddr ++ request.path)
    else .handle ⟨op, moment.requestID, actor, true⟩
  else .handle ⟨op, moment.requestID, actor, false⟩

def admission (server : Server) (audit : Audit) (op : Op) (moment : Moment) (request : Request) :
    Verdict :=
  if op.mutating || !server.auth.allowUnauthReads then
    match server.auth.verify moment.tokens request.authorization with
    | .error failure => .refuse "anonymous" failure.code failure.text
    | .ok actor => route server audit op moment request actor
  else route server audit op moment request "anonymous"

inductive Content where
  | envelope (envelope : Envelope)
  | redirect (location : String)
  | stream

structure Response where
  requestID : String
  traceparent : Option String
  content : Content

def recordAt (server : Server) (op : Op) (moment : Moment) (request : Request)
    (target actor : String) (engineLatencyMS : Int) (outcome : Outcome)
    (errorCode : Option Code) (leaderAtRequest : String) : AuditRecord where
  time := moment.stamp.time
  requestID := moment.requestID
  operation := op
  target := target
  actor := actor
  sourceAddr := request.remoteAddr
  outcome := outcome
  engineLatencyMS := engineLatencyMS
  totalLatencyMS := moment.stamp.totalLatencyMS
  errorCode := errorCode
  clusterID := server.clusterID
  nodeID := server.nodeID
  traceID := (parseTraceParent request.traceparent).traceID
  spanID := (parseTraceParent request.traceparent).spanID
  leaderAtRequest := leaderAtRequest

/-- The one audit record a request leaves and the answer that goes with it. -/
structure Closing where
  record : AuditRecord
  content : Content

def refuse (server : Server) (op : Op) (moment : Moment) (request : Request)
    (actor : String) (code : Code) (message : String) : Closing where
  record := recordAt server op moment request "" actor 0 .rejected (some code) ""
  content := .envelope ⟨op, moment.requestID, .rejected, none, some ⟨code, message⟩⟩

/-- `completeOK`, `completeFail`, `refuse` and the deferred `recover`. -/
def close (server : Server) (op : Op) (moment : Moment) (request : Request)
    (actor : String) : Ending → Option Closing
  | .completeOK target result latency => some
      { record := recordAt server op moment request target actor latency .accepted none ""
        content := .envelope ⟨op, moment.requestID, .accepted, result, none⟩ }
  | .completeFail target code message latency leaderAt => some
      { record := recordAt server op moment request target actor latency .failed (some code)
          leaderAt
        content := .envelope ⟨op, moment.requestID, .failed, none, some ⟨code, message⟩⟩ }
  | .refuse code message => some (refuse server op moment request actor code message)
  | .panic value => some
      (refuse server op moment request "anonymous" .internal ("handler panic: " ++ value))
  | .stream => none

def redirectTo (server : Server) (op : Op) (moment : Moment) (request : Request)
    (actor location : String) : Closing where
  record := recordAt server op moment request "" actor 0 .rejected (some .notLeader)
    moment.leader.leaderID
  content := .redirect location

structure Served where
  calls : List EngineCall
  sent : Option Message
  closing : Option Closing

/-- The request up to, but not including, the emission of its audit record. -/
def serve (server : Server) (audit : Audit) (op : Op) (moment : Moment) (request : Request) :
    Served :=
  match admission server audit op moment request with
  | .refuse actor code message =>
      ⟨[], none, some (refuse server op moment request actor code message)⟩
  | .redirect actor location =>
      ⟨[], none, some (redirectTo server op moment request actor location)⟩
  | .handle env =>
      let handled := handlerFunc server moment request env op
      ⟨handled.calls, handled.sent, close server op moment request env.actor handled.ending⟩

def Served.audited (served : Served) (audit : Audit) : Audit :=
  match served.closing with
  | some closing => audit.record closing.record
  | none => audit

def respond (moment : Moment) (request : Request) (served : Served) : Response where
  requestID := moment.requestID
  traceparent :=
    if (parseTraceParent request.traceparent).hasTrace then
      some (parseTraceParent request.traceparent).header
    else none
  content := match served.closing with
    | some closing => closing.content
    | none => .stream

structure Exchange where
  calls : List EngineCall
  sent : Option Message
  audit : Audit
  response : Response

/-- One HTTP request. The error `Emit` returns is dropped on every path. -/
def wrap (server : Server) (audit : Audit) (op : Op) (moment : Moment) (request : Request) :
    Exchange :=
  let served := serve server audit op moment request
  { calls := served.calls, sent := served.sent, audit := served.audited audit,
    response := respond moment request served }

theorem close_request_id (server : Server) (op : Op) (moment : Moment) (request : Request)
    (actor : String) (ending : Ending) (closing : Closing)
    (closes : close server op moment request actor ending = some closing) :
    closing.record.requestID = moment.requestID := by
  cases ending with
  | stream => cases closes
  | _ =>
      cases closes
      rfl

/-- The record of a request carries the id the response header carries. -/
theorem serve_request_id (server : Server) (audit : Audit) (op : Op) (moment : Moment)
    (request : Request) (closing : Closing)
    (closes : (serve server audit op moment request).closing = some closing) :
    closing.record.requestID = moment.requestID := by
  unfold serve at closes
  split at closes
  · cases closes
    rfl
  · cases closes
    rfl
  · exact close_request_id _ _ _ _ _ _ _ closes

theorem route_handle (server : Server) (audit : Audit) (op : Op) (moment : Moment)
    (request : Request) (actor : String) (env : RequestEnv)
    (routed : route server audit op moment request actor = .handle env) :
    env = ⟨op, moment.requestID, actor, op.leaderOnly && !moment.leader.isLeader⟩ ∧
      (op.mutating = true → audit.healthy = true) := by
  unfold route at routed
  split at routed
  · cases routed
  · rename_i gate
    have healthy : op.mutating = true → audit.healthy = true := by
      intro mutating
      simpa [mutating] using gate
    split at routed
    · rename_i elsewhere
      split at routed
      · split at routed <;> cases routed
      · cases routed
        exact ⟨by rw [elsewhere], healthy⟩
    · rename_i here
      cases routed
      have stays : (op.leaderOnly && !moment.leader.isLeader) = false := by simpa using here
      exact ⟨by rw [stays], healthy⟩

/-- A mutating handler runs only behind a verified token and a healthy audit. -/
theorem admission_handle (server : Server) (audit : Audit) (op : Op) (moment : Moment)
    (request : Request) (env : RequestEnv)
    (admitted : admission server audit op moment request = .handle env) :
    env.op = op ∧ env.reqID = moment.requestID ∧
      env.forwarded = (op.leaderOnly && !moment.leader.isLeader) ∧
      (op.mutating = true → audit.healthy = true ∧
        server.auth.verify moment.tokens request.authorization = .ok env.actor) := by
  unfold admission at admitted
  split at admitted
  · split at admitted
    · cases admitted
    · rename_i actor verified
      obtain ⟨rfl, healthy⟩ := route_handle _ _ _ _ _ _ _ admitted
      exact ⟨rfl, rfl, rfl, fun mutating => ⟨healthy mutating, verified⟩⟩
  · rename_i unguarded
    obtain ⟨rfl, healthy⟩ := route_handle _ _ _ _ _ _ _ admitted
    refine ⟨rfl, rfl, rfl, ?_⟩
    intro mutating
    simp [mutating] at unguarded

/-- The leader executes: a verified leader-only request behind a healthy audit. -/
theorem admission_leader_op (server : Server) (audit : Audit) (op : LeaderOp) (moment : Moment)
    (request : Request) (actor : String)
    (verified : server.auth.verify moment.tokens request.authorization = .ok actor)
    (healthy : audit.healthy = true) (leads : moment.leader.isLeader = true) :
    admission server audit op.op moment request =
      .handle ⟨op.op, moment.requestID, actor, false⟩ := by
  simp [admission, route, verified, healthy, leads]

theorem admission_unhealthy (server : Server) (audit : Audit) (op : Op) (moment : Moment)
    (request : Request) (actor : String) (mutating : op.mutating = true)
    (verified : server.auth.verify moment.tokens request.authorization = .ok actor)
    (unhealthy : audit.healthy = false) :
    admission server audit op moment request = .refuse actor .auditUnavailable auditUnavailable := by
  simp [admission, route, verified, unhealthy, mutating]

end PgmanProxy.Control.Wrap
