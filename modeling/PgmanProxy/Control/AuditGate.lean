import PgmanProxy.Library.Runs
import PgmanProxy.Control.Forwarding

/-!
# What the audit pipeline guarantees about mutating operations

Two properties of the fail-closed gate: an accepted answer against the audit
record of the same request, and the gate over whole runs of a peer that serves
HTTP and forwarded requests one after another.
-/

namespace PgmanProxy.Control.AuditGate

open PgmanProxy.Library.Runs PgmanProxy.Library.FailureStreak PgmanProxy.PgManager
open PgmanProxy.Control.Wire PgmanProxy.Control.Auth PgmanProxy.Control.AuditSinks
open PgmanProxy.Control.Requests PgmanProxy.Control.Handlers PgmanProxy.Control.Wrap
open PgmanProxy.Control.LeaderRoute PgmanProxy.Control.Forwarding

set_option autoImplicit false

/-- Between two states of a sink, a record of this request was published and taken. -/
def SinkTook (before after : Sink) (requestID : String) : Prop :=
  ∃ attempts, after.attempts = attempts ++ before.attempts ∧
    ∃ attempt ∈ attempts, attempt.record.requestID = requestID ∧ attempt.succeeded = true

def AuditTook (before after : Audit) (requestID : String) : Prop :=
  (before.nats.wired = true → SinkTook before.nats after.nats requestID) ∧
    (before.history.wired = true → SinkTook before.history after.history requestID)

theorem publish_took_iff (sink : Sink) (record : AuditRecord) (wired : sink.wired = true) :
    SinkTook sink (sink.publish record).1 record.requestID ↔ sink.next = none := by
  have published := publish_attempts sink record wired
  constructor
  · rintro ⟨attempts, extended, attempt, member, _, succeeded⟩
    rw [published, ← List.singleton_append] at extended
    have only : attempts = [⟨record, sink.next.isNone⟩] :=
      (List.append_cancel_right extended).symm
    rw [only, List.mem_singleton] at member
    simpa [member] using succeeded
  · intro accepts
    exact ⟨[⟨record, sink.next.isNone⟩], published, _, List.mem_singleton_self _, rfl,
      by simp [accepts]⟩

theorem record_took_iff (audit : Audit) (record : AuditRecord) :
    AuditTook audit (audit.record record) record.requestID ↔ audit.AcceptsNext := by
  unfold AuditTook Audit.AcceptsNext
  constructor
  · rintro ⟨nats, history⟩
    exact ⟨fun wired => (publish_took_iff _ _ wired).1 (nats wired),
      fun wired => (publish_took_iff _ _ wired).1 (history wired)⟩
  · rintro ⟨nats, history⟩
    exact ⟨fun wired => (publish_took_iff _ _ wired).2 (nats wired),
      fun wired => (publish_took_iff _ _ wired).2 (history wired)⟩

def AnsweredAccepted (response : Response) : Prop :=
  ∃ envelope, response.content = .envelope envelope ∧ envelope.outcome = .accepted

/-- An accepted answer comes from a handler that ran, and its record is emitted. -/
theorem wrap_accepted (server : Server) (audit : Audit) (op : Op) (moment : Moment)
    (request : Request)
    (accepted : AnsweredAccepted (wrap server audit op moment request).response) :
    (∃ env, admission server audit op moment request = .handle env) ∧
      ∃ record, (wrap server audit op moment request).audit = audit.record record ∧
        record.requestID = moment.requestID := by
  obtain ⟨envelope, content, outcome⟩ := accepted
  constructor
  · simp only [wrap, serve, respond] at content
    cases admitted : admission server audit op moment request with
    | refuse actor code message =>
        simp only [admitted, refuse] at content
        cases content
        cases outcome
    | redirect actor location =>
        simp only [admitted, redirectTo] at content
        cases content
    | handle env => exact ⟨env, rfl⟩
  · cases closes : (serve server audit op moment request).closing with
    | none =>
        simp only [wrap, respond, closes] at content
        cases content
    | some closing =>
        refine ⟨closing.record, ?_, serve_request_id _ _ _ _ _ _ closes⟩
        simp only [wrap, Served.audited, closes]

theorem handle_accepted (responder : Responder) (audit : Audit) (op : LeaderOp) (turn : Turn)
    (message : Message) (reply : Reply)
    (replied : (handle responder audit op turn message).reply = some reply)
    (accepted : reply.envelope.outcome = .accepted) :
    audit.healthy = true ∧
      (handle responder audit op turn message).audited audit = audit.record reply.record ∧
      reply.record.requestID = reply.envelope.requestID := by
  have opened :=
    ((reply_accepted_iff op responder audit turn message reply replied).2.1 accepted).1
  refine ⟨opened, by simp only [Answered.audited, replied], ?_⟩
  rw [handle_healthy _ _ _ _ _ opened] at replied
  simp only [replyTo] at replied
  split at replied <;> cases replied <;> rfl

/-- The failover that every state of the audit pipeline with an open gate accepts. -/
theorem failover_answered_accepted (audit : Audit) (healthy : audit.healthy = true) :
    AnsweredAccepted (wrap (sampleServer "n1") audit .failover
      (sampleMoment true obedientEngine (fun _ => .error .leaderRouteTimeout))
      failoverRequest).response := by
  have admitted := admission_leader_op (sampleServer "n1") audit .failover
    (sampleMoment true obedientEngine (fun _ => .error .leaderRouteTimeout))
    failoverRequest "bearer:s3cret" rfl healthy rfl
  refine ⟨⟨.failover, "01J", .accepted, none, none⟩, ?_, rfl⟩
  simp only [LeaderOp.op] at admitted
  simp only [wrap, serve, respond, admitted]
  rfl

/-- For every state of the audit pipeline: each accepted mutating answer, on the HTTP
path as on the responder path, has its own record on every wired sink exactly when
an open gate implies that every wired sink takes the publish that follows. -/
theorem accepted_recorded_iff_open_gate_publishes (audit : Audit) :
    ((∀ (server : Server) (op : Op) (moment : Moment) (request : Request),
        op.mutating = true →
        AnsweredAccepted (wrap server audit op moment request).response →
        AuditTook audit (wrap server audit op moment request).audit moment.requestID) ↔
      (audit.healthy = true → audit.AcceptsNext)) ∧
    ((∀ (responder : Responder) (op : LeaderOp) (turn : Turn) (message : Message)
        (reply : Reply),
        (handle responder audit op turn message).reply = some reply →
        reply.envelope.outcome = .accepted →
        AuditTook audit ((handle responder audit op turn message).audited audit)
          reply.envelope.requestID) ↔
      (audit.healthy = true → audit.AcceptsNext)) := by
  constructor
  · constructor
    · intro recorded healthy
      have accepted := failover_answered_accepted audit healthy
      have took := recorded _ _ _ _ rfl accepted
      obtain ⟨_, record, emitted, same⟩ := wrap_accepted _ _ _ _ _ accepted
      rw [emitted, ← same] at took
      exact (record_took_iff audit record).1 took
    · intro publishes server op moment request mutating accepted
      obtain ⟨⟨env, admitted⟩, record, emitted, same⟩ := wrap_accepted _ _ _ _ _ accepted
      obtain ⟨_, _, _, guarded⟩ := admission_handle _ _ _ _ _ _ admitted
      rw [emitted, ← same]
      exact (record_took_iff audit record).2 (publishes (guarded mutating).1)
  · constructor
    · intro recorded healthy
      have took := recorded sampleResponder .failover (sampleTurn obedientEngine)
        (forwardMessage (sampleServer "n2") failoverRequest ⟨.failover, "01J", "bearer:x", true⟩)
        _ (by rw [handle_healthy _ _ _ _ _ healthy]; rfl) rfl
      obtain ⟨_, emitted, same⟩ := handle_accepted sampleResponder audit .failover
        (sampleTurn obedientEngine)
        (forwardMessage (sampleServer "n2") failoverRequest ⟨.failover, "01J", "bearer:x", true⟩)
        _ (by rw [handle_healthy _ _ _ _ _ healthy]; rfl) rfl
      rw [emitted, ← same] at took
      exact (record_took_iff audit _).1 took
    · intro publishes responder op turn message reply replied accepted
      obtain ⟨healthy, emitted, same⟩ := handle_accepted _ _ _ _ _ _ replied accepted
      rw [emitted, ← same]
      exact (record_took_iff audit _).2 (publishes healthy)

/-- The NATS connection is closed; the history stream works. -/
def closedBusAudit : Audit :=
  .fresh (.fresh true (fun _ => some "nats: connection closed")) (.fresh true (fun _ => none))

/-- The first mutating request after the connection closes is executed and answered
`accepted` although the NATS subject never took its record. -/
theorem accepted_failover_without_record :
    AnsweredAccepted (wrap (sampleServer "n1") closedBusAudit .failover
        (sampleMoment true obedientEngine (fun _ => .error .leaderRouteTimeout))
        failoverRequest).response ∧
      ¬AuditTook closedBusAudit (wrap (sampleServer "n1") closedBusAudit .failover
        (sampleMoment true obedientEngine (fun _ => .error .leaderRouteTimeout))
        failoverRequest).audit "01J" := by
  have accepted := failover_answered_accepted closedBusAudit rfl
  refine ⟨accepted, ?_⟩
  obtain ⟨_, record, emitted, same⟩ := wrap_accepted _ _ _ _ _ accepted
  intro took
  have renamed : AuditTook closedBusAudit (closedBusAudit.record record) record.requestID := by
    rw [emitted] at took
    rw [same]
    exact took
  have accepts := (record_took_iff closedBusAudit record).1 renamed
  exact absurd (accepts.1 rfl) (by decide)

/-! ## Runs -/

/-- One peer: its HTTP server and its responder share the audit pipeline. -/
structure Peer where
  server : Server
  responder : Responder

inductive Event where
  | http (op : Op) (moment : Moment) (request : Request)
  | forwarded (isLeader : Bool) (turn : Turn) (message : Message)

structure PeerState where
  audit : Audit
  /-- An engine panic on the responder path ends the process. -/
  alive : Bool

def PeerState.start (nats history : Nat → Option String) : PeerState where
  audit := .fresh (.fresh true nats) (.fresh true history)
  alive := true

def step (peer : Peer) (state : PeerState) (event : Event) : PeerState :=
  if !state.alive then state
  else
    match event with
    | .http op moment request => ⟨(wrap peer.server state.audit op moment request).audit, true⟩
    | .forwarded isLeader turn message =>
        match dispatch isLeader message with
        | none => state
        | some op =>
            let answered := handle peer.responder state.audit op turn message
            ⟨answered.audited state.audit, answered.reply.isSome⟩

/-- The engine calls an event makes when it arrives in this state. -/
def engineCalls (peer : Peer) (state : PeerState) (event : Event) : List EngineCall :=
  if !state.alive then []
  else
    match event with
    | .http op moment request => (wrap peer.server state.audit op moment request).calls
    | .forwarded isLeader turn message =>
        match dispatch isLeader message with
        | none => []
        | some op => (handle peer.responder state.audit op turn message).calls

/-- Every forwarded operation is mutating; an HTTP request is when its route says so. -/
def Event.mutating : Event → Bool
  | .http op _ _ => op.mutating
  | .forwarded _ _ _ => true

def ReachesEngine (peer : Peer) (state : PeerState) (event : Event) : Prop :=
  event.mutating = true ∧ engineCalls peer state event ≠ []

/-- Neither sink has failed `2^64` times in a row. -/
def StreaksBounded (audit : Audit) : Prop :=
  failureStreak (outcomes audit.nats.attempts) < 2 ^ 64 ∧
    failureStreak (outcomes audit.history.attempts) < 2 ^ 64

theorem wrap_mutating_calls_healthy (server : Server) (audit : Audit) (op : Op)
    (moment : Moment) (request : Request) (mutating : op.mutating = true)
    (calls : (wrap server audit op moment request).calls ≠ []) : audit.healthy = true := by
  simp only [wrap, serve] at calls
  cases admitted : admission server audit op moment request with
  | refuse actor code message => simp [admitted] at calls
  | redirect actor location => simp [admitted] at calls
  | handle env =>
      obtain ⟨_, _, _, guarded⟩ := admission_handle _ _ _ _ _ _ admitted
      exact (guarded mutating).1

theorem handle_calls_healthy (responder : Responder) (audit : Audit) (op : LeaderOp)
    (turn : Turn) (message : Message)
    (calls : (handle responder audit op turn message).calls ≠ []) : audit.healthy = true := by
  cases healthy : audit.healthy with
  | true => rfl
  | false => simp [handle_unhealthy _ _ _ _ _ healthy] at calls

theorem reaches_engine_healthy (peer : Peer) (state : PeerState) (event : Event)
    (reaches : ReachesEngine peer state event) : state.audit.healthy = true := by
  obtain ⟨mutating, calls⟩ := reaches
  unfold engineCalls at calls
  split at calls
  · simp at calls
  · cases event with
    | http op moment request =>
        exact wrap_mutating_calls_healthy _ _ _ _ _ mutating calls
    | forwarded isLeader turn message =>
        cases dispatched : dispatch isLeader message with
        | none => simp [dispatched] at calls
        | some op =>
            simp only [dispatched] at calls
            exact handle_calls_healthy _ _ _ _ _ calls

/-- In every run of a peer with both sinks wired, as long as no sink has failed `2^64`
times in a row when a request arrives, a mutating request reaches the engine only if
the last publish on each sink before its gate check succeeded. -/
theorem mutating_reaches_engine_after_successful_publishes (peer : Peer)
    (nats history : Nat → Option String) (before after : List Event) (event : Event)
    (bounded : StepsMeet (step peer) (fun state _ => StreaksBounded state.audit)
      (PeerState.start nats history) (before ++ event :: after))
    (reaches : ReachesEngine peer (run (step peer) (PeerState.start nats history) before) event) :
    (run (step peer) (PeerState.start nats history) before).audit.LastPublishesSucceeded := by
  obtain ⟨natsBounded, historyBounded⟩ := steps_meet_at (step peer) _ _ before after event bounded
  exact healthy_last_publishes_succeeded _ natsBounded historyBounded
    (reaches_engine_healthy peer _ event reaches)

def samplePeer : Peer := ⟨sampleServer "n1", sampleResponder⟩

def statusRead : Event :=
  .http .status (sampleMoment true refusingEngine (fun _ => .error .leaderRouteTimeout))
    failoverRequest

def failoverEvent : Event :=
  .http .failover (sampleMoment true obedientEngine (fun _ => .error .leaderRouteTimeout))
    failoverRequest

def streamWorks : Nat → Option String := fun _ => none

/-- A read, then a failover, with both sinks working. -/
theorem failover_after_recorded_read :
    (run (step samplePeer) (PeerState.start streamWorks streamWorks)
      [statusRead]).audit.LastPublishesSucceeded :=
  mutating_reaches_engine_after_successful_publishes samplePeer streamWorks streamWorks
    [statusRead] [] failoverEvent
    ⟨⟨by decide, by decide⟩, ⟨by decide, by decide⟩, trivial⟩
    ⟨rfl, List.cons_ne_nil EngineCall.failover []⟩

end PgmanProxy.Control.AuditGate
