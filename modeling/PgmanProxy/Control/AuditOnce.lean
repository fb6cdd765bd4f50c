import PgmanProxy.Control.Forwarding

/-!
# One truthful audit record per request

Every way a request can end emits one record, and each of them writes the
record's outcome and code into the answer. What makes this a property of the
routes is that no handler besides the watch endpoints ends in a stream.

A forwarded request leaves the peer as a message that the peer's own responder
receives too. The responder asks for the leadership again. If the peer leads by
then, or its first question failed, the responder handles the message and emits
a second record with the id of the request.
-/

namespace PgmanProxy.Control.AuditOnce

open PgmanProxy.Library.GoStrings PgmanProxy.PgManager
open PgmanProxy.Control.Wire PgmanProxy.Control.Auth PgmanProxy.Control.AuditSinks
open PgmanProxy.Control.Requests PgmanProxy.Control.Handlers PgmanProxy.Control.Wrap
open PgmanProxy.Control.LeaderRoute PgmanProxy.Control.Forwarding

set_option autoImplicit false

def isWatch : Op → Bool
  | .watchStatus | .watchTransitions | .watchEvents | .watchNode => true
  | _ => false

def streams : Ending → Bool
  | .stream => true
  | _ => false

/-! ## How the handlers end -/

section Handlers

variable (server : Server) (moment : Moment) (request : Request) (env : RequestEnv)

/-- The handler answers by itself, without another peer. -/
def AnswersHere (handled : Handled) : Prop :=
  streams handled.ending = false ∧ handled.sent = none

theorem conclude_answers (latency : Int) (dispatch : Dispatch) :
    streams (conclude latency dispatch) = false := by
  cases dispatch <;> rfl

theorem status_answers : AnswersHere (handleStatus server moment) := by
  unfold handleStatus
  split <;> exact ⟨rfl, rfl⟩

theorem diagnose_answers : AnswersHere (handleDiagnose moment) := by
  unfold handleDiagnose
  split <;> exact ⟨rfl, rfl⟩

theorem history_query_answers : AnswersHere (handleHistoryQuery server moment request) := by
  unfold handleHistoryQuery
  split
  · exact ⟨rfl, rfl⟩
  · split
    · exact ⟨rfl, rfl⟩
    · split <;> exact ⟨rfl, rfl⟩

theorem authorize_promotion_answers :
    AnswersHere (handleAuthorizePromotion server moment request env) := by
  unfold handleAuthorizePromotion
  split
  · exact ⟨rfl, rfl⟩
  · split
    · exact ⟨rfl, rfl⟩
    split
    · exact ⟨rfl, rfl⟩
    split
    · exact ⟨rfl, rfl⟩
    split
    · exact ⟨rfl, rfl⟩
    unfold authorizePromotionCall
    simp only
    split <;> exact ⟨rfl, rfl⟩

theorem cancel_promotion_answers :
    AnswersHere (handleCancelPromotionAuthorization server moment) := by
  unfold handleCancelPromotionAuthorization
  simp only
  split <;> exact ⟨rfl, rfl⟩

theorem run_doctor_answers (selected : List String) : AnswersHere (runDoctor moment selected) := by
  unfold runDoctor
  simp only
  split <;> exact ⟨rfl, rfl⟩

theorem doctor_run_answers : AnswersHere (handleDoctorRun server moment request) := by
  unfold handleDoctorRun
  split
  · exact ⟨rfl, rfl⟩
  · split
    · exact run_doctor_answers moment _
    · split
      · exact run_doctor_answers moment _
      · exact ⟨rfl, rfl⟩

theorem doctor_fix_answers : AnswersHere (handleDoctorFix request) := by
  unfold handleDoctorFix
  split
  · exact ⟨rfl, rfl⟩
  · split <;> exact ⟨rfl, rfl⟩

theorem restart_postgres_answers (body : RestartRequest) :
    AnswersHere (handleRestartPostgres server moment body) := by
  unfold handleRestartPostgres
  extract_lets elsewhere
  split
  · exact ⟨rfl, rfl⟩
  · split <;> exact ⟨rfl, rfl⟩

theorem restart_proxy_answers (body : RestartRequest) :
    AnswersHere (handleRestartProxy server body) := by
  unfold handleRestartProxy
  split
  · exact ⟨rfl, rfl⟩
  · split
    · exact ⟨rfl, rfl⟩
    · split <;> exact ⟨rfl, rfl⟩

theorem restart_answers : AnswersHere (handleRestart server moment request) := by
  unfold handleRestart
  split
  · exact ⟨rfl, rfl⟩
  · split
    · exact restart_postgres_answers server moment _
    · split
      · exact restart_proxy_answers server _
      · exact ⟨rfl, rfl⟩

theorem set_config_answers : AnswersHere (handleSetConfig server moment request) := by
  unfold handleSetConfig
  split
  · exact ⟨rfl, rfl⟩
  · split
    · exact ⟨rfl, rfl⟩
    split
    · exact ⟨rfl, rfl⟩
    split
    · exact ⟨rfl, rfl⟩
    split <;> exact ⟨rfl, rfl⟩

theorem leader_op_answers (op : LeaderOp) :
    streams (handleLeaderOp op server moment request env).ending = false := by
  unfold handleLeaderOp
  split
  · unfold forwardEngineCall
    split
    · rfl
    · simp only
      split <;> rfl
  · exact conclude_answers _ _

theorem leader_op_sent_forwarded (op : LeaderOp) (message : Message)
    (sent : (handleLeaderOp op server moment request env).sent = some message) :
    env.forwarded = true := by
  unfold handleLeaderOp at sent
  split at sent
  · assumption
  · cases sent

/-- Every handler but those of the watch endpoints answers, and only a forwarded request leaves
the peer. -/
theorem handler_answers (op : Op) (plain : isWatch op = false) :
    streams (handlerFunc server moment request env op).ending = false ∧
      ∀ message, (handlerFunc server moment request env op).sent = some message →
        env.forwarded = true := by
  have here : ∀ handled, AnswersHere handled → streams handled.ending = false ∧
      ∀ message, handled.sent = some message → env.forwarded = true := by
    intro handled answers
    refine ⟨answers.1, ?_⟩
    intro message sent
    rw [answers.2] at sent
    cases sent
  have leads : ∀ op, streams (handleLeaderOp op server moment request env).ending = false ∧
      ∀ message, (handleLeaderOp op server moment request env).sent = some message →
        env.forwarded = true := by
    intro op
    exact ⟨leader_op_answers server moment request env op,
      leader_op_sent_forwarded server moment request env op⟩
  cases op with
  | status => exact here _ (status_answers server moment)
  | diagnose => exact here _ (diagnose_answers moment)
  | historyQuery => exact here _ (history_query_answers server moment request)
  | switchover => exact leads .switchover
  | failover => exact leads .failover
  | fence => exact leads .fence
  | unfence => exact leads .unfence
  | promote => exact here _ ⟨rfl, rfl⟩
  | authorizePromotion => exact here _ (authorize_promotion_answers server moment request env)
  | cancelPromotionAuthorization => exact here _ (cancel_promotion_answers server moment)
  | updateTopology => exact leads .updateTopology
  | triggerBackup => exact leads .triggerBackup
  | prepareUpgrade => exact leads .prepareUpgrade
  | executeUpgrade => exact leads .executeUpgrade
  | doctorChecks => exact here _ ⟨rfl, rfl⟩
  | doctorRun => exact here _ (doctor_run_answers server moment request)
  | doctorFix => exact here _ (doctor_fix_answers request)
  | restart => exact here _ (restart_answers server moment request)
  | setConfig => exact here _ (set_config_answers server moment request)
  | watchStatus | watchTransitions | watchEvents | watchNode => cases plain

end Handlers

/-! ## What a request leaves behind -/

/-- The record says what the answer says; a redirect is a rejection for want of leadership. -/
def Tells (record : AuditRecord) : Content → Prop
  | .envelope envelope => envelope.requestID = record.requestID ∧
      record.outcome = envelope.outcome ∧ record.errorCode = envelope.code
  | .redirect _ => record.outcome = .rejected ∧ record.errorCode = some .notLeader
  | .stream => False

/-- The bearer token of the request is the one the token source holds now. -/
def TokenMatched (server : Server) (moment : Moment) (request : Request) : Prop :=
  ∃ supplied, cutLead "Bearer " request.authorization = some supplied ∧
    trimSpace supplied ≠ "" ∧ server.auth.liveToken moment.tokens = .ok (trimSpace supplied)

section Requests

variable (server : Server) (audit : Audit) (op : Op) (moment : Moment) (request : Request)

theorem refuse_tells (actor : String) (code : Code) (message : String) :
    Tells (refuse server op moment request actor code message).record
      (refuse server op moment request actor code message).content :=
  ⟨rfl, rfl, rfl⟩

theorem close_tells (actor : String) (ending : Ending) (answers : streams ending = false) :
    ∃ closing, close server op moment request actor ending = some closing ∧
      Tells closing.record closing.content := by
  cases ending with
  | completeOK target result latency => exact ⟨_, rfl, rfl, rfl, rfl⟩
  | completeFail target code message latency leaderAt => exact ⟨_, rfl, rfl, rfl, rfl⟩
  | refuse code message => exact ⟨_, rfl, refuse_tells server op moment request actor code message⟩
  | panic value => exact ⟨_, rfl, refuse_tells server op moment request "anonymous" _ _⟩
  | stream => cases answers

theorem serve_tells (plain : isWatch op = false) :
    ∃ closing, (serve server audit op moment request).closing = some closing ∧
      Tells closing.record closing.content := by
  unfold serve
  split
  · exact ⟨_, rfl, refuse_tells server op moment request _ _ _⟩
  · exact ⟨_, rfl, rfl, rfl⟩
  · rename_i env admitted
    exact close_tells server op moment request env.actor _
      (handler_answers server moment request env op plain).1

theorem verify_ok (actor : String)
    (verified : server.auth.verify moment.tokens request.authorization = .ok actor) :
    TokenMatched server moment request := by
  unfold Authenticator.verify at verified
  split at verified
  · cases verified
  rename_i supplied credential
  simp only at verified
  split at verified
  · cases verified
  rename_i present
  split at verified
  · cases verified
  rename_i expected live
  split at verified
  · cases verified
  split at verified
  · cases verified
  rename_i same
  rw [ne_eq, not_not] at same
  exact ⟨supplied, credential, present, by rw [live, same]⟩

theorem leader_only_iff : op.leaderOnly = true ↔ ∃ kept : LeaderOp, kept.op = op := by
  constructor
  · intro leaderOnly
    cases op with
    | switchover => exact ⟨.switchover, rfl⟩
    | failover => exact ⟨.failover, rfl⟩
    | fence => exact ⟨.fence, rfl⟩
    | unfence => exact ⟨.unfence, rfl⟩
    | updateTopology => exact ⟨.updateTopology, rfl⟩
    | triggerBackup => exact ⟨.triggerBackup, rfl⟩
    | prepareUpgrade => exact ⟨.prepareUpgrade, rfl⟩
    | executeUpgrade => exact ⟨.executeUpgrade, rfl⟩
    | _ => cases leaderOnly
  · rintro ⟨kept, rfl⟩
    exact leader_op_leader_only kept

/-- The request goes to the leader, by what the peer knows of itself. -/
structure Forwards : Prop where
  leaderOnly : op.leaderOnly = true
  follower : moment.leader.isLeader = false
  forwardMode : server.mode ≠ "redirect"
  healthy : audit.healthy = true
  verified : ∃ actor, server.auth.verify moment.tokens request.authorization = .ok actor
  bodyFits : request.body.size ≤ maxRequestBodyBytes

/-- What leaves the peer carries the request's id, and a leader keeps it. -/
theorem forwards_sends (forwards : Forwards server audit op moment request) :
    ∃ kept message, kept.op = op ∧ (wrap server audit op moment request).sent = some message ∧
      dispatch true message = some kept ∧ message.requestID = moment.requestID := by
  rcases (leader_only_iff op).1 forwards.leaderOnly with ⟨kept, same⟩
  rcases forwards.verified with ⟨actor, verified⟩
  have admitted : admission server audit kept.op moment request =
      .handle ⟨kept.op, moment.requestID, actor, true⟩ := by
    simp [admission, route, verified, forwards.healthy, forwards.follower, forwards.forwardMode]
  have sent : (wrap server audit kept.op moment request).sent =
      some (forwardMessage server request ⟨kept.op, moment.requestID, actor, true⟩) := by
    simp only [wrap, serve, admitted, handler_func_leader_op, handleLeaderOp, if_true,
      forwardEngineCall, if_neg (Nat.not_lt.2 forwards.bodyFits)]
  rw [← same]
  exact ⟨kept, _, rfl, sent, wrap_sent_dispatched server audit kept moment request _ sent, rfl⟩

theorem sent_forwards (plain : isWatch op = false) (message : Message)
    (sent : (wrap server audit op moment request).sent = some message) :
    Forwards server audit op moment request := by
  simp only [wrap, serve] at sent
  split at sent
  · cases sent
  · cases sent
  · rename_i env admitted
    have forwarded := (handler_answers server moment request env op plain).2 message sent
    obtain ⟨_, _, elsewhere, guarded⟩ := admission_handle _ _ _ _ _ env admitted
    rw [forwarded, eq_comm, Bool.and_eq_true, Bool.not_eq_true'] at elsewhere
    rcases (leader_only_iff op).1 elsewhere.1 with ⟨kept, rfl⟩
    have verified := guarded (leader_op_mutating kept)
    refine ⟨elsewhere.1, elsewhere.2, ?_, verified.1, ⟨env.actor, verified.2⟩, ?_⟩
    · intro redirects
      simp only [admission, route, leader_op_mutating, verified.1, verified.2, elsewhere,
        redirects, Bool.true_or, Bool.not_true, Bool.and_false, Bool.not_false, Bool.and_self,
        Bool.false_eq_true, if_true, if_false] at admitted
      split at admitted <;> cases admitted
    · by_contra large
      simp [handler_func_leader_op, handleLeaderOp, forwarded, forwardEngineCall,
        Nat.lt_of_not_le large, Handled.local] at sent

/-- The peer's own responder, to which the message of a forwarded request comes back. -/
structure Own where
  responder : Responder
  delivered : Bool
  /-- its leadership check, made when the message arrives -/
  isLeader : Bool
  /-- the audit as it finds it -/
  audit : Audit
  turn : Turn
  /-- It is through only after the request has been answered. -/
  late : Bool

def Own.answers (own : Own) (sent : Option Message) : Option Answered :=
  if own.delivered then
    sent.bind (fun message => (dispatch own.isLeader message).map (fun kept =>
      handle own.responder own.audit kept own.turn message))
  else none

/-- The audit records of a request on this peer, and its answer. -/
structure Left where
  records : List AuditRecord
  response : Option Response

/-- The request and the peer's own responder. An engine panic in the responder ends the process,
and the request with it if it still waits. -/
def leaves (own : Own) (server : Server) (audit : Audit) (op : Op) (moment : Moment)
    (request : Request) : Left :=
  let served := serve server audit op moment request
  let written := served.closing.toList.map Closing.record
  let response := some (respond moment request served)
  match own.answers served.sent with
  | none => ⟨written, response⟩
  | some ⟨_, some reply⟩ =>
      ⟨if own.late then written ++ [reply.record] else reply.record :: written, response⟩
  | some ⟨_, none⟩ => if own.late then ⟨written, response⟩ else ⟨[], none⟩

theorem own_answers_none (own : Own) (sent : Option Message)
    (unkept : sent = none ∨ own.delivered = false ∨ own.isLeader = false) :
    own.answers sent = none := by
  unfold Own.answers
  rcases unkept with unsent | undelivered | follower
  · simp [unsent]
  · simp [undelivered]
  · cases sent <;> simp [follower, dispatch_non_leader]

theorem reply_request_id (own : Own) (kept : LeaderOp) (message : Message) (reply : Reply)
    (named : message.requestID ≠ "")
    (replied : (handle own.responder own.audit kept own.turn message).reply = some reply) :
    reply.record.requestID = message.requestID := by
  have header : (headersOrDefaults own.turn.freshID message).reqID = message.requestID := by
    simp [headersOrDefaults, named]
  rw [← header]
  unfold handle at replied
  split at replied
  · cases replied
    rfl
  · simp only at replied
    generalize dispatchEngine own.responder.shapes .unmarshal own.turn.engine message.data kept =
      dispatched at replied
    cases dispatched <;> cases replied <;> rfl

/-- For every request to every route that is not a watch endpoint, `wrap` emits one record with the
request's id that says what the answer says, and the body of a mutating handler runs only behind a
matching token. That record is the only one on this peer, unless the request is forwarded and the
peer's own responder keeps the message. Then there is the responder's record with the same id as
well, or the process ends in the responder's engine call. -/
theorem request_audited_truthfully (own : Own) (plain : isWatch op = false)
    (named : moment.requestID ≠ "") :
    (∃ record, (wrap server audit op moment request).audit = audit.record record ∧
        record.requestID = moment.requestID ∧
        Tells record (wrap server audit op moment request).response.content ∧
        (¬ Forwards server audit op moment request ∨ own.delivered = false ∨
            own.isLeader = false →
          leaves own server audit op moment request =
            ⟨[record], some (wrap server audit op moment request).response⟩) ∧
        (Forwards server audit op moment request → own.delivered = true → own.isLeader = true →
          ∃ kept message, kept.op = op ∧
            (wrap server audit op moment request).sent = some message ∧
            (∀ reply, (handle own.responder own.audit kept own.turn message).reply = some reply →
              reply.record.requestID = moment.requestID ∧
                (leaves own server audit op moment request).records.Perm
                  [record, reply.record] ∧
                (leaves own server audit op moment request).response =
                  some (wrap server audit op moment request).response) ∧
            ((handle own.responder own.audit kept own.turn message).reply = none →
              leaves own server audit op moment request =
                if own.late then ⟨[record], some (wrap server audit op moment request).response⟩
                else ⟨[], none⟩))) ∧
      (op.mutating = true →
        (∃ env, admission server audit op moment request = .handle env) ∨
            (wrap server audit op moment request).calls ≠ [] ∨
            (wrap server audit op moment request).sent ≠ none →
        TokenMatched server moment request) := by
  constructor
  · obtain ⟨closing, closes, tells⟩ := serve_tells server audit op moment request plain
    refine ⟨closing.record, ?_, serve_request_id server audit op moment request closing closes, ?_,
      ?_, ?_⟩
    · simp only [wrap, Served.audited, closes]
    · simp only [wrap, respond, closes]
      exact tells
    · intro alone
      have silent : own.answers (serve server audit op moment request).sent = none := by
        apply own_answers_none
        rcases alone with stays | unkept
        · left
          cases sent : (serve server audit op moment request).sent with
          | none => rfl
          | some message =>
              exact absurd (sent_forwards server audit op moment request plain message sent) stays
        · exact .inr unkept
      simp only [leaves, silent, closes]
      rfl
    · intro forwards delivered leads
      rcases forwards_sends server audit op moment request forwards with
        ⟨kept, message, same, sent, dispatched, carried⟩
      have answers : own.answers (serve server audit op moment request).sent =
          some (handle own.responder own.audit kept own.turn message) := by
        have left : (serve server audit op moment request).sent = some message := sent
        simp only [Own.answers, delivered, leads, left, if_true, Option.bind_some, dispatched,
          Option.map_some]
      refine ⟨kept, message, same, sent, ?_, ?_⟩
      · intro reply replied
        have identified := reply_request_id own kept message reply (carried ▸ named) replied
        rw [carried] at identified
        refine ⟨identified, ?_⟩
        generalize handle own.responder own.audit kept own.turn message = answered
          at answers replied
        rcases answered with ⟨calls, replying⟩
        cases replied
        simp only [leaves, answers, closes, Option.toList_some, List.map_cons, List.map_nil]
        cases own.late with
        | true => exact ⟨List.Perm.refl _, rfl⟩
        | false => exact ⟨List.Perm.swap _ _ [], rfl⟩
      · intro crashed
        generalize handle own.responder own.audit kept own.turn message = answered
          at answers crashed
        rcases answered with ⟨calls, replying⟩
        cases crashed
        simp only [leaves, answers, closes]
        rfl
  · intro mutating ran
    have admitted : ∃ env, admission server audit op moment request = .handle env := by
      rcases ran with admitted | called
      · exact admitted
      · simp only [wrap, serve] at called
        cases verdict : admission server audit op moment request with
        | refuse actor code message => simp [verdict] at called
        | redirect actor location => simp [verdict] at called
        | handle env => exact ⟨env, rfl⟩
    obtain ⟨env, admitted⟩ := admitted
    obtain ⟨_, _, _, guarded⟩ := admission_handle _ _ _ _ _ env admitted
    exact verify_ok server moment request env.actor (guarded mutating).2

end Requests

/-- An engine whose calls panic. -/
def panickingEngine : Engine := fun _ => .panicked "nil map"

/-- The responder of `n1`, which leads or not when the message comes back. -/
def ownResponder (leads : Bool) (engine : Engine) : Own :=
  ⟨sampleResponder, true, leads, reliableAudit, sampleTurn engine, false⟩

theorem panicking_failover_audited :
    ∃ record, (wrap (sampleServer "n1") reliableAudit .failover
        (sampleMoment true panickingEngine (fun _ => .error .leaderRouteTimeout))
        failoverRequest).audit = reliableAudit.record record ∧
      record.requestID = "01J" ∧
      (leaves (ownResponder true panickingEngine) (sampleServer "n1") reliableAudit .failover
        (sampleMoment true panickingEngine (fun _ => .error .leaderRouteTimeout))
        failoverRequest).records = [record] := by
  rcases (request_audited_truthfully (sampleServer "n1") reliableAudit .failover
    (sampleMoment true panickingEngine (fun _ => .error .leaderRouteTimeout)) failoverRequest
    (ownResponder true panickingEngine) rfl (by decide)).1 with
    ⟨record, written, named, -, alone, -⟩
  refine ⟨record, written, named, ?_⟩
  -- The leader handles its own request, so there is nothing to forward.
  rw [alone (.inl (fun forwards => nomatch forwards.follower))]

/-- The status call of the leadership check fails as the request arrives on the leader. The leader
sends the request to itself, and there are two records with one id. -/
theorem failover_forwarded_to_itself :
    (leaves (ownResponder true obedientEngine) (sampleServer "n1") reliableAudit .failover
      (sampleMoment false obedientEngine (hop sampleResponder reliableAudit
        (sampleTurn obedientEngine))) failoverRequest).records.map AuditRecord.requestID =
      ["01J", "01J"] := by
  decide

end PgmanProxy.Control.AuditOnce
