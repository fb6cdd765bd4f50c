import PgmanProxy.Control.Forwarding
import PgmanProxy.Pgmctl.Pinning

/-!
# The TTL of a promotion authorization

`pgmctl promote --ttl` takes a duration in nanoseconds and posts it in whole seconds;
the endpoint turns the seconds back into nanoseconds in 64 bits. The first conversion
drops what is below a second, the second one wraps around.
-/

namespace PgmanProxy.Pgmctl.PromotionTTL

open PgmanProxy.Library.GoJson PgmanProxy.Library.GoStrings PgmanProxy.PgManager
open PgmanProxy.Control.Forwarding PgmanProxy.Control.Handlers PgmanProxy.Control.Requests
open PgmanProxy.Pgmctl.Commands PgmanProxy.Pgmctl.Pinning

set_option autoImplicit false

/-- `time.Second` -/
def second : Int := 1000000000

/-- Whatever authorization the engine is asked for has the requested TTL. -/
def Exact (requested : Int) (handled : Handled) : Prop :=
  ∀ request, EngineCall.authorizeJoinWindowPromotion request ∈ handled.calls →
    request.ttl = requested

/-! ## The endpoint -/

/-- The body passes the endpoint's field checks. -/
def Accepted (body : PromotionAuthorizationReq) : Prop :=
  body.target ≠ "" ∧ body.reason ≠ "" ∧ body.acceptDataLoss = true ∧ 0 ≤ body.ttlSeconds

theorem authorize_call_calls (server : Server) (moment : Moment)
    (request : PromotionAuthorizationRequest) :
    (authorizePromotionCall server moment request).calls =
      [.authorizeJoinWindowPromotion request] := by
  unfold authorizePromotionCall
  dsimp only
  split <;> rfl

section Endpoint

variable (server : Server) (moment : Moment) (request : Request) (env : RequestEnv)

theorem accepted_calls (body : PromotionAuthorizationReq)
    (decoded : Decoding.decode .decodeJSON promotionAuthorizationReq request.body = .ok body)
    (accepted : Accepted body) :
    (handleAuthorizePromotion server moment request env).calls =
      [.authorizeJoinWindowPromotion
        ⟨body.target, env.actor, body.reason, env.reqID, secondsDuration body.ttlSeconds,
          body.replace⟩] := by
  obtain ⟨named, explained, accepts, positive⟩ := accepted
  rw [handleAuthorizePromotion, decoded]
  dsimp only
  rw [if_neg named, if_neg explained, if_neg (by simp [accepts]), if_neg (Int.not_lt.2 positive),
    authorize_call_calls]

theorem refused_calls (body : PromotionAuthorizationReq)
    (decoded : Decoding.decode .decodeJSON promotionAuthorizationReq request.body = .ok body)
    (refused : ¬ Accepted body) :
    (handleAuthorizePromotion server moment request env).calls = [] := by
  rw [handleAuthorizePromotion, decoded]
  dsimp only
  split_ifs with nameless unexplained denied negative
  · rfl
  · rfl
  · rfl
  · rfl
  · exact absurd ⟨nameless, unexplained, by simpa using denied, Int.not_lt.1 negative⟩ refused

/-- A decoded request reaches the engine exactly when its fields pass, with the seconds
turned into a duration. -/
theorem exact_iff (requested : Int) (body : PromotionAuthorizationReq)
    (decoded : Decoding.decode .decodeJSON promotionAuthorizationReq request.body = .ok body) :
    Exact requested (handleAuthorizePromotion server moment request env) ↔
      (Accepted body → secondsDuration body.ttlSeconds = requested) := by
  by_cases accepted : Accepted body
  · rw [Exact, accepted_calls server moment request env body decoded accepted]
    simp [accepted]
  · rw [Exact, refused_calls server moment request env body decoded accepted]
    simp [accepted]

end Endpoint

theorem seconds_duration_exact_iff (seconds : Int) (positive : 0 ≤ seconds) :
    secondsDuration seconds = seconds * second ↔ seconds * second < int64Bound := by
  rw [secondsDuration, second, wrap_int64_eq_iff]
  unfold int64Bound
  omega

/-! ## The command -/

/-- The body `runPromote` posts. -/
def promoteBody (requestID : String) (args : PromoteArgs) (node : String) : Json :=
  .obj
    [("accept_data_loss", .bool true), ("reason", .str args.reason),
     ("replace", .bool args.replace), ("request_id", .str requestID),
     ("target", .str node), ("ttl_seconds", .num (toString (args.ttl.tdiv 1000000000)))]

theorem send_ok (invocation : Invocation) (client : Client) (mutation sent : Mutation)
    (done : send invocation client mutation = .ok sent) : sent = mutation := by
  unfold send at done
  split at done
  · cases done
  · cases done
    rfl

theorem run_promote_posts (invocation : Invocation) (client : Client) (view : ServerView)
    (args : PromoteArgs) (node : String) (sent : Mutation)
    (done : runPromote invocation client view args node = .ok sent) :
    sent.body = some (promoteBody invocation.requestID args node) := by
  unfold runPromote at done
  cases fetched : fetchEngineStatus invocation client view with
  | error failure =>
      rw [fetched] at done
      cases done
  | ok status =>
      rw [fetched] at done
      simp only [bind, Except.bind] at done
      split at done
      · cases done
      · split at done
        · cases done
        · split at done
          · cases done
          · rw [send_ok invocation client _ sent done]
            rfl

theorem trimmed_reason (reason : String) (explained : trimSpace reason ≠ "") : reason ≠ "" := by
  rintro rfl
  exact explained (by decide)

/-- A promotion that goes out names one node, gives a reason, and carries the TTL in
seconds. -/
theorem promote_posts (invocation : Invocation) (view : ServerView) (args : PromoteArgs)
    (sent : Mutation) (command : invocation.command = .promote args)
    (authorizes : args.cancel = false)
    (done : mutatingRequest invocation view = .ok sent) :
    ∃ node, args.nodes = [node] ∧ args.reason ≠ "" ∧
      sent.body = some (promoteBody invocation.requestID args node) := by
  unfold mutatingRequest at done
  simp only [command, bind, Except.bind] at done
  split at done
  · cases done
  · split at done
    · cases done
    · rename_i node usage
      split at done
      · cases done
      · rename_i client prepared
        cases node with
        | none =>
            have cancels := ((promote_usage_cancel_iff args).1 usage).1
            rw [authorizes] at cancels
            cases cancels
        | some node =>
            obtain ⟨-, nodes, -, explained⟩ := (promote_usage_node_iff args node).1 usage
            exact ⟨node, nodes, trimmed_reason args.reason explained,
              run_promote_posts invocation client view args node sent done⟩

theorem posted_seconds (ttl : Int) (positive : 0 ≤ ttl) (small : ttl < int64Bound) :
    parseInt64 (toString (ttl.tdiv 1000000000)) = some (ttl / 1000000000) := by
  obtain ⟨nanos, rfl⟩ := Int.eq_ofNat_of_zero_le positive
  have quotient : (nanos : Int).tdiv 1000000000 = ((nanos / 1000000000 : Nat) : Int) := rfl
  rw [quotient, parse_int64_nat]
  · rfl
  · unfold int64Bound at small ⊢
    omega

/-- The endpoint reads the posted body back, if it is short enough to be read at all. -/
theorem promote_body_decodes (requestID : String) (args : PromoteArgs) (node : String)
    (size length : Nat) (trailing : Option String) (positive : 0 ≤ args.ttl)
    (small : args.ttl < int64Bound) (short : length ≤ maxRequestBodyBytes) :
    Decoding.decode .decodeJSON promotionAuthorizationReq
        ⟨size, .document (promoteBody requestID args node) length trailing⟩ =
      .ok ⟨node, args.reason, args.ttl / 1000000000, true, args.replace, requestID⟩ := by
  have within : ¬ Input.needed
      ⟨size, .document (promoteBody requestID args node) length trailing⟩ > maxRequestBodyBytes :=
    Nat.not_lt.2 short
  have seconds := posted_seconds args.ttl positive small
  rw [Decoding.decode, decodeLimited, if_neg within, promoteBody]
  generalize toString (args.ttl.tdiv 1000000000) = literal at seconds ⊢
  simp [decodeStream, decodeValue, decodeMembers, promotionAuthorizationReq, findField,
    stringField, boolField, intField, seconds]

theorem long_body_refused (input : Input) (long : maxRequestBodyBytes < input.needed) :
    Decoding.decode .decodeJSON promotionAuthorizationReq input =
      .error (.invalidSyntax "http: request body too large") := by
  rw [Decoding.decode, decodeLimited, if_pos long]

/-- `request` is what the endpoint is sent when `pgmctl promote NODE --ttl` goes out; its body
takes `length` bytes. -/
structure Delivered (invocation : Invocation) (view : ServerView) (args : PromoteArgs)
    (node : String) (length : Nat) (request : Request) : Prop where
  command : invocation.command = .promote args
  authorizes : args.cancel = false
  nodes : args.nodes = [node]
  posted : ∃ sent document size trailing, mutatingRequest invocation view = .ok sent ∧
    sent.body = some document ∧ request.body = ⟨size, .document document length trailing⟩

/-- The seconds that are posted make up the duration again. -/
theorem whole_seconds_iff (ttl : Int) (positive : 0 ≤ ttl) (small : ttl < int64Bound) :
    secondsDuration (ttl / 1000000000) = ttl ↔ ttl % second = 0 := by
  unfold secondsDuration wrapInt64 second
  unfold int64Bound at *
  omega

theorem delivered_exact_iff (server : Server) (moment : Moment) (request : Request)
    (env : RequestEnv) (invocation : Invocation) (view : ServerView) (args : PromoteArgs)
    (node : String) (length : Nat)
    (delivered : Delivered invocation view args node length request)
    (positive : 0 ≤ args.ttl) (small : args.ttl < int64Bound) :
    Exact args.ttl (handleAuthorizePromotion server moment request env) ↔
      (length ≤ maxRequestBodyBytes → node ≠ "" → args.ttl % second = 0) := by
  obtain ⟨sent, document, size, trailing, sends, content, received⟩ := delivered.posted
  obtain ⟨other, nodes, explained, body⟩ :=
    promote_posts invocation view args sent delivered.command delivered.authorizes sends
  rw [delivered.nodes] at nodes
  cases nodes
  rw [content] at body
  cases body
  by_cases short : length ≤ maxRequestBodyBytes
  · have decoded := promote_body_decodes invocation.requestID args node size length trailing
      positive small short
    rw [← received] at decoded
    rw [exact_iff server moment request env args.ttl _ decoded,
      whole_seconds_iff args.ttl positive small]
    constructor
    · intro passed _ named
      exact passed ⟨named, explained, rfl, by dsimp only; omega⟩
    · intro exact_seconds accepted
      exact exact_seconds short accepted.1
  · have needed : maxRequestBodyBytes < request.body.needed := by
      rw [received]
      exact Nat.lt_of_not_le short
    have refused := long_body_refused request.body needed
    rw [handleAuthorizePromotion, refused]
    constructor
    · intro _ within
      exact absurd within short
    · intro _ authorization called
      cases called

/-- A TTL posted in seconds reaches the engine unchanged exactly when it fits into 64 bits of
nanoseconds or the body is refused; one given to `pgmctl promote` exactly when it is a whole
number of seconds or the endpoint refuses the post. -/
theorem promotion_ttl_exact_iff (server : Server) (moment : Moment) (request : Request)
    (env : RequestEnv) :
    (∀ body, Decoding.decode .decodeJSON promotionAuthorizationReq request.body = .ok body →
      0 ≤ body.ttlSeconds →
      (Exact (body.ttlSeconds * second) (handleAuthorizePromotion server moment request env) ↔
        (Accepted body → body.ttlSeconds * second < int64Bound))) ∧
    (∀ invocation view args node length, Delivered invocation view args node length request →
      0 ≤ args.ttl → args.ttl < int64Bound →
      (Exact args.ttl (handleAuthorizePromotion server moment request env) ↔
        (length ≤ maxRequestBodyBytes → node ≠ "" → args.ttl % second = 0))) := by
  refine ⟨?_, ?_⟩
  · intro body decoded positive
    rw [exact_iff server moment request env _ body decoded,
      seconds_duration_exact_iff body.ttlSeconds positive]
  · intro invocation view args node length delivered positive small
    exact delivered_exact_iff server moment request env invocation view args node length delivered
      positive small

/-- An authorization for 36028797018963968 seconds: in nanoseconds a multiple of `2 ^ 64`. -/
def endlessPost : Request :=
  { failoverRequest with
    path := "/v1/promotion-authorization"
    body := ⟨96, .document (.obj
      [("target", .str "node-b"), ("reason", .str "site a is lost"),
       ("accept_data_loss", .bool true), ("ttl_seconds", .num "36028797018963968")]) 96 none⟩ }

/-- `pgmctl promote node-b --accept-data-loss --reason "site a is lost" --ttl 500ms` -/
def briefPromote : Invocation :=
  { forcedFailover with
    command := .promote ⟨["node-b"], true, "site a is lost", 500000000, false, false⟩ }

def openWindow : ServerView := ⟨"prod", some ⟨"node-a", ["node-a", "node-b"]⟩, none⟩

def briefPost : Request :=
  { endlessPost with
    body := ⟨130, .document (promoteBody "01j"
      ⟨["node-b"], true, "site a is lost", 500000000, false, false⟩ "node-b") 130 none⟩ }

/-- Both requests are accepted, and the engine is asked for its default TTL. -/
theorem unequal_ttls_become_default :
    let server := sampleServer "node-b"
    let moment := sampleMoment true obedientEngine (fun _ => .error .leaderRouteTimeout)
    let env : RequestEnv := ⟨.authorizePromotion, "01J", "ops", false⟩
    let asked : PromotionAuthorizationRequest :=
      ⟨"node-b", "ops", "site a is lost", "01J", 0, false⟩
    (handleAuthorizePromotion server moment endlessPost env).calls =
        [.authorizeJoinWindowPromotion asked] ∧
      Delivered briefPromote openWindow
        ⟨["node-b"], true, "site a is lost", 500000000, false, false⟩ "node-b" 130 briefPost ∧
      (handleAuthorizePromotion server moment briefPost env).calls =
        [.authorizeJoinWindowPromotion asked] ∧
      ¬ Exact (36028797018963968 * second)
          (handleAuthorizePromotion server moment endlessPost env) ∧
      ¬ Exact 500000000 (handleAuthorizePromotion server moment briefPost env) := by
  intro server moment env asked
  have endless : Decoding.decode .decodeJSON promotionAuthorizationReq endlessPost.body =
      .ok ⟨"node-b", "site a is lost", 36028797018963968, true, false, ""⟩ := rfl
  have brief : Decoding.decode .decodeJSON promotionAuthorizationReq briefPost.body =
      .ok ⟨"node-b", "site a is lost", 0, true, false, "01j"⟩ := rfl
  have wrapped : secondsDuration 36028797018963968 = 0 := by decide
  have accepted : ∀ seconds ≥ 0, ∀ requestID,
      Accepted ⟨"node-b", "site a is lost", seconds, true, false, requestID⟩ := by
    intro seconds positive requestID
    have named : "node-b" ≠ "" := by decide
    have explained : "site a is lost" ≠ "" := by decide
    exact ⟨named, explained, rfl, positive⟩
  have asks := accepted_calls server moment endlessPost env _ endless (accepted _ (by decide) _)
  rw [wrapped] at asks
  refine ⟨asks, ⟨rfl, rfl, rfl, _, _, 130, none, rfl, rfl, rfl⟩, ?_, ?_, ?_⟩
  · exact accepted_calls server moment briefPost env _ brief (accepted _ (by decide) _)
  · rw [exact_iff server moment endlessPost env _ _ endless, wrapped]
    intro passed
    exact absurd (passed (accepted _ (by decide) _)) (by decide)
  · rw [exact_iff server moment briefPost env _ _ brief]
    intro passed
    exact absurd (passed (accepted _ (by decide) _)) (by decide)

end PgmanProxy.Pgmctl.PromotionTTL
