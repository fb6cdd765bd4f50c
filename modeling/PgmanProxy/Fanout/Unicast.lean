import PgmanProxy.Fanout.Responder

/-!
# Who answers a unicast request

A unicast request goes out on the target's subject, and the first reply on its inbox
is the one returned. The wildcard subscription that every peer holds for broadcasts
matches that subject too, so every peer that serves the slice answers.
-/

namespace PgmanProxy.Fanout.Unicast

open PgmanProxy.Library.GoStrings PgmanProxy.Library.Subjects
open PgmanProxy.Fanout.Client PgmanProxy.Fanout.Responder

set_option autoImplicit false

variable {Args Data : Type}

/-- One call's options, with the request id and the time the client takes for it.
`requestFailure` is the error of a request nobody answers in time, `decodeFailure`
that of a reply that does not decode, `marshalFailure` that of arguments that do not
encode. -/
structure UnicastCall where
  perSliceTimeoutMS : Int
  operatorActor : String
  traceID : String
  requestID : String
  now : Nat
  marshalFailure : Option String
  requestFailure : String
  decodeFailure : String
deriving DecidableEq, Repr

def UnicastCall.request (call : UnicastCall) (slice : Slice) (args : Option Args) :
    Request Args where
  version := 1
  requestID := call.requestID
  operatorActor := call.operatorActor
  traceID := call.traceID
  deadlineMS := if call.perSliceTimeoutMS ≤ 0 then 5000 else call.perSliceTimeoutMS
  slice := slice.text
  args := args

/-- The client's failed entry for its target. -/
def synthetic (call : UnicastCall) (target code message : String) : Reply Data where
  version := 1
  requestID := call.requestID
  nodeID := target
  status := .statusFailed
  data := none
  error := some ⟨code, message⟩
  respondedAt := call.now

/-- `Unicast`. The client is its cluster id, or `none` when it or its connection is nil;
`inbox` lists what arrives on the request's inbox before the deadline, in order. -/
def unicast (client : Option String) (call : UnicastCall) (slice : Slice) (target : String)
    (args : Option Args) (inbox : String → Request Args → List (Arrival Data)) :
    Except String (Reply Data) :=
  match client with
  | none => .error "fanout: nil Client"
  | some clusterID =>
      match call.marshalFailure with
      | some why => .error ("marshal request: " ++ why)
      | none =>
          match inbox (requestSubject clusterID slice target) (call.request slice args) with
          | [] => .ok (synthetic call target codeSiblingUnreachable call.requestFailure)
          | .malformed :: _ =>
              .ok (synthetic call target codeSliceInternal
                ("malformed reply: " ++ call.decodeFailure))
          | .reply reply :: _ => .ok reply

/-! ## The peers behind the subject -/

/-- A peer of the cluster whose `Serve` has succeeded. -/
structure Peer (clusterID : String) where
  server : Server
  member : server.clusterID = clusterID
  started : server.subs = wantedSubs server

theorem subscribe_all_ok (refuses : String → Option String) (wanted subs : List Subscription)
    (accepted : (subscribeAll refuses wanted subs).2 = .ok ()) :
    (subscribeAll refuses wanted subs).1 = subs ++ wanted := by
  induction wanted generalizing subs with
  | nil => simp [subscribeAll]
  | cons first rest ih =>
      unfold subscribeAll at accepted ⊢
      split at accepted
      · cases accepted
      · rw [ih _ accepted, List.append_assoc, List.singleton_append]

/-- A first `Serve` that succeeds leaves exactly the subscriptions it asks for. -/
theorem serve_started (refuses : String → Option String) (server : Server)
    (fresh : server.subs = []) (accepted : (serve refuses server).2 = .ok ()) :
    (serve refuses server).1.subs = wantedSubs (serve refuses server).1 := by
  unfold serve at accepted ⊢
  split at accepted
  · cases accepted
  · split at accepted
    · cases accepted
    · split at accepted
      · cases accepted
      · rename_i connected named opened
        rw [if_neg connected, if_neg named, if_neg opened, if_neg (by simp [fresh])]
        rw [if_neg (by simp [fresh])] at accepted
        exact subscribe_all_ok refuses (wantedSubs server) [] accepted

def Serves {clusterID : String} (peer : Peer clusterID) (slice : Slice) : Prop :=
  slice ∈ peer.server.handlers.map Prod.fst

instance {clusterID : String} (peer : Peer clusterID) (slice : Slice) :
    Decidable (Serves peer slice) :=
  inferInstanceAs (Decidable (slice ∈ peer.server.handlers.map Prod.fst))

/-- NATS hands a message to every subscription whose pattern matches its subject. -/
def deliveries {clusterID : String} (peers : List (Peer clusterID)) (subject : String) :
    List (Peer clusterID × Slice) :=
  peers.flatMap (fun peer =>
    (peer.server.subs.filter (fun sub => Delivers sub.subject subject)).map
      (fun sub => (peer, sub.slice)))

/-- One answered delivery: what the handler did and when the reply was made. -/
structure Answer (clusterID : String) (Data : Type) where
  peer : Peer clusterID
  slice : Slice
  outcome : Outcome Data
  now : Nat

def Answer.delivery {clusterID : String} (answer : Answer clusterID Data) :
    Peer clusterID × Slice := (answer.peer, answer.slice)

/-- The inbox when these answers arrive in this order. -/
def inboxOf {clusterID : String} (answers : List (Answer clusterID Data)) (_ : String)
    (request : Request Args) : List (Arrival Data) :=
  answers.map (fun answer =>
    handle answer.peer.server answer.slice (.request request) answer.outcome answer.now)

/-- The answers to a request: some of its deliveries, in any order. -/
def AnswersTo {clusterID : String} (peers : List (Peer clusterID)) (slice : Slice)
    (target : String) (answers : List (Answer clusterID Data)) : Prop :=
  (answers.map Answer.delivery).Subperm (deliveries peers (requestSubject clusterID slice target))

/-! ## Which subscriptions match -/

theorem sanitize_lacks (text : String) (rune : Char) (other : isNameRune rune = false)
    (star : rune ≠ '*') (mark : rune ≠ '_') : rune ∉ (sanitize text).toList := by
  have alone : "*".toList = ['*'] := by decide
  have filler : "_".toList = ['_'] := by decide
  intro present
  unfold sanitize at present
  split at present
  · rw [alone, List.mem_singleton] at present
    exact star present
  · extract_lets out at present
    split at present
    · rw [filler, List.mem_singleton] at present
      exact mark present
    · rw [String.toList_ofList] at present
      exact replaced_lacks text.toList rune other mark present

theorem sanitize_tokens (text : String) : tokens (sanitize text) = [sanitize text] :=
  tokens_plain _ (sanitize_lacks text '.' (by decide) (by decide) (by decide))

theorem sanitize_not_rest (text : String) : sanitize text ≠ ">" :=
  not_rest _ (sanitize_lacks text '>' (by decide) (by decide) (by decide))

theorem slice_tokens (slice : Slice) : tokens slice.text = [slice.text] := by
  cases slice <;> decide

def leadTokens (clusterID : String) : List String :=
  ["pgman_proxy", sanitize clusterID, "fanout"]

theorem lead_not_rest (clusterID : String) : ∀ token ∈ leadTokens clusterID, token ≠ ">" := by
  simp [leadTokens, sanitize_not_rest]

/-- Every fan-out subject has five tokens; the last is the only one a caller chooses
freely. -/
theorem subject_tokens (clusterID : String) (slice : Slice) (last : String)
    (single : tokens last = [last]) :
    tokens (subjectPrefix clusterID ++ slice.text ++ "." ++ last) =
      leadTokens clusterID ++ [slice.text, last] := by
  have regrouped : subjectPrefix clusterID ++ slice.text ++ "." ++ last =
      "pgman_proxy" ++ "." ++ sanitize clusterID ++ "." ++ "fanout" ++ "." ++ slice.text ++
        "." ++ last := by
    rw [← String.toList_inj]
    simp [subjectPrefix]
  have first : tokens "pgman_proxy" = ["pgman_proxy"] := by decide
  have third : tokens "fanout" = ["fanout"] := by decide
  rw [regrouped, tokens_dot, tokens_dot, tokens_dot, tokens_dot, first, third, sanitize_tokens,
    slice_tokens, single]
  rfl

theorem slice_text_injective (left right : Slice) (same : left.text = right.text) :
    left = right := by
  cases left <;> cases right <;> first | rfl | exact absurd same (by decide)

theorem slice_text_literal (slice : Slice) : slice.text ≠ ">" ∧ slice.text ≠ "*" := by
  cases slice <;> decide

/-- A pattern of the cluster's fan-out family matches a request of the same slice only,
by its last token. -/
theorem delivers_fanout (clusterID : String) (wanted slice : Slice) (last target : String)
    (single : tokens last = [last]) :
    Delivers (subjectPrefix clusterID ++ wanted.text ++ "." ++ last)
        (requestSubject clusterID slice target) =
      (decide (wanted = slice) && matchTokens [last] [sanitize target]) := by
  have same : (wanted.text = slice.text) ↔ wanted = slice :=
    ⟨slice_text_injective wanted slice, congrArg Slice.text⟩
  obtain ⟨single_slice, literal⟩ := slice_text_literal wanted
  unfold Delivers requestSubject
  rw [subject_tokens _ _ _ single, subject_tokens _ _ _ (sanitize_tokens target),
    match_lead _ _ _ (lead_not_rest clusterID), match_literal _ _ _ _ single_slice literal]
  simp only [same]

theorem delivers_wildcard (clusterID : String) (wanted slice : Slice) (target : String) :
    Delivers (responderWildcard clusterID wanted) (requestSubject clusterID slice target) =
      decide (wanted = slice) := by
  have star : tokens "*" = ["*"] := by decide
  have regrouped : responderWildcard clusterID wanted =
      subjectPrefix clusterID ++ wanted.text ++ "." ++ "*" := by
    rw [← String.toList_inj]
    simp [responderWildcard]
  rw [regrouped, delivers_fanout _ _ _ _ _ star, match_any, Bool.and_true]

theorem delivers_unicast (clusterID : String) (wanted slice : Slice) (self target : String)
    (matched : Delivers (responderUnicast clusterID wanted self)
      (requestSubject clusterID slice target) = true) :
    wanted = slice := by
  unfold responderUnicast at matched
  rw [delivers_fanout _ _ _ _ _ (sanitize_tokens self), Bool.and_eq_true] at matched
  exact of_decide_eq_true matched.1

theorem mem_wanted_subs {clusterID : String} (peer : Peer clusterID) (sub : Subscription) :
    sub ∈ peer.server.subs ↔ ∃ entry ∈ peer.server.handlers,
      sub = ⟨responderUnicast clusterID entry.1 peer.server.selfNodeID, entry.1⟩ ∨
        sub = ⟨responderWildcard clusterID entry.1, entry.1⟩ := by
  rw [peer.started, wantedSubs, peer.member]
  simp only [List.mem_flatMap, List.mem_pair]

/-- A peer receives a request only under a slice it has registered, the request's. -/
theorem matched_slice {clusterID : String} (peer : Peer clusterID) (sub : Subscription)
    (slice : Slice) (target : String) (held : sub ∈ peer.server.subs)
    (matched : Delivers sub.subject (requestSubject clusterID slice target) = true) :
    sub.slice = slice ∧ Serves peer sub.slice := by
  obtain ⟨entry, registered, asked⟩ := (mem_wanted_subs peer sub).1 held
  have serves : Serves peer entry.1 := List.mem_map_of_mem registered
  rcases asked with rfl | rfl
  · exact ⟨delivers_unicast _ _ _ _ _ matched, serves⟩
  · rw [delivers_wildcard] at matched
    exact ⟨of_decide_eq_true matched, serves⟩

/-- A request reaches exactly the peers that serve its slice, the target or not. -/
theorem mem_deliveries {clusterID : String} (peers : List (Peer clusterID)) (slice : Slice)
    (target : String) (peer : Peer clusterID) (wanted : Slice) :
    (peer, wanted) ∈ deliveries peers (requestSubject clusterID slice target) ↔
      peer ∈ peers ∧ wanted = slice ∧ Serves peer slice := by
  constructor
  · intro delivered
    obtain ⟨holder, present, received⟩ := List.mem_flatMap.1 delivered
    obtain ⟨sub, subscribed, same⟩ := List.mem_map.1 received
    cases same
    obtain ⟨held, matched⟩ := List.mem_filter.1 subscribed
    obtain ⟨same_slice, serves⟩ := matched_slice peer sub slice target held matched
    rw [same_slice] at serves ⊢
    exact ⟨present, rfl, serves⟩
  · intro served
    obtain ⟨present, rfl, serves⟩ := served
    obtain ⟨entry, registered, rfl⟩ := List.mem_map.1 serves
    have held := (mem_wanted_subs peer _).2 ⟨entry, registered, .inr rfl⟩
    have matched : Delivers (responderWildcard clusterID entry.1)
        (requestSubject clusterID entry.1 target) = true := by
      rw [delivers_wildcard]
      exact decide_eq_true rfl
    apply List.mem_flatMap.2
    refine ⟨peer, present, ?_⟩
    apply List.mem_map.2
    exact ⟨_, List.mem_filter.2 ⟨held, matched⟩, rfl⟩

/-! ## The guarantee -/

/-- Whatever arrives first, the reply returned is the target's or made up for it. -/
def AnswersForTarget (Args Data : Type) {clusterID : String} (peers : List (Peer clusterID))
    (slice : Slice) (target : String) : Prop :=
  ∀ (call : UnicastCall) (args : Option Args) (answers : List (Answer clusterID Data)),
    AnswersTo peers slice target answers →
      ∀ reply, unicast (some clusterID) call slice target args (inboxOf answers) = .ok reply →
        reply.nodeID = target

/-- The first answer decides the reply. -/
theorem unicast_reply {clusterID : String} (call : UnicastCall) (slice : Slice) (target : String)
    (args : Option Args) (answers : List (Answer clusterID Data)) (reply : Reply Data)
    (returned : unicast (some clusterID) call slice target args (inboxOf answers) = .ok reply) :
    reply.nodeID = target ∨
      ∃ first rest, answers = first :: rest ∧ reply.nodeID = first.peer.server.selfNodeID := by
  unfold unicast at returned
  simp only at returned
  split at returned
  · cases returned
  · split at returned
    · cases returned
      exact .inl rfl
    · cases returned
      exact .inl rfl
    · rename_i first rest arrived
      cases returned
      right
      cases answers with
      | nil => cases arrived
      | cons answer later =>
          simp only [inboxOf, List.map_cons, List.cons.injEq] at arrived
          exact ⟨answer, later, rfl, handle_node _ _ _ _ _ _ arrived.1⟩

/-- A unicast answers for its target exactly when no other peer serves the slice. -/
theorem unicast_answers_for_target_iff {clusterID : String} (peers : List (Peer clusterID))
    (slice : Slice) (target : String) :
    AnswersForTarget Args Data peers slice target ↔
      ∀ peer ∈ peers, Serves peer slice → peer.server.selfNodeID = target := by
  constructor
  · intro kept peer present serves
    let call : UnicastCall := ⟨0, "", "", "", 0, none, "", ""⟩
    let answer : Answer clusterID Data := ⟨peer, slice, .returns none, 0⟩
    have delivered : AnswersTo peers slice target [answer] := by
      have received := (mem_deliveries peers slice target peer slice).2 ⟨present, rfl, serves⟩
      exact List.singleton_subperm_iff.2 received
    -- the handler's answer or, for a nil handler, the refusal
    obtain ⟨reply, replied⟩ : ∃ reply, handle peer.server slice
        (.request (call.request slice (none : Option Args))) answer.outcome 0 = .reply reply := by
      unfold handle
      simp only [UnicastCall.request, ne_eq, not_true, if_false]
      split
      · exact ⟨_, rfl⟩
      · exact ⟨_, rfl⟩
    have returned : unicast (some clusterID) call slice target (none : Option Args)
        (inboxOf [answer]) = .ok reply := by
      simp only [unicast, call, inboxOf, answer, List.map_cons]
      rw [show handle peer.server slice _ _ _ = _ from replied]
    rw [← kept call none [answer] delivered reply returned]
    exact (handle_node _ _ _ _ _ _ replied).symm
  · intro alone call args answers delivered reply returned
    rcases unicast_reply call slice target args answers reply returned with done | answered
    · exact done
    · obtain ⟨first, rest, rfl, named⟩ := answered
      have received := delivered.subset List.mem_cons_self
      obtain ⟨present, _, serves⟩ := (mem_deliveries peers slice target _ _).1 received
      rw [named]
      exact alone first.peer present serves

/-! ## Two peers -/

def statusServer (selfNodeID : String) : Server :=
  register ⟨true, "pg", selfNodeID, [], [], false⟩ .status true

def acceptAll (_ : String) : Option String := none

def nodeA : Peer "pg" where
  server := (serve acceptAll (statusServer "node-a")).1
  member := rfl
  started := serve_started acceptAll (statusServer "node-a") rfl rfl

def nodeB : Peer "pg" where
  server := (serve acceptAll (statusServer "node-b")).1
  member := rfl
  started := serve_started acceptAll (statusServer "node-b") rfl rfl

/-- `node-b` is asked for its status; `node-a` receives the request through its wildcard
subscription and answers first. -/
theorem sibling_answers_first :
    ∃ answers : List (Answer "pg" String),
      AnswersTo [nodeA, nodeB] .status "node-b" answers ∧
      ∃ reply, unicast (some "pg") ⟨5000, "ops", "", "r1", 9, none, "timeout", ""⟩ .status
          "node-b" (none : Option String) (inboxOf answers) = .ok reply ∧
        reply.status = .statusOK ∧ reply.nodeID = "node-a" := by
  have different : nodeA ≠ nodeB := by
    intro same
    have names := congrArg (fun peer => peer.server.selfNodeID) same
    exact absurd names (by decide)
  refine ⟨[⟨nodeA, .status, .returns (some "leader"), 7⟩,
    ⟨nodeB, .status, .returns (some "replica"), 8⟩], ?_, _, rfl, rfl, rfl⟩
  apply List.Nodup.subperm
  · simp [Answer.delivery, different]
  · intro delivery present
    rcases List.mem_pair.1 present with rfl | rfl
    · exact (mem_deliveries _ _ _ _ _).2 ⟨by simp, rfl, by decide⟩
    · exact (mem_deliveries _ _ _ _ _).2 ⟨by simp, rfl, by decide⟩

end PgmanProxy.Fanout.Unicast
