import PgmanProxy.Control.Forwarding
import PgmanProxy.Library.GoJsonStrict

/-!
# One request, two ways to the leader

A leader-only request reaches the leader's engine through the HTTP handler or
through the responder. The handler decodes the first value of the body strictly;
the responder decodes the whole body and lets unknown members pass. The two
treat a body alike unless exactly one of these differences bites.
-/

namespace PgmanProxy.Control.PathAgreement

open PgmanProxy.Library.GoJson PgmanProxy.Library.GoJsonStrict PgmanProxy.PgManager
open PgmanProxy.Control.Wire PgmanProxy.Control.AuditSinks PgmanProxy.Control.Requests
open PgmanProxy.Control.Handlers PgmanProxy.Control.LeaderRoute PgmanProxy.Control.Forwarding

set_option autoImplicit false

/-- The same request on both ways, with the audit gate open: one engine, one set of wire
types, one body of at most 64 KiB. -/
structure TwoWays where
  server : Server
  moment : Moment
  request : Request
  env : RequestEnv
  responder : Responder
  audit : Audit
  turn : Turn
  message : Message
  arrivesAtLeader : env.forwarded = false
  sameShapes : responder.shapes = server.shapes
  sameEngine : turn.engine = moment.engine
  sameBody : message.data = request.body
  gateOpen : audit.healthy = true
  scanned : request.body.needed ≤ request.body.size
  capped : request.body.size ≤ maxRequestBodyBytes

def TwoWays.direct (ways : TwoWays) (op : LeaderOp) : Handled :=
  handleLeaderOp op ways.server ways.moment ways.request ways.env

def TwoWays.forwarded (ways : TwoWays) (op : LeaderOp) : Answered :=
  handle ways.responder ways.audit op ways.turn ways.message

def rejectsDirectly (handled : Handled) : Prop :=
  handled.calls = [] ∧ ∃ text, handled.ending = .refuse .invalidArgument text

def rejectsForwarded (answered : Answered) : Prop :=
  answered.calls = [] ∧ ∃ reply text, answered.reply = some reply ∧
    reply.envelope.error = some ⟨.invalidArgument, text⟩

/-- Both ways refuse the body without an engine call, or both make the same call. -/
def SameTreatment (ways : TwoWays) (op : LeaderOp) : Prop :=
  (rejectsDirectly (ways.direct op) ∧ rejectsForwarded (ways.forwarded op)) ∨
    ∃ call, (ways.direct op).calls = [call] ∧ (ways.forwarded op).calls = [call]

/-- `encoding/json` on pg-manager's types: a strict decoder that accepts a value decodes
it like the lenient one. -/
structure Lawful (shapes : WireShapes) : Prop where
  topology : ∀ value decoded, shapes.topology true value = .ok decoded →
    shapes.topology false value = .ok decoded
  policy : ∀ value decoded, shapes.policy true value = .ok decoded →
    shapes.policy false value = .ok decoded
  plan : ∀ value decoded, shapes.plan true value = .ok decoded →
    shapes.plan false value = .ok decoded

/-! ## The body of an operation -/

/-- The value a decoder takes from the bytes of a body. -/
def bodyValue : Decoding → Scan → Option Json
  | .decodeJSON, .document value _ _ => some value
  | .unmarshal, .document value _ none => some value
  | _, _ => none

def targetCall (call : NodeID → EngineCall) (decoded : Except DecodeError TargetReq) :
    Option EngineCall :=
  match decoded with
  | .ok body => if body.target = "" then none else some (call body.target)
  | .error _ => none

/-- The engine call an operation makes for the value of its body. -/
def callOn (strict : Bool) (shapes : WireShapes) : LeaderOp → Json → Option EngineCall
  | .failover, _ => some .failover
  | .triggerBackup, _ => some .triggerBackup
  | .switchover, value => targetCall .switchover (decodeValue strict switchoverReq value)
  | .fence, value => targetCall .fence (decodeValue strict fenceReq value)
  | .unfence, value => targetCall .unfence (decodeValue strict fenceReq value)
  | .updateTopology, value =>
      (decodeValue strict (updateTopologyReq shapes strict) value).toOption.map
        (fun body => .updateTopology body.topology body.policy)
  | .prepareUpgrade, value =>
      (decodeValue strict (upgradeReq shapes strict) value).toOption.map
        (fun body => .prepareUpgrade body.plan)
  | .executeUpgrade, value =>
      (decodeValue strict (upgradeReq shapes strict) value).toOption.map
        (fun body => .executeUpgrade body.plan)

def readsBody : LeaderOp → Bool
  | .failover | .triggerBackup => false
  | _ => true

def TargetGiven (shape : Shape TargetReq) (value : Json) : Prop :=
  ∃ body, decodeValue false shape value = .ok body ∧ body.target ≠ ""

def Decodes {Target : Type} (shape : Shape Target) (value : Json) : Prop :=
  ∃ body, decodeValue false shape value = .ok body

/-- The value is a request of the operation, unknown members aside. -/
def WellFormed (shapes : WireShapes) : LeaderOp → Json → Prop
  | .failover, _ => True
  | .triggerBackup, _ => True
  | .switchover, value => TargetGiven switchoverReq value
  | .fence, value => TargetGiven fenceReq value
  | .unfence, value => TargetGiven fenceReq value
  | .updateTopology, value => Decodes (updateTopologyReq shapes false) value
  | .prepareUpgrade, value => Decodes (upgradeReq shapes false) value
  | .executeUpgrade, value => Decodes (upgradeReq shapes false) value

/-- The value has no unknown member, in the request or inside its fields. -/
def KnownBody (shapes : WireShapes) : LeaderOp → Json → Prop
  | .failover, _ => True
  | .triggerBackup, _ => True
  | .switchover, value => Known switchoverReq value
  | .fence, value => Known fenceReq value
  | .unfence, value => Known fenceReq value
  | .updateTopology, value => Known (updateTopologyReq shapes true) value
  | .prepareUpgrade, value => Known (upgradeReq shapes true) value
  | .executeUpgrade, value => Known (upgradeReq shapes true) value

/-- The body is no request of the operation, or it has an unknown member exactly when
something follows its first value. -/
def BodyAgrees (shapes : WireShapes) (op : LeaderOp) : Scan → Prop
  | .document value _ trailing =>
      readsBody op = true → WellFormed shapes op value →
        (KnownBody shapes op value ↔ trailing = none)
  | _ => True

/-! ## What each way calls -/

theorem invalid_iff_no_calls (dispatched : Dispatch) :
    dispatched.calls = [] ↔ ∃ text, dispatched = .invalid text := by
  cases dispatched <;> simp [Dispatch.calls]

theorem finish_mutation_calls (engine : Engine) (call : EngineCall) (target : String) :
    (finishMutation engine call target).calls = [call] := by
  unfold finishMutation
  split <;> rfl

theorem trigger_backup_calls (engine : Engine) :
    (triggerBackup engine).calls = [.triggerBackup] := by
  unfold triggerBackup
  split
  · rfl
  · split <;> rfl
  · rfl

theorem targeted_mutation_calls (engine : Engine) (call : NodeID → EngineCall)
    (decoded : Except DecodeError TargetReq) :
    (targetedMutation engine call decoded).calls = (targetCall call decoded).toList := by
  unfold targetedMutation targetCall
  cases decoded with
  | error failure => rfl
  | ok body =>
      by_cases blank : body.target = ""
      · simp [blank, Dispatch.calls]
      · simp [blank, finish_mutation_calls]

theorem update_topology_calls (engine : Engine)
    (decoded : Except DecodeError UpdateTopologyReq) :
    (updateTopology engine decoded).calls =
      (decoded.toOption.map (fun body =>
        EngineCall.updateTopology body.topology body.policy)).toList := by
  unfold updateTopology
  cases decoded with
  | error failure => rfl
  | ok body => exact finish_mutation_calls engine _ _

theorem upgrade_mutation_calls (engine : Engine) (call : UpgradePlan → EngineCall)
    (decoded : Except DecodeError UpgradeReq) :
    (upgradeMutation engine call decoded).calls =
      (decoded.toOption.map (fun body => call body.plan)).toList := by
  unfold upgradeMutation
  cases decoded with
  | error failure => rfl
  | ok body => exact finish_mutation_calls engine _ _

/-- Decoding a body of at most 64 KiB is decoding its value. -/
theorem decode_body {Target : Type} (decoding : Decoding) (shape : Shape Target) (input : Input)
    (fits : input.needed ≤ maxRequestBodyBytes) :
    decoding.decode shape input =
        (match bodyValue decoding input.scan with
          | some value => decodeValue decoding.strict shape value
          | none => decoding.decode shape input) ∧
      (bodyValue decoding input.scan = none →
        ∃ failure, decoding.decode shape input = .error failure) := by
  have within : ¬input.needed > maxRequestBodyBytes := Nat.not_lt.2 fits
  cases decoding with
  | decodeJSON =>
      simp only [Decoding.decode, decodeLimited, if_neg within]
      cases input.scan <;> simp [bodyValue, decodeStream, Decoding.strict]
  | unmarshal =>
      simp only [Decoding.decode]
      cases input.scan with
      | document value length trailing =>
          cases trailing <;> simp [bodyValue, unmarshal, Decoding.strict]
      | _ => simp [bodyValue, unmarshal]

/-- An operation that calls the engine on a decoded body calls it on the body's value. -/
theorem calls_on_value {Target : Type} (decoding : Decoding) (shape : Shape Target)
    (input : Input) (fits : input.needed ≤ maxRequestBodyBytes)
    (pick : Except DecodeError Target → Option EngineCall)
    (refuses : ∀ failure, pick (.error failure) = none) :
    pick (decoding.decode shape input) =
      (bodyValue decoding input.scan).bind
        (fun value => pick (decodeValue decoding.strict shape value)) := by
  obtain ⟨taken, lost⟩ := decode_body decoding shape input fits
  cases found : bodyValue decoding input.scan with
  | some value =>
      rw [found] at taken
      rw [taken]
      rfl
  | none =>
      obtain ⟨failure, refused⟩ := lost found
      rw [refused, refuses]
      rfl

theorem dispatch_calls (shapes : WireShapes) (decoding : Decoding) (engine : Engine)
    (input : Input) (op : LeaderOp) (fits : input.needed ≤ maxRequestBodyBytes)
    (reads : readsBody op = true) :
    (dispatchEngine shapes decoding engine input op).calls =
      ((bodyValue decoding input.scan).bind (callOn decoding.strict shapes op)).toList := by
  have on_target (call : NodeID → EngineCall) (shape : Shape TargetReq) :=
    calls_on_value decoding shape input fits (targetCall call) (fun _ => rfl)
  have on_plan (call : UpgradePlan → EngineCall) :=
    calls_on_value decoding (upgradeReq shapes decoding.strict) input fits
      (fun decoded => decoded.toOption.map (fun body => call body.plan)) (fun _ => rfl)
  cases op with
  | failover => cases reads
  | triggerBackup => cases reads
  | switchover => rw [dispatchEngine, targeted_mutation_calls, on_target]; rfl
  | fence => rw [dispatchEngine, targeted_mutation_calls, on_target]; rfl
  | unfence => rw [dispatchEngine, targeted_mutation_calls, on_target]; rfl
  | updateTopology =>
      rw [dispatchEngine, update_topology_calls]
      exact congrArg Option.toList (calls_on_value decoding
        (updateTopologyReq shapes decoding.strict) input fits
        (fun decoded => decoded.toOption.map (fun body =>
          EngineCall.updateTopology body.topology body.policy)) (fun _ => rfl))
  | prepareUpgrade =>
      rw [dispatchEngine, upgrade_mutation_calls]
      exact congrArg Option.toList (on_plan .prepareUpgrade)
  | executeUpgrade =>
      rw [dispatchEngine, upgrade_mutation_calls]
      exact congrArg Option.toList (on_plan .executeUpgrade)

/-! ## Strict and lenient requests -/

theorem target_req_refines (name : String) :
    Refines (targetReqShape name) (targetReqShape name) where
  zero := rfl
  fields := .cons (string_field_refines _ _ _) (.cons (string_field_refines _ _ _) .nil)

theorem update_topology_refines (shapes : WireShapes) (lawful : Lawful shapes) :
    Refines (updateTopologyReq shapes true) (updateTopologyReq shapes false) where
  zero := rfl
  fields := .cons (decoded_field_refines _ _ _ _ lawful.topology)
    (.cons (decoded_field_refines _ _ _ _ lawful.policy)
      (.cons (string_field_refines _ _ _) .nil))

theorem upgrade_refines (shapes : WireShapes) (lawful : Lawful shapes) :
    Refines (upgradeReq shapes true) (upgradeReq shapes false) where
  zero := rfl
  fields := .cons (decoded_field_refines _ _ _ _ lawful.plan)
    (.cons (string_field_refines _ _ _) .nil)

theorem strict_target_call_iff (call : NodeID → EngineCall) (name : String) (value : Json)
    (made : EngineCall) :
    targetCall call (decodeValue true (targetReqShape name) value) = some made ↔
      targetCall call (decodeValue false (targetReqShape name) value) = some made ∧
        Known (targetReqShape name) value := by
  have strict := strict_decode_iff _ _ (target_req_refines name) value
  have picked : ∀ decoded, targetCall call decoded = some made ↔
      ∃ body, decoded = .ok body ∧ body.target ≠ "" ∧ call body.target = made := by
    intro decoded
    cases decoded with
    | error failure => simp [targetCall]
    | ok body => by_cases blank : body.target = "" <;> simp [targetCall, blank]
  simp only [picked, strict]
  constructor
  · rintro ⟨body, ⟨decoded, known⟩, given⟩
    exact ⟨⟨body, decoded, given⟩, known⟩
  · rintro ⟨⟨body, decoded, given⟩, known⟩
    exact ⟨body, ⟨decoded, known⟩, given⟩

theorem strict_map_iff {Target : Type} (strict lenient : Shape Target)
    (refines : Refines strict lenient) (call : Target → EngineCall) (value : Json)
    (made : EngineCall) :
    (decodeValue true strict value).toOption.map call = some made ↔
      (decodeValue false lenient value).toOption.map call = some made ∧ Known strict value := by
  have picked : ∀ decoded : Except DecodeError Target,
      decoded.toOption.map call = some made ↔ ∃ body, decoded = .ok body ∧ call body = made := by
    intro decoded
    cases decoded <;> simp [Except.toOption]
  simp only [picked, strict_decode_iff strict lenient refines value]
  constructor
  · rintro ⟨body, ⟨decoded, known⟩, same⟩
    exact ⟨⟨body, decoded, same⟩, known⟩
  · rintro ⟨⟨body, decoded, same⟩, known⟩
    exact ⟨body, ⟨decoded, known⟩, same⟩

/-- The strict decoder leads to the lenient one's call, and only if all members are known. -/
theorem strict_call_iff (shapes : WireShapes) (lawful : Lawful shapes) (op : LeaderOp)
    (value : Json) (made : EngineCall) :
    callOn true shapes op value = some made ↔
      callOn false shapes op value = some made ∧ KnownBody shapes op value := by
  cases op with
  | failover => simp [callOn, KnownBody]
  | triggerBackup => simp [callOn, KnownBody]
  | switchover => exact strict_target_call_iff .switchover "switchoverReq" value made
  | fence => exact strict_target_call_iff .fence "fenceReq" value made
  | unfence => exact strict_target_call_iff .unfence "fenceReq" value made
  | updateTopology => exact strict_map_iff _ _ (update_topology_refines shapes lawful) _ value made
  | prepareUpgrade => exact strict_map_iff _ _ (upgrade_refines shapes lawful) _ value made
  | executeUpgrade => exact strict_map_iff _ _ (upgrade_refines shapes lawful) _ value made

theorem well_formed_iff (shapes : WireShapes) (op : LeaderOp) (value : Json) :
    WellFormed shapes op value ↔ ∃ made, callOn false shapes op value = some made := by
  have on_target : ∀ (call : NodeID → EngineCall) (shape : Shape TargetReq),
      TargetGiven shape value ↔
        ∃ made, targetCall call (decodeValue false shape value) = some made := by
    intro call shape
    unfold TargetGiven targetCall
    cases decodeValue false shape value with
    | error failure => simp
    | ok body => by_cases blank : body.target = "" <;> simp [blank]
  have on_map : ∀ {Target : Type} (shape : Shape Target) (call : Target → EngineCall),
      Decodes shape value ↔
        ∃ made, (decodeValue false shape value).toOption.map call = some made := by
    intro Target shape call
    unfold Decodes
    cases decodeValue false shape value <;> simp [Except.toOption]
  cases op with
  | failover => simp [WellFormed, callOn]
  | triggerBackup => simp [WellFormed, callOn]
  | switchover => exact on_target _ _
  | fence => exact on_target _ _
  | unfence => exact on_target _ _
  | updateTopology => exact on_map _ _
  | prepareUpgrade => exact on_map _ _
  | executeUpgrade => exact on_map _ _

/-! ## Both ways together -/

def TwoWays.dispatched (ways : TwoWays) (decoding : Decoding) (op : LeaderOp) : Dispatch :=
  dispatchEngine ways.server.shapes decoding ways.moment.engine ways.request.body op

theorem direct_dispatched (ways : TwoWays) (op : LeaderOp) :
    ways.direct op = ⟨(ways.dispatched .decodeJSON op).calls, none,
      conclude ways.moment.stamp.engineLatencyMS (ways.dispatched .decodeJSON op)⟩ := by
  rw [TwoWays.direct, handleLeaderOp, ways.arrivesAtLeader]
  rfl

theorem forwarded_dispatched (ways : TwoWays) (op : LeaderOp) :
    ways.forwarded op = ⟨(ways.dispatched .unmarshal op).calls,
      replyTo ways.responder op ways.turn ways.message (ways.dispatched .unmarshal op)⟩ := by
  rw [TwoWays.forwarded, handle_healthy _ _ _ _ _ ways.gateOpen, ways.sameShapes,
    ways.sameEngine, ways.sameBody]
  rfl

theorem rejects_directly_iff (ways : TwoWays) (op : LeaderOp) :
    rejectsDirectly (ways.direct op) ↔ (ways.direct op).calls = [] := by
  rw [direct_dispatched]
  refine ⟨fun rejected => rejected.1, fun silent => ⟨silent, ?_⟩⟩
  obtain ⟨text, invalid⟩ := (invalid_iff_no_calls _).1 silent
  exact ⟨text, by rw [invalid]; rfl⟩

theorem rejects_forwarded_iff (ways : TwoWays) (op : LeaderOp) :
    rejectsForwarded (ways.forwarded op) ↔ (ways.forwarded op).calls = [] := by
  rw [forwarded_dispatched]
  refine ⟨fun rejected => rejected.1, fun silent => ⟨silent, ?_⟩⟩
  obtain ⟨text, invalid⟩ := (invalid_iff_no_calls _).1 silent
  exact ⟨_, text, by rw [invalid]; rfl, rfl⟩

theorem same_treatment_of_calls (ways : TwoWays) (op : LeaderOp) (left right : Option EngineCall)
    (direct : (ways.direct op).calls = left.toList)
    (forwarded : (ways.forwarded op).calls = right.toList) :
    SameTreatment ways op ↔ left = right := by
  rw [SameTreatment, rejects_directly_iff, rejects_forwarded_iff, direct, forwarded]
  cases left <;> cases right <;> simp [eq_comm]

/-- Of one document the two decoders take the same call unless it is a request with an
unknown member and nothing behind it, or without one and something behind it. -/
theorem document_calls_iff (shapes : WireShapes) (lawful : Lawful shapes) (op : LeaderOp)
    (value : Json) (length : Nat) (trailing : Option String) :
    callOn true shapes op value =
        (bodyValue .unmarshal (.document value length trailing)).bind (callOn false shapes op) ↔
      (WellFormed shapes op value → (KnownBody shapes op value ↔ trailing = none)) := by
  have strict := strict_call_iff shapes lawful op value
  rw [well_formed_iff]
  cases lenient : callOn false shapes op value with
  | none =>
      have refused : callOn true shapes op value = none := by
        apply Option.eq_none_iff_forall_ne_some.2
        intro made called
        cases ((strict made).1 called).1.symm.trans lenient
      refine iff_of_true ?_ (by simp)
      cases trailing <;> simp [bodyValue, refused, lenient]
  | some made =>
      by_cases known : KnownBody shapes op value
      · rw [(strict made).2 ⟨lenient, known⟩]
        cases trailing <;> simp [bodyValue, lenient, known]
      · have refused : callOn true shapes op value = none := by
          apply Option.eq_none_iff_forall_ne_some.2
          intro made called
          exact known ((strict made).1 called).2
        rw [refused]
        cases trailing <;> simp [bodyValue, lenient, known]

/-- The leader treats a body alike whichever way it arrives exactly when the body is no
request at all, or its unknown members and what follows it come together or not at all. -/
theorem same_treatment_iff (ways : TwoWays) (lawful : Lawful ways.server.shapes)
    (op : LeaderOp) :
    SameTreatment ways op ↔ BodyAgrees ways.server.shapes op ways.request.body.scan := by
  have fits := Nat.le_trans ways.scanned ways.capped
  cases reads : readsBody op with
  | false =>
      refine iff_of_true (Or.inr ?_) ?_
      · rw [direct_dispatched, forwarded_dispatched]
        cases op with
        | failover =>
            exact ⟨.failover, finish_mutation_calls _ _ _, finish_mutation_calls _ _ _⟩
        | triggerBackup => exact ⟨.triggerBackup, trigger_backup_calls _, trigger_backup_calls _⟩
        | _ => cases reads
      · cases ways.request.body.scan with
        | document value length trailing =>
            intro needed
            cases reads.symm.trans needed
        | _ => trivial
  | true =>
      have direct : (ways.direct op).calls =
          ((bodyValue .decodeJSON ways.request.body.scan).bind
            (callOn true ways.server.shapes op)).toList := by
        rw [direct_dispatched]
        exact dispatch_calls _ .decodeJSON _ _ op fits reads
      have forwarded : (ways.forwarded op).calls =
          ((bodyValue .unmarshal ways.request.body.scan).bind
            (callOn false ways.server.shapes op)).toList := by
        rw [forwarded_dispatched]
        exact dispatch_calls _ .unmarshal _ _ op fits reads
      rw [same_treatment_of_calls ways op _ _ direct forwarded]
      cases ways.request.body.scan with
      | document value length trailing =>
          refine (document_calls_iff _ lawful op value length trailing).trans ?_
          exact ⟨fun agrees _ => agrees, fun agrees => agrees reads⟩
      | _ => exact iff_of_true rfl trivial

/-! ## A misspelt field -/

/-- A body sent to the leader itself and through another peer. -/
def sampleWays (body : Input) (scanned : body.needed ≤ body.size)
    (capped : body.size ≤ maxRequestBodyBytes) : TwoWays where
  server := sampleServer "n1"
  moment := sampleMoment true obedientEngine (fun _ => .error .leaderRouteTimeout)
  request := { failoverRequest with path := "/v1/fence", body := body }
  env := ⟨.fence, "01J", "bearer:s3cret", false⟩
  responder := sampleResponder
  audit := reliableAudit
  turn := sampleTurn obedientEngine
  message := ⟨"pgman_proxy.prod.lcm.request.Fence", "01J", "bearer:s3cret", "", body⟩
  arrivesAtLeader := rfl
  sameShapes := rfl
  sameEngine := rfl
  sameBody := rfl
  gateOpen := by decide
  scanned := scanned
  capped := capped

theorem sample_shapes_lawful : Lawful sampleShapes :=
  ⟨fun _ _ decoded => decoded, fun _ _ decoded => decoded, fun _ _ decoded => decoded⟩

def plainFence : TwoWays :=
  sampleWays ⟨15, .document (.obj [("target", .str "n2")]) 15 none⟩ (by decide) (by decide)

theorem plain_fence_treated_alike :
    (plainFence.direct .fence).calls = [.fence "n2"] ∧ SameTreatment plainFence .fence := by
  refine ⟨rfl, (same_treatment_iff plainFence sample_shapes_lawful .fence).2 ?_⟩
  refine fun _ _ => iff_of_true ?_ rfl
  intro member present
  rw [List.mem_singleton.1 present]
  exact ⟨_, rfl, fun target => ⟨_, rfl⟩⟩

/-- `dry_run` is no field of the request. -/
def dryRunFence : TwoWays :=
  sampleWays ⟨30, .document (.obj [("target", .str "n2"), ("dry_run", .bool true)]) 30 none⟩
    (by decide) (by decide)

theorem dry_run_fence_refused_directly_and_run_when_forwarded :
    rejectsDirectly (dryRunFence.direct .fence) ∧
      (dryRunFence.forwarded .fence).calls = [.fence "n2"] ∧
      ¬SameTreatment dryRunFence .fence := by
  have direct : (dryRunFence.direct .fence).calls = [] := rfl
  have forwarded : (dryRunFence.forwarded .fence).calls = [.fence "n2"] := rfl
  refine ⟨(rejects_directly_iff _ _).2 direct, forwarded, ?_⟩
  rintro (⟨-, silent, -⟩ | ⟨call, called, -⟩)
  · cases silent.symm.trans forwarded
  · cases called.symm.trans direct

end PgmanProxy.Control.PathAgreement
