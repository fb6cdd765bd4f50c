import PgmanProxy.Library.GoJson

/-!
# The pg-manager surface the proxy uses

All cluster mechanics live in pg-manager's `Manager`; the proxy sees them
through the `Engine` interface. An engine is modelled by its answer to each
call. Topologies, policies and upgrade plans are pg-manager's own wire types:
the proxy passes them through, so only their decoders and the one field it
reads (`Topology.NodeID`) are kept.
-/

namespace PgmanProxy.PgManager

open PgmanProxy.Library.GoJson

set_option autoImplicit false

abbrev NodeID := String

/-- `type Role int`; ordinals outside the named constants can arrive on the wire. -/
structure Role where
  ordinal : Int
deriving DecidableEq, Repr

namespace Role
def unknown : Role := ⟨0⟩
def primary : Role := ⟨1⟩
def standby : Role := ⟨2⟩
end Role

/-- `type State int`. -/
structure State where
  ordinal : Int
deriving DecidableEq, Repr

namespace State
def unknown : State := ⟨0⟩
def running : State := ⟨3⟩
def failed : State := ⟨8⟩
def stopped : State := ⟨9⟩
end State

structure InstanceStatus where
  nodeID : NodeID
  role : Role
  state : State
  postgresUp : Bool
  lastSeenAt : Nat
deriving DecidableEq, Repr

/-- `pgmanager.Status`: the fields the proxy reads or fills in. -/
structure Status where
  clusterID : String
  localNodeID : NodeID
  localRole : Role
  localState : State
  leaderNodeID : NodeID
  primaryNodeID : NodeID
  instances : List InstanceStatus
  syncStandbys : List NodeID
deriving DecidableEq, Repr

structure Topology where
  nodeID : NodeID
  document : Json

structure Policy where
  document : Json

structure UpgradePlan where
  document : Json

structure PromotionAuthorizationRequest where
  target : NodeID
  actor : String
  reason : String
  requestID : String
  ttl : Int
  replace : Bool
deriving DecidableEq, Repr

structure PromotionAuthorization where
  target : NodeID
  actor : String
  reason : String
  requestID : String
deriving DecidableEq, Repr

/-- The sentinels the proxy tests with `errors.Is`. -/
inductive Sentinel where
  | backupNotConfigured
  | configInvalid
  | noJoinWindow
  | promotionAuthorizationPending
  | targetIsPublisher
  | targetNotEligible
  | publisherNotSilent
  | targetIdentityMismatch
  | targetBehind
deriving DecidableEq, Repr

structure EngineError where
  text : String
  wraps : List Sentinel
deriving DecidableEq, Repr

/-- `errors.Is` -/
def EngineError.is (failure : EngineError) (sentinel : Sentinel) : Bool :=
  decide (sentinel ∈ failure.wraps)

/-- One call through the `Engine` interface, with its arguments. -/
inductive EngineCall where
  | status
  | diagnose
  | switchover (target : NodeID)
  | failover
  | fence (target : NodeID)
  | unfence (target : NodeID)
  | authorizeJoinWindowPromotion (request : PromotionAuthorizationRequest)
  | cancelPromotionAuthorization
  | updateTopology (topology : Topology) (policy : Policy)
  | triggerBackup
  | prepareUpgrade (plan : UpgradePlan)
  | executeUpgrade (plan : UpgradePlan)
  | restartPostgres

/-- The value a call returns beside its error. -/
def EngineCall.Answer : EngineCall → Type
  | .status => Status
  | .diagnose => Json
  | .authorizeJoinWindowPromotion _ => PromotionAuthorization
  | .cancelPromotionAuthorization => Option PromotionAuthorization
  | .triggerBackup => String
  | .switchover _ | .failover | .fence _ | .unfence _ | .updateTopology _ _
  | .prepareUpgrade _ | .executeUpgrade _ | .restartPostgres => Unit

/-- How a Go call can end: with a value, with an error, or with a panic. -/
inductive Result (α : Type) where
  | returned (value : α)
  | failed (failure : EngineError)
  | panicked (value : String)

abbrev Engine := (call : EngineCall) → Result call.Answer

/-- What `encoding/json` derives for pg-manager's wire types. The flag of a decoder
is its strictness. -/
structure WireShapes where
  encodeStatus : Status → Json
  encodeAuthorization : PromotionAuthorization → Json
  topology : Bool → Json → Except Mismatch Topology
  zeroTopology : Topology
  policy : Bool → Json → Except Mismatch Policy
  zeroPolicy : Policy
  plan : Bool → Json → Except Mismatch UpgradePlan
  zeroPlan : UpgradePlan

end PgmanProxy.PgManager
