import PgmanProxy.Control.Wire

/-!
# Request bodies and the leader-only operations

The bodies of the mutating endpoints and what each leader-only operation does
with its body: decode, check, call the engine. The HTTP handlers and the NATS
responder run the same operations and differ only in how they decode, so the
decoding is a parameter.
-/

namespace PgmanProxy.Control.Requests

open PgmanProxy.Library.GoJson PgmanProxy.PgManager PgmanProxy.Control.Wire

set_option autoImplicit false

structure TargetReq where
  target : String
  requestID : String
deriving DecidableEq, Repr

/-- `switchoverReq` and `fenceReq` have the same fields. -/
def targetReqShape (name : String) : Shape TargetReq where
  name := name
  goType := "control." ++ name
  fields :=
    [stringField "target" "string" (fun value body => { body with target := value }),
     stringField "request_id" "string" (fun value body => { body with requestID := value })]
  zero := ⟨"", ""⟩

def switchoverReq : Shape TargetReq := targetReqShape "switchoverReq"
def fenceReq : Shape TargetReq := targetReqShape "fenceReq"

structure UpdateTopologyReq where
  topology : Topology
  policy : Policy
  requestID : String

def updateTopologyReq (shapes : WireShapes) (strict : Bool) : Shape UpdateTopologyReq where
  name := "updateTopologyReq"
  goType := "control.updateTopologyReq"
  fields :=
    [⟨"topology", fun value body =>
        (shapes.topology strict value).map (fun topology => { body with topology := topology })⟩,
     ⟨"policy", fun value body =>
        (shapes.policy strict value).map (fun policy => { body with policy := policy })⟩,
     stringField "request_id" "string" (fun value body => { body with requestID := value })]
  zero := ⟨shapes.zeroTopology, shapes.zeroPolicy, ""⟩

structure UpgradeReq where
  plan : UpgradePlan
  requestID : String

def upgradeReq (shapes : WireShapes) (strict : Bool) : Shape UpgradeReq where
  name := "upgradeReq"
  goType := "control.upgradeReq"
  fields :=
    [⟨"plan", fun value body =>
        (shapes.plan strict value).map (fun plan => { body with plan := plan })⟩,
     stringField "request_id" "string" (fun value body => { body with requestID := value })]
  zero := ⟨shapes.zeroPlan, ""⟩

structure PromotionAuthorizationReq where
  target : String
  reason : String
  ttlSeconds : Int
  acceptDataLoss : Bool
  replace : Bool
  requestID : String
deriving DecidableEq, Repr

def promotionAuthorizationReq : Shape PromotionAuthorizationReq where
  name := "promotionAuthorizationReq"
  goType := "control.promotionAuthorizationReq"
  fields :=
    [stringField "target" "string" (fun value body => { body with target := value }),
     stringField "reason" "string" (fun value body => { body with reason := value }),
     intField "ttl_seconds" (fun value body => { body with ttlSeconds := value }),
     boolField "accept_data_loss" (fun value body => { body with acceptDataLoss := value }),
     boolField "replace" (fun value body => { body with replace := value }),
     stringField "request_id" "string" (fun value body => { body with requestID := value })]
  zero := ⟨"", "", 0, false, false, ""⟩

structure RestartRequest where
  targetNode : String
  target : String
  requestID : String
deriving DecidableEq, Repr

def restartRequest : Shape RestartRequest where
  name := "RestartRequest"
  goType := "control.RestartRequest"
  fields :=
    [stringField "target_node" "string" (fun value body => { body with targetNode := value }),
     stringField "target" "control.RestartTarget" (fun value body => { body with target := value }),
     stringField "request_id" "string" (fun value body => { body with requestID := value })]
  zero := ⟨"", "", ""⟩

structure SetConfigRequest where
  key : String
  requestID : String
deriving DecidableEq, Repr

def setConfigRequest : Shape SetConfigRequest where
  name := "SetConfigRequest"
  goType := "control.SetConfigRequest"
  fields :=
    [stringField "key" "string" (fun value body => { body with key := value }),
     stringField "request_id" "string" (fun value body => { body with requestID := value })]
  zero := ⟨"", ""⟩

structure DocRunRequest where
  check : String
deriving DecidableEq, Repr

def docRunRequest : Shape DocRunRequest where
  name := "docRunRequest"
  goType := "control.docRunRequest"
  fields := [stringField "check" "string" (fun value body => { body with check := value })]
  zero := ⟨""⟩

structure DocFixRequest where
  fix : String
  args : List (String × Json)
  requestID : String

def docFixRequest : Shape DocFixRequest where
  name := "docFixRequest"
  goType := "control.docFixRequest"
  fields :=
    [stringField "fix" "string" (fun value body => { body with fix := value }),
     mapField "args" (fun value body => { body with args := value }),
     stringField "request_id" "string" (fun value body => { body with requestID := value })]
  zero := ⟨"", [], ""⟩

def maxRequestBodyBytes : Nat := 64 * 1024

/-- The HTTP handlers decode one strict value behind the size cap; the responder
unmarshals the whole message leniently. -/
inductive Decoding where
  | decodeJSON
  | unmarshal
deriving DecidableEq, Repr

def Decoding.strict : Decoding → Bool
  | .decodeJSON => true
  | .unmarshal => false

def Decoding.decode {Target : Type} (decoding : Decoding) (shape : Shape Target)
    (input : Input) : Except DecodeError Target :=
  match decoding with
  | .decodeJSON => decodeLimited maxRequestBodyBytes true shape input
  | .unmarshal => PgmanProxy.Library.GoJson.unmarshal shape input.scan

/-- What running an operation came to, before anything is audited or answered. -/
inductive Dispatch where
  | invalid (message : String)
  | completed (call : EngineCall) (target : String) (result : Option EngineResult)
  | failed (call : EngineCall) (target : String) (code : Code) (message : String)
  | panicked (call : EngineCall) (value : String)

def Dispatch.calls : Dispatch → List EngineCall
  | .invalid _ => []
  | .completed call _ _ => [call]
  | .failed call _ _ _ => [call]
  | .panicked call _ => [call]

/-- The operation went through: its body was taken and the engine returned no error. -/
def Dispatch.succeeded : Dispatch → Bool
  | .completed _ _ _ => true
  | .invalid _ | .failed _ _ _ _ | .panicked _ _ => false

def finishMutation (engine : Engine) (call : EngineCall) (target : String) : Dispatch :=
  match engine call with
  | .returned _ => .completed call target none
  | .failed failure => .failed call target .engineError failure.text
  | .panicked value => .panicked call value

/-- Switchover, Fence and Unfence. -/
def targetedMutation (engine : Engine) (call : NodeID → EngineCall)
    (decoded : Except DecodeError TargetReq) : Dispatch :=
  match decoded with
  | .error failure => .invalid ("decode body: " ++ failure.text)
  | .ok body =>
      if body.target = "" then .invalid "target is required"
      else finishMutation engine (call body.target) body.target

def updateTopology (engine : Engine) (decoded : Except DecodeError UpdateTopologyReq) :
    Dispatch :=
  match decoded with
  | .error failure => .invalid ("decode body: " ++ failure.text)
  | .ok body =>
      finishMutation engine (.updateTopology body.topology body.policy) body.topology.nodeID

/-- PrepareUpgrade and ExecuteUpgrade; the pre-swap hook of the latter is a no-op. -/
def upgradeMutation (engine : Engine) (call : UpgradePlan → EngineCall)
    (decoded : Except DecodeError UpgradeReq) : Dispatch :=
  match decoded with
  | .error failure => .invalid ("decode body: " ++ failure.text)
  | .ok body => finishMutation engine (call body.plan) ""

def triggerBackupResp (backupID : String) : EngineResult :=
  .value (.obj [("backup_id", .str backupID)])

def triggerBackup (engine : Engine) : Dispatch :=
  match engine .triggerBackup with
  | .returned backupID => .completed .triggerBackup "" (some (triggerBackupResp backupID))
  | .failed failure =>
      if failure.is .backupNotConfigured then
        .failed .triggerBackup "" .backupExecutorMissing
          "no BackupExecutor wired; configure backup.driver per FR-030"
      else .failed .triggerBackup "" .engineError failure.text
  | .panicked value => .panicked .triggerBackup value

/-- `dispatchEngine`, and the part of each HTTP handler after its forwarding test. -/
def dispatchEngine (shapes : WireShapes) (decoding : Decoding) (engine : Engine)
    (input : Input) : LeaderOp → Dispatch
  | .failover => finishMutation engine .failover ""
  | .switchover => targetedMutation engine .switchover (decoding.decode switchoverReq input)
  | .fence => targetedMutation engine .fence (decoding.decode fenceReq input)
  | .unfence => targetedMutation engine .unfence (decoding.decode fenceReq input)
  | .updateTopology =>
      updateTopology engine (decoding.decode (updateTopologyReq shapes decoding.strict) input)
  | .triggerBackup => triggerBackup engine
  | .prepareUpgrade =>
      upgradeMutation engine .prepareUpgrade
        (decoding.decode (upgradeReq shapes decoding.strict) input)
  | .executeUpgrade =>
      upgradeMutation engine .executeUpgrade
        (decoding.decode (upgradeReq shapes decoding.strict) input)

/-- What every operation's result satisfies: an engine failure is never reported as
an invalid argument, and a result that is returned can be encoded. -/
def Dispatch.Regular : Dispatch → Prop
  | .invalid _ => True
  | .completed _ _ none => True
  | .completed _ _ (some result) => ∃ json, result.marshal = some json
  | .failed _ _ code _ => code ≠ .invalidArgument
  | .panicked _ _ => True

theorem finish_mutation_regular (engine : Engine) (call : EngineCall) (target : String) :
    (finishMutation engine call target).Regular := by
  unfold finishMutation
  split
  · trivial
  · simp [Dispatch.Regular]
  · trivial

theorem targeted_mutation_regular (engine : Engine) (call : NodeID → EngineCall)
    (decoded : Except DecodeError TargetReq) :
    (targetedMutation engine call decoded).Regular := by
  unfold targetedMutation
  split
  · trivial
  · split
    · trivial
    · exact finish_mutation_regular engine _ _

theorem update_topology_regular (engine : Engine)
    (decoded : Except DecodeError UpdateTopologyReq) :
    (updateTopology engine decoded).Regular := by
  unfold updateTopology
  split
  · trivial
  · exact finish_mutation_regular engine _ _

theorem upgrade_mutation_regular (engine : Engine) (call : UpgradePlan → EngineCall)
    (decoded : Except DecodeError UpgradeReq) :
    (upgradeMutation engine call decoded).Regular := by
  unfold upgradeMutation
  split
  · trivial
  · exact finish_mutation_regular engine _ _

theorem trigger_backup_regular (engine : Engine) : (triggerBackup engine).Regular := by
  unfold triggerBackup
  split
  · exact ⟨_, rfl⟩
  · split <;> simp [Dispatch.Regular]
  · trivial

theorem dispatch_engine_regular (shapes : WireShapes) (decoding : Decoding) (engine : Engine)
    (input : Input) (op : LeaderOp) :
    (dispatchEngine shapes decoding engine input op).Regular := by
  cases op with
  | failover => exact finish_mutation_regular engine _ _
  | switchover => exact targeted_mutation_regular engine _ _
  | fence => exact targeted_mutation_regular engine _ _
  | unfence => exact targeted_mutation_regular engine _ _
  | updateTopology => exact update_topology_regular engine _
  | triggerBackup => exact trigger_backup_regular engine
  | prepareUpgrade => exact upgrade_mutation_regular engine _ _
  | executeUpgrade => exact upgrade_mutation_regular engine _ _

end PgmanProxy.Control.Requests
