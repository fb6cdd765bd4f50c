import PgmanProxy.PgManager

/-!
# The status on the wire and its reader in `watch status`

The server marshals pg-manager's `Status` as it is: Go's default member names, and
ordinals for the role and the state. `pgmctl status` has adapters for that shape;
`StatusFrame`, which `pgmctl watch status` decodes into, names its members in snake
case and expects names for the role and the state.
-/

namespace PgmanProxy.Pgmctl.StatusFrames

open PgmanProxy.Library.GoJson PgmanProxy.PgManager

set_option autoImplicit false

/-! ## What the server writes -/

structure WireInstance extends InstanceStatus where
  replayLSN : Nat
  writeLSN : Nat
  flushLSN : Nat
  lagBytes : Int
deriving Repr

/-- `none` stands for a nil slice or pointer. -/
structure WireStatus where
  clusterID : String
  leaderNodeID : NodeID
  primaryNodeID : NodeID
  localNodeID : NodeID
  localRole : Role
  localState : State
  instances : Option (List WireInstance)
  syncStandbys : Option (List NodeID)
  lastFailoverAt : Nat
  lastFailoverReason : String
  joinWindow : Option Json
  promotionAuthorization : Option Json

def encodeOption {Value : Type} (encode : Value → Json) : Option Value → Json
  | none => .null
  | some value => encode value

def number (value : Int) : Json := .num (toString value)

section Encoding

-- time.Time's RFC 3339 text
variable (formatTime : Nat → String)

def encodeInstance (inst : WireInstance) : Json :=
  .obj [("NodeID", .str inst.nodeID), ("Role", number inst.role.ordinal),
    ("State", number inst.state.ordinal), ("PostgresUp", .bool inst.postgresUp),
    ("ReplayLSN", number inst.replayLSN), ("WriteLSN", number inst.writeLSN),
    ("FlushLSN", number inst.flushLSN), ("LagBytes", number inst.lagBytes),
    ("LastSeenAt", .str (formatTime inst.lastSeenAt))]

def statusMembers (status : WireStatus) : List (String × Json) :=
  [("ClusterID", .str status.clusterID), ("LeaderNodeID", .str status.leaderNodeID),
    ("PrimaryNodeID", .str status.primaryNodeID), ("LocalNodeID", .str status.localNodeID),
    ("LocalRole", number status.localRole.ordinal),
    ("LocalState", number status.localState.ordinal),
    ("Instances", encodeOption (fun instances => .arr (instances.map (encodeInstance formatTime)))
      status.instances),
    ("SyncStandbys", encodeOption (fun names => .arr (names.map Json.str)) status.syncStandbys),
    ("LastFailoverAt", .str (formatTime status.lastFailoverAt)),
    ("LastFailoverReason", .str status.lastFailoverReason),
    ("JoinWindow", encodeOption id status.joinWindow),
    ("PromotionAuthorization", encodeOption id status.promotionAuthorization)]

end Encoding

/-! ## Names of the ordinals -/

def pgmRoleNames : List (Int × String) :=
  [(0, "unknown"), (1, "primary"), (2, "standby"), (3, "standby_designated")]

def pgmStateNames : List (Int × String) :=
  [(0, "unknown"), (1, "init"), (2, "bootstrapping"), (3, "running"), (4, "promoting"),
    (5, "demoting"), (6, "rewinding"), (7, "fenced"), (8, "failed"), (9, "stopped")]

def enumName (names : List (Int × String)) (ordinal : Int) : String :=
  match names.lookup ordinal with
  | some name => name
  | none => "invalid(" ++ toString ordinal ++ ")"

def roleName (role : Role) : String := enumName pgmRoleNames role.ordinal

def stateName (state : State) : String := enumName pgmStateNames state.ordinal

/-! ## What `watch status` reads -/

structure StatusInstance where
  nodeID : String
  role : String
  state : String
deriving DecidableEq, Repr

structure StatusEmbeddedNATS where
  up : Bool
  routesMeshed : Int
deriving DecidableEq, Repr

structure StatusFrame where
  localRole : String
  localState : String
  leaderNodeID : String
  primaryNodeID : String
  instances : List StatusInstance
  embeddedNATS : Option StatusEmbeddedNATS
deriving DecidableEq, Repr

def statusInstanceShape : Shape StatusInstance where
  name := "StatusInstance"
  goType := "watch.StatusInstance"
  fields := [
    stringField "node_id" "string" (fun text target => { target with nodeID := text }),
    stringField "role" "string" (fun text target => { target with role := text }),
    stringField "state" "string" (fun text target => { target with state := text })]
  zero := ⟨"", "", ""⟩

def statusEmbeddedNATSShape : Shape StatusEmbeddedNATS where
  name := "StatusEmbeddedNATS"
  goType := "watch.StatusEmbeddedNATS"
  fields := [
    boolField "up" (fun flag target => { target with up := flag }),
    intField "routes_meshed" (fun value target => { target with routesMeshed := value })]
  zero := ⟨false, 0⟩

def instancesField : Library.GoJson.Field StatusFrame :=
  sliceField "instances" "[]watch.StatusInstance" statusInstanceShape
    (fun instances target => { target with instances := instances })

def statusFrameShape : Shape StatusFrame where
  name := "StatusFrame"
  goType := "watch.StatusFrame"
  fields := [
    stringField "local_role" "string" (fun text target => { target with localRole := text }),
    stringField "local_state" "string" (fun text target => { target with localState := text }),
    stringField "leader_node_id" "string" (fun text target => { target with leaderNodeID := text }),
    stringField "primary_node_id" "string"
      (fun text target => { target with primaryNodeID := text }),
    instancesField,
    pointerField "embedded_nats" statusEmbeddedNATSShape
      (fun embedded target => { target with embeddedNATS := embedded })]
  zero := ⟨"", "", "", "", [], none⟩

/-- The leader, the primary and every instance with the names of its role and state. -/
structure Recovers (status : WireStatus) (frame : StatusFrame) : Prop where
  leader : frame.leaderNodeID = status.leaderNodeID
  primary : frame.primaryNodeID = status.primaryNodeID
  instances : frame.instances = (status.instances.getD []).map
    (fun inst => ⟨inst.nodeID, roleName inst.role, stateName inst.state⟩)

/-! ## Which members the reader knows -/

/-- Of the status's members only the instances have a field, up to the case. -/
theorem instances_known : findField statusFrameShape.fields "Instances" = some instancesField :=
  rfl

theorem others_unknown :
    ∀ key ∈ ["ClusterID", "LeaderNodeID", "PrimaryNodeID", "LocalNodeID", "LocalRole",
      "LocalState", "SyncStandbys", "LastFailoverAt", "LastFailoverReason", "JoinWindow",
      "PromotionAuthorization"], findField statusFrameShape.fields key = none := by
  simp only [List.forall_mem_cons]
  exact ⟨rfl, rfl, rfl, rfl, rfl, rfl, rfl, rfl, rfl, rfl, rfl, by simp⟩

section Decoding

variable (formatTime : Nat → String)

/-- The ordinal of the role does not fit the field for its name. -/
theorem decode_instance (inst : WireInstance) :
    decodeNested statusInstanceShape (encodeInstance formatTime inst) =
      .error ⟨"number", "string", some ("StatusInstance", "role")⟩ := by
  have unknown : findField statusInstanceShape.fields "NodeID" = none := rfl
  have refused : ∀ rest, (decodeMembers false statusInstanceShape
      (("NodeID", .str inst.nodeID) :: ("Role", number inst.role.ordinal) :: rest)
      statusInstanceShape.zero none).2 =
        some (.wrongField "number" "StatusInstance" "role" "string") := by
    intro rest
    rw [decodeMembers, unknown]
    exact decode_members_refused false statusInstanceShape "Role" _ rest _ _
      ⟨"number", "string", none⟩ rfl rfl
  rw [decodeNested, encodeInstance, decode_value_failed _ _ _ _ (refused _)]
  rfl

/-- The instances decode only when there are none. -/
theorem store_instances (instances : Option (List WireInstance)) (target : StatusFrame) :
    instancesField.store (encodeOption
        (fun instances => .arr (instances.map (encodeInstance formatTime))) instances) target =
      if instances.getD [] = [] then .ok { target with instances := [] }
      else .error ⟨"number", "string", some ("StatusInstance", "role")⟩ := by
  cases instances with
  | none => rfl
  | some instances =>
      cases instances with
      | nil => rfl
      | cons inst instances =>
          have failed : decodeItems statusInstanceShape
              ((inst :: instances).map (encodeInstance formatTime)) =
                .error ⟨"number", "string", some ("StatusInstance", "role")⟩ := by
            rw [decodeItems, List.map_cons, List.mapM_cons, decode_instance]
            rfl
          simp only [instancesField, sliceField, encodeOption, failed]
          rfl

theorem unmarshal_status (status : WireStatus) (size : Nat) :
    unmarshal statusFrameShape (.document (.obj (statusMembers formatTime status)) size none) =
      if status.instances.getD [] = [] then .ok statusFrameShape.zero
      else .error (.wrongField "number" "StatusInstance" "instances.role" "string") := by
  have front := decode_members_unknown statusFrameShape
    ((statusMembers formatTime status).take 6) statusFrameShape.zero none
    (by simp [statusMembers, others_unknown])
  have back : ∀ target saved, decodeMembers false statusFrameShape
      ((statusMembers formatTime status).drop 7) target saved = (target, saved) := by
    intro target saved
    exact decode_members_unknown statusFrameShape _ target saved
      (by simp [statusMembers, others_unknown])
  have parts : statusMembers formatTime status = (statusMembers formatTime status).take 6 ++
      ("Instances", encodeOption (fun instances => .arr (instances.map (encodeInstance formatTime)))
        status.instances) :: (statusMembers formatTime status).drop 7 := rfl
  have stored := store_instances formatTime status.instances statusFrameShape.zero
  simp only [unmarshal]
  by_cases empty : status.instances.getD [] = []
  · rw [if_pos empty] at stored ⊢
    rw [decodeValue, parts, decode_members_append, front, decodeMembers, instances_known]
    simp only [stored, back]
    rfl
  · rw [if_neg empty] at stored ⊢
    apply decode_value_failed
    rw [parts, decode_members_append, front]
    exact decode_members_refused false statusFrameShape "Instances" _ _ _ _ _ instances_known stored

end Decoding

/-- A status can be read back from its frame only if it names no leader, no primary and no
instance. -/
theorem status_frame_recovers_iff (formatTime : Nat → String) (status : WireStatus) (size : Nat) :
    (∃ frame, unmarshal statusFrameShape
        (.document (.obj (statusMembers formatTime status)) size none) = .ok frame ∧
        Recovers status frame) ↔
      status.leaderNodeID = "" ∧ status.primaryNodeID = "" ∧ status.instances.getD [] = [] := by
  rw [unmarshal_status]
  constructor
  · rintro ⟨frame, decoded, recovers⟩
    split at decoded
    · rename_i empty
      cases decoded
      exact ⟨recovers.leader.symm, recovers.primary.symm, empty⟩
    · cases decoded
  · rintro ⟨leader, primary, empty⟩
    rw [if_pos empty]
    exact ⟨statusFrameShape.zero, rfl, leader.symm, primary.symm, by rw [empty]; rfl⟩

/-- One node, which leads, is the primary and runs. -/
def runningStatus : WireStatus where
  clusterID := "prod"
  leaderNodeID := "node-a"
  primaryNodeID := "node-a"
  localNodeID := "node-a"
  localRole := Role.primary
  localState := State.running
  instances := some [⟨⟨"node-a", Role.primary, State.running, true, 0⟩, 0, 0, 0, 0⟩]
  syncStandbys := none
  lastFailoverAt := 0
  lastFailoverReason := ""
  joinWindow := none
  promotionAuthorization := none

theorem running_status_unreadable :
    unmarshal statusFrameShape
        (.document (.obj (statusMembers (fun _ => "2026-05-01T00:00:00Z") runningStatus)) 413
          none) = .error (.wrongField "number" "StatusInstance" "instances.role" "string") ∧
      ¬ ∃ frame, unmarshal statusFrameShape
          (.document (.obj (statusMembers (fun _ => "2026-05-01T00:00:00Z") runningStatus)) 413
            none) = .ok frame ∧
        Recovers runningStatus frame := by
  have refused : unmarshal statusFrameShape
      (.document (.obj (statusMembers (fun _ => "2026-05-01T00:00:00Z") runningStatus)) 413 none) =
      .error (.wrongField "number" "StatusInstance" "instances.role" "string") := rfl
  refine ⟨refused, ?_⟩
  rintro ⟨frame, decoded, _⟩
  rw [refused] at decoded
  cases decoded

end PgmanProxy.Pgmctl.StatusFrames
