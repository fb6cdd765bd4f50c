import PgmanProxy.Control.JoinWindowCheck
import PgmanProxy.Library.GoScan
import PgmanProxy.Pgmctl.HealthRollup

/-!
# Three verdicts on one quorum

The doctor's `cluster.quorum` check counts the instances of the engine's status, on the
server; `pgmctl status` and `pgmctl health` count what they decode from the answer of
`/v1/status`, where the states have become names. The status is followed through its
encoding and decoding, in both shapes of the engine result, to see that the counts are
the same.
-/

namespace PgmanProxy.Pgmctl.QuorumVerdicts

open PgmanProxy.Library.GoJson PgmanProxy.PgManager
open PgmanProxy.Library.GoScan (FitsInt64)
open PgmanProxy.Library.GoStrings (toLower lowerRune)
open PgmanProxy.Pgmctl.HealthRollup (quorumHealth quorum_status)
open PgmanProxy.Pgmctl.ReadCommands
open PgmanProxy.Pgmctl.StatusFrames
open PgmanProxy.Pgmctl.StatusVerdict

set_option autoImplicit false

/-! ## On the server -/

structure QuorumEvidence where
  reachableCount : Nat
  totalCount : Nat
  requiredQuorum : Nat
deriving DecidableEq, Repr

def reachable (inst : WireInstance) : Bool := inst.state ≠ State.unknown

/-- The check, given what the engine's `Status` returned. -/
def checkClusterQuorum (status : Except String WireStatus) :
    Control.JoinWindowCheck.Severity × String × Option QuorumEvidence :=
  match status with
  | .error why => (.unknown, "Status: " ++ why, none)
  | .ok status =>
      let instances := status.instances.getD []
      let total := instances.length
      let count := instances.countP reachable
      let quorum := total / 2 + 1
      let evidence := some ⟨count, total, quorum⟩
      let share := toString count ++ "/" ++ toString total ++ " reachable ("
      if total = 0 then
        (.unknown, "no peer information in Status (aggregator unwired?)", evidence)
      else if count ≥ quorum then (.pass, share ++ "quorum=" ++ toString quorum ++ ")", evidence)
      else
        (.fail, "only " ++ share ++ "need " ++ toString quorum ++ " for quorum)", evidence)

/-- The snapshot of the embedded server, as the status handler sends it along. -/
structure StatusSnapshot where
  serverName : String
  ready : Bool
  clientListenAddr : String
  routesListenAddr : String
  tlsEnabled : Bool
  routesMeshed : Int
  replicasFactor : Int
  replicasOverridden : Bool
  jetStreamStorageBytes : Int
  storageDegraded : Option String
  lastRouteUpAt : Option Nat
  lastRouteDownAt : Option Nat
  lastReloadAt : Option Nat
deriving DecidableEq, Repr

section Encoding

variable (formatTime : Nat → String)

def encodeTime (time : Option Nat) : Json := encodeOption (fun time => .str (formatTime time)) time

/-- The members behind the routes' address. -/
def snapshotTail (snapshot : StatusSnapshot) : List (String × Json) :=
  [("tls_enabled", .bool snapshot.tlsEnabled), ("routes_meshed", number snapshot.routesMeshed),
    ("replicas_factor", number snapshot.replicasFactor),
    ("replicas_overridden", .bool snapshot.replicasOverridden),
    ("jetstream_storage_bytes", number snapshot.jetStreamStorageBytes),
    ("storage_degraded", encodeOption Json.str snapshot.storageDegraded),
    ("last_route_up_at", encodeTime formatTime snapshot.lastRouteUpAt),
    ("last_route_down_at", encodeTime formatTime snapshot.lastRouteDownAt),
    ("last_reload_at", encodeTime formatTime snapshot.lastReloadAt)]

/-- The routes' address is left out when it is empty. -/
def encodeSnapshot (snapshot : StatusSnapshot) : List (String × Json) :=
  ("server_name", .str snapshot.serverName) :: ("ready", .bool snapshot.ready) ::
    ("client_listen_addr", .str snapshot.clientListenAddr) ::
    if snapshot.routesListenAddr = "" then snapshotTail formatTime snapshot
    else
      ("routes_listen_addr", .str snapshot.routesListenAddr) :: snapshotTail formatTime snapshot

/-- The engine result of `handleStatus`: the bare status, or the status next to a snapshot. -/
def engineResult (embedded : Option StatusSnapshot) (status : WireStatus) : Json :=
  match embedded with
  | none => .obj (statusMembers formatTime status)
  | some snapshot =>
      .obj [("engine", .obj (statusMembers formatTime status)),
        ("embedded_nats", .obj (encodeSnapshot formatTime snapshot))]

end Encoding

/-! ## What pgmctl makes of it -/

def seenInstance (inst : WireInstance) : PgmanagerInstance where
  nodeID := inst.nodeID
  role := roleName inst.role
  state := stateName inst.state
  postgresUp := inst.postgresUp
  replayLSN := inst.replayLSN
  writeLSN := inst.writeLSN
  flushLSN := inst.flushLSN
  lagBytes := inst.lagBytes
  lastSeenAt := inst.lastSeenAt

def seenStatus (status : WireStatus) : PgmanagerStatus where
  clusterID := status.clusterID
  leaderNodeID := status.leaderNodeID
  primaryNodeID := status.primaryNodeID
  localNodeID := status.localNodeID
  localRole := roleName status.localRole
  localState := stateName status.localState
  instances := (status.instances.getD []).map seenInstance
  syncStandbys := status.syncStandbys.getD []
  lastFailoverAt := status.lastFailoverAt
  lastFailoverReason := status.lastFailoverReason

def seenSnapshot (snapshot : StatusSnapshot) : EmbeddedNATSSnapshot where
  serverName := snapshot.serverName
  ready := snapshot.ready
  clientListenAddr := snapshot.clientListenAddr
  routesListenAddr := snapshot.routesListenAddr
  tlsEnabled := snapshot.tlsEnabled
  routesMeshed := snapshot.routesMeshed
  replicasFactor := snapshot.replicasFactor

def FitsUint64 (value : Nat) : Prop := value < 2 * int64Bound

/-- The numbers of an instance are those of its Go types. -/
structure InstanceFits (inst : WireInstance) : Prop where
  role : FitsInt64 inst.role.ordinal
  state : FitsInt64 inst.state.ordinal
  replayLSN : FitsUint64 inst.replayLSN
  writeLSN : FitsUint64 inst.writeLSN
  flushLSN : FitsUint64 inst.flushLSN
  lagBytes : FitsInt64 inst.lagBytes

/-- A status in Go's types, with blocks of pg-manager's that its decoders take. -/
structure StatusFits (readers : Readers) (status : WireStatus) : Prop where
  localRole : FitsInt64 status.localRole.ordinal
  localState : FitsInt64 status.localState.ordinal
  instances : ∀ inst ∈ status.instances.getD [], InstanceFits inst
  joinWindow : ∀ window ∈ status.joinWindow, readers.joinWindow window = .ok ()
  promotionAuthorization : ∀ authorization ∈ status.promotionAuthorization,
    readers.promotionAuthorization authorization = .ok ()

structure SnapshotFits (snapshot : StatusSnapshot) : Prop where
  routesMeshed : FitsInt64 snapshot.routesMeshed
  replicasFactor : FitsInt64 snapshot.replicasFactor

section Decoding

variable (readers : Readers) (formatTime : Nat → String)
-- RFC 3339 texts are read back as the time they were written for
variable (clock : ∀ time, readers.parseTime (formatTime time) = some time)

theorem store_enum {Target : Type} (name : String) (names : List (Int × String))
    (set : String → Target → Target) (ordinal : Int) (fits : FitsInt64 ordinal) (target : Target) :
    (customField name (decodeEnumWire names) set).store (number ordinal) target =
      .ok (set (enumName names ordinal) target) := by
  simp only [customField, decodeEnumWire, number, parse_int64_int ordinal fits.1 fits.2]
  rfl

theorem store_uint64 {Target : Type} (name : String) (set : Nat → Target → Target) (value : Nat)
    (fits : FitsUint64 value) (target : Target) :
    (numberField name "uint64" parseUint64 set).store (number value) target =
      .ok (set value target) := by
  simp only [numberField, number, parse_uint64_nat value fits]

theorem store_int64 {Target : Type} (name : String) (set : Int → Target → Target) (value : Int)
    (fits : FitsInt64 value) (target : Target) :
    (numberField name "int64" parseInt64 set).store (number value) target =
      .ok (set value target) := by
  simp only [numberField, number, parse_int64_int value fits.1 fits.2]

theorem store_int {Target : Type} (name : String) (set : Int → Target → Target) (value : Int)
    (fits : FitsInt64 value) (target : Target) :
    (intField name set).store (number value) target = .ok (set value target) := by
  simp only [intField, number, parse_int64_int value fits.1 fits.2]

include clock in
theorem store_time {Target : Type} (name : String) (set : Nat → Target → Target) (time : Nat)
    (target : Target) :
    (timeField readers name set).store (.str (formatTime time)) target = .ok (set time target) := by
  simp only [timeField, clock]

theorem store_checked {Target : Type} (name : String) (check : Json → Except Mismatch Unit)
    (block : Option Json) (taken : ∀ value ∈ block, check value = .ok ()) (target : Target) :
    (checkedField name check).store (encodeOption id block) target = .ok target := by
  cases block with
  | none => rfl
  | some value =>
      have checked := taken value rfl
      simp only [checkedField, encodeOption, id]
      split
      · rfl
      · rw [checked]
        rfl

theorem store_strings {Target : Type} (name : String) (set : List String → Target → Target)
    (names : Option (List String)) (target : Target) :
    (stringsField name set).store (encodeOption (fun names => .arr (names.map Json.str)) names)
        target = .ok (set (names.getD []) target) := by
  cases names with
  | none => rfl
  | some names =>
      have items : (names.map Json.str).mapM stringItem = .ok names := by
        induction names with
        | nil => rfl
        | cons name names ih =>
            rw [List.map_cons, List.mapM_cons, ih]
            rfl
      simp only [stringsField, encodeOption, items]
      rfl

include clock in
theorem decode_instance_members (inst : WireInstance) (fits : InstanceFits inst) :
    decodeNested (instanceShape readers) (encodeInstance formatTime inst) =
      .ok (seenInstance inst) := by
  have decoded : decodeValue false (instanceShape readers) (encodeInstance formatTime inst) =
      .ok (seenInstance inst) := by
    apply decodes_value
    apply Decodes.stored rfl rfl
    apply Decodes.stored rfl (store_enum _ _ _ _ fits.role _)
    apply Decodes.stored rfl (store_enum _ _ _ _ fits.state _)
    apply Decodes.stored rfl rfl
    apply Decodes.stored rfl (store_uint64 _ _ _ fits.replayLSN _)
    apply Decodes.stored rfl (store_uint64 _ _ _ fits.writeLSN _)
    apply Decodes.stored rfl (store_uint64 _ _ _ fits.flushLSN _)
    apply Decodes.stored rfl (store_int64 _ _ _ fits.lagBytes _)
    apply Decodes.stored rfl (store_time readers formatTime clock _ _ _ _)
    exact Decodes.nil _
  rw [decodeNested, decoded]

include clock in
theorem store_instances_seen (instances : Option (List WireInstance))
    (fits : ∀ inst ∈ instances.getD [], InstanceFits inst)
    (set : List PgmanagerInstance → PgmanagerStatus → PgmanagerStatus) (target : PgmanagerStatus) :
    (sliceField "Instances" "[]cmd.instanceStatus" (instanceShape readers) set).store
        (encodeOption (fun instances => .arr (instances.map (encodeInstance formatTime))) instances)
        target =
      .ok (set ((instances.getD []).map seenInstance) target) := by
  cases instances with
  | none => rfl
  | some instances =>
      have items := decode_items_map (instanceShape readers) (encodeInstance formatTime)
        seenInstance instances (fun inst member =>
          decode_instance_members readers formatTime clock inst (fits inst member))
      simp only [sliceField, encodeOption, items]
      rfl

include clock in
/-- The members of a status decode to what is seen of it. -/
theorem status_decodes (status : WireStatus) (fits : StatusFits readers status) :
    Decodes (statusShape readers) (statusMembers formatTime status) (statusShape readers).zero
      (seenStatus status) := by
  apply Decodes.stored rfl rfl
  apply Decodes.stored rfl rfl
  apply Decodes.stored rfl rfl
  apply Decodes.stored rfl rfl
  apply Decodes.stored rfl (store_enum _ _ _ _ fits.localRole _)
  apply Decodes.stored rfl (store_enum _ _ _ _ fits.localState _)
  apply Decodes.stored rfl (store_instances_seen readers formatTime clock _ fits.instances _ _)
  apply Decodes.stored rfl (store_strings _ _ _ _)
  apply Decodes.stored rfl (store_time readers formatTime clock _ _ _ _)
  apply Decodes.stored rfl rfl
  apply Decodes.stored rfl (store_checked _ _ _ fits.joinWindow _)
  apply Decodes.stored rfl (store_checked _ _ _ fits.promotionAuthorization _)
  exact Decodes.nil _

/-- What the snapshot says beyond pgmctl's fields is passed over. -/
theorem snapshot_tail_decodes (snapshot : StatusSnapshot) (fits : SnapshotFits snapshot)
    (target : EmbeddedNATSSnapshot) :
    Decodes snapshotShape (snapshotTail formatTime snapshot) target
      { target with
        tlsEnabled := snapshot.tlsEnabled
        routesMeshed := snapshot.routesMeshed
        replicasFactor := snapshot.replicasFactor } := by
  apply Decodes.stored rfl rfl
  apply Decodes.stored rfl (store_int _ _ _ fits.routesMeshed _)
  apply Decodes.stored rfl (store_int _ _ _ fits.replicasFactor _)
  apply Decodes.unknown rfl
  apply Decodes.unknown rfl
  apply Decodes.unknown rfl
  apply Decodes.unknown rfl
  apply Decodes.unknown rfl
  apply Decodes.unknown rfl
  exact Decodes.nil _

theorem snapshot_decodes (snapshot : StatusSnapshot) (fits : SnapshotFits snapshot) :
    Decodes snapshotShape (encodeSnapshot formatTime snapshot) snapshotShape.zero
      (seenSnapshot snapshot) := by
  apply Decodes.stored rfl rfl
  apply Decodes.stored rfl rfl
  apply Decodes.stored rfl rfl
  by_cases silent : snapshot.routesListenAddr = ""
  · rw [if_pos silent]
    have seen : seenSnapshot snapshot =
        { seenSnapshot snapshot with routesListenAddr := "" } := by
      rw [← silent]
      rfl
    rw [seen]
    exact snapshot_tail_decodes formatTime snapshot fits _
  · rw [if_neg silent]
    apply Decodes.stored rfl rfl
    exact snapshot_tail_decodes formatTime snapshot fits _

/-- No member of the bare status is taken for the envelope's. -/
theorem probe_bare (status : WireStatus) :
    Decodes probeShape (statusMembers formatTime status) none none := by
  repeat apply Decodes.unknown rfl
  exact Decodes.nil _

include clock in
/-- pgmctl decodes what the server sends, in both shapes. -/
theorem decode_engine_result (embedded : Option StatusSnapshot) (status : WireStatus)
    (fits : StatusFits readers status)
    (embeddedFits : ∀ snapshot ∈ embedded, SnapshotFits snapshot) :
    decodeStatusEngine readers (some (engineResult formatTime embedded status)) =
      .ok (seenStatus status, embedded.map seenSnapshot) := by
  have engine := status_decodes readers formatTime clock status fits
  cases embedded with
  | none =>
      have probe := decodes_value probeShape _ _ (probe_bare formatTime status)
      have bare := decodes_value (statusShape readers) _ _ engine
      simp only [decodeStatusEngine, engineResult, probe, bare]
      rfl
  | some snapshot =>
      have nats := snapshot_decodes formatTime snapshot (embeddedFits snapshot rfl)
      have probe : Decodes probeShape
          [("engine", .obj (statusMembers formatTime status)),
            ("embedded_nats", .obj (encodeSnapshot formatTime snapshot))] none
          (some (.obj (statusMembers formatTime status))) := by
        apply Decodes.stored rfl rfl
        apply Decodes.unknown rfl
        exact Decodes.nil _
      have nested : Decodes (nestedShape readers)
          [("engine", .obj (statusMembers formatTime status)),
            ("embedded_nats", .obj (encodeSnapshot formatTime snapshot))]
          (nestedShape readers).zero (seenStatus status, seenSnapshot snapshot) := by
        apply Decodes.stored rfl (struct_stored "engine" (statusShape readers) Prod.fst
          (fun engine target => (engine, target.2)) _ (nestedShape readers).zero _ engine)
        apply Decodes.stored rfl (struct_stored "embedded_nats" snapshotShape Prod.snd
          (fun snapshot target => (target.1, snapshot)) _ _ _ nats)
        exact Decodes.nil _
      have probed := decodes_value probeShape _ _ probe
      have decoded := decodes_value (nestedShape readers) _ _ nested
      simp only [decodeStatusEngine, engineResult, probed, decoded]
      rfl

end Decoding

/-! ## One count -/

/-- The names of the ordinals without one are never those of a silent peer. -/
theorem invalid_name_responds (ordinal : Int) :
    toLower ("invalid(" ++ toString ordinal ++ ")") ≠ "" ∧
      toLower ("invalid(" ++ toString ordinal ++ ")") ≠ "unknown" := by
  have start : (toLower ("invalid(" ++ toString ordinal ++ ")")).toList.head? = some 'i' := by
    simp [toLower, lowerRune]
  constructor
  · intro same
    rw [same] at start
    cases start
  · intro same
    rw [same] at start
    cases start

theorem named_state_responds :
    ∀ entry ∈ pgmStateNames,
      (toLower entry.2 ≠ "" ∧ toLower entry.2 ≠ "unknown") ↔ entry.1 ≠ 0 := by
  decide

theorem state_name_responds (state : State) :
    (toLower (stateName state) ≠ "" ∧ toLower (stateName state) ≠ "unknown") ↔
      state ≠ State.unknown := by
  obtain ⟨ordinal⟩ := state
  have zero : (⟨ordinal⟩ : State) ≠ State.unknown ↔ ordinal ≠ 0 := by simp [State.unknown]
  rw [zero, stateName, enumName]
  cases found : pgmStateNames.lookup ordinal with
  | some name =>
      obtain ⟨front, back, parts, -⟩ := List.lookup_eq_some_iff.1 found
      have member : (ordinal, name) ∈ pgmStateNames := by
        rw [parts]
        simp
      exact named_state_responds (ordinal, name) member
  | none =>
      apply iff_of_true (invalid_name_responds ordinal)
      rintro rfl
      cases found

theorem responds_seen (inst : WireInstance) : responds (seenInstance inst) = reachable inst := by
  have named := state_name_responds inst.state
  have state : (seenInstance inst).state = stateName inst.state := rfl
  rw [responds, reachable, state, ← Bool.decide_and]
  exact decide_eq_decide.2 named

theorem responding_seen (status : WireStatus) :
    (peerCounts (seenStatus status)).responding =
        (status.instances.getD []).countP reachable ∧
      (seenStatus status).instances.length = (status.instances.getD []).length := by
  constructor
  · have same : responds ∘ seenInstance = reachable := funext responds_seen
    change ((status.instances.getD []).map seenInstance).countP responds = _
    rw [List.countP_map, same]
  · exact List.length_map seenInstance

/-- The check passes over a majority of reachable instances. -/
theorem check_passes_iff (status : WireStatus) :
    (checkClusterQuorum (.ok status)).1 = .pass ↔
      (status.instances.getD []).length / 2 + 1 ≤ (status.instances.getD []).countP reachable := by
  have most : (status.instances.getD []).countP reachable ≤ (status.instances.getD []).length :=
    List.countP_le_length
  unfold checkClusterQuorum
  dsimp only
  split
  · rename_i empty
    rw [empty] at most ⊢
    constructor
    · intro passed
      cases passed
    · intro majority
      omega
  · split
    · rename_i majority
      exact iff_of_true rfl majority
    · rename_i minority
      constructor
      · intro passed
        cases passed
      · intro majority
        exact absurd majority minority

theorem health_passes_iff (engine : PgmanagerStatus) (primary : engine.primaryNodeID ≠ "")
    (leader : engine.leaderNodeID ≠ "") :
    (quorumHealth engine).1 = .pass ↔
      engine.instances.length / 2 + 1 ≤ (peerCounts engine).responding := by
  have most := (counts_le_total engine).1
  rw [quorum_status engine primary leader]
  by_cases empty : engine.instances.length = 0
  · rw [if_pos empty]
    rw [empty] at most ⊢
    constructor
    · intro passed
      cases passed
    · intro majority
      omega
  · rw [if_neg empty]
    split
    · rename_i majority
      exact iff_of_true rfl majority
    · rename_i minority
      constructor
      · intro passed
        cases passed
      · intro majority
        exact absurd majority minority

/-! ## Agreement -/

/-- A time by its seconds after the zero time; up to nine of them this is its RFC 3339 text. -/
def secondsText (seconds : Nat) : String := "0001-01-01T00:00:0" ++ toString seconds ++ "Z"

def numberedReaders : Readers where
  parseTime := fun text => digitsValue (text.toList.drop 18).dropLast
  joinWindow := fun _ => .ok ()
  promotionAuthorization := fun _ => .ok ()

theorem seconds_read (seconds : Nat) :
    numberedReaders.parseTime (secondsText seconds) = some seconds := by
  have text : (secondsText seconds).toList =
      "0001-01-01T00:00:0".toList ++ (Nat.toDigits 10 seconds ++ ['Z']) := by
    change ("0001-01-01T00:00:0" ++ Nat.repr seconds ++ "Z").toList = _
    rw [String.toList_append, String.toList_append, Nat.toList_repr, List.append_assoc]
    rfl
  change digitsValue ((secondsText seconds).toList.drop 18).dropLast = some seconds
  rw [text, List.drop_left' (by decide), List.dropLast_concat, digits_value_nat]

/-- Two of three answer, one of them in a state without a name. -/
def partedStatus : WireStatus where
  clusterID := "prod"
  leaderNodeID := "node-a"
  primaryNodeID := "node-a"
  localNodeID := "node-a"
  localRole := Role.primary
  localState := State.running
  instances := some
    [⟨⟨"node-a", Role.primary, State.running, true, 12⟩, 7, 7, 7, 0⟩,
      ⟨⟨"node-b", Role.standby, ⟨-42⟩, true, 11⟩, 6, 6, 6, 1⟩,
      ⟨⟨"node-c", Role.unknown, State.unknown, false, 0⟩, 0, 0, 0, 0⟩]
  syncStandbys := some ["node-b"]
  lastFailoverAt := 3
  lastFailoverReason := "switchover"
  joinWindow := none
  promotionAuthorization := none

def meshedSnapshot : StatusSnapshot where
  serverName := "node-a"
  ready := true
  clientListenAddr := "nats://127.0.0.1:4222"
  routesListenAddr := ""
  tlsEnabled := false
  routesMeshed := 2
  replicasFactor := 3
  replicasOverridden := false
  jetStreamStorageBytes := 0
  storageDegraded := none
  lastRouteUpAt := none
  lastRouteDownAt := none
  lastReloadAt := none

theorem parted_status_fits : StatusFits numberedReaders partedStatus where
  localRole := by decide
  localState := by decide
  instances := by
    intro inst member
    simp only [partedStatus, Option.getD_some, List.mem_cons, List.not_mem_nil, or_false] at member
    rcases member with rfl | rfl | rfl <;>
      exact ⟨by decide, by decide, by unfold FitsUint64; decide, by unfold FitsUint64; decide,
        by unfold FitsUint64; decide, by decide⟩
  joinWindow := by simp [partedStatus]
  promotionAuthorization := by simp [partedStatus]

/-- The doctor, `pgmctl status` and, with a primary and a leader, `pgmctl health` agree on the
quorum of every status the server can send. -/
theorem quorum_verdicts_agree (readers : Readers) (formatTime : Nat → String)
    (clock : ∀ time, readers.parseTime (formatTime time) = some time)
    (embedded : Option StatusSnapshot) (status : WireStatus) (fits : StatusFits readers status)
    (embeddedFits : ∀ snapshot ∈ embedded, SnapshotFits snapshot) :
    ∃ engine snapshot,
      decodeStatusEngine readers (some (engineResult formatTime embedded status)) =
          .ok (engine, snapshot) ∧
        ((checkClusterQuorum (.ok status)).1 = .pass ↔
          (statusJSON engine snapshot).substrate.quorate = true) ∧
        (status.primaryNodeID ≠ "" → status.leaderNodeID ≠ "" →
          ((checkClusterQuorum (.ok status)).1 = .pass ↔ (quorumHealth engine).1 = .pass)) := by
  obtain ⟨responding, total⟩ := responding_seen status
  refine ⟨seenStatus status, embedded.map seenSnapshot,
    decode_engine_result readers formatTime clock embedded status fits embeddedFits, ?_, ?_⟩
  · change _ ↔ (substrateOf (seenStatus status)).quorate = true
    rw [check_passes_iff, quorate_iff, responding, total]
  · intro primary leader
    rw [check_passes_iff, health_passes_iff (seenStatus status) primary leader, responding, total]

theorem two_of_three_agree :
    (checkClusterQuorum (.ok partedStatus)).1 = .pass ∧
      ∃ engine snapshot,
        decodeStatusEngine numberedReaders
            (some (engineResult secondsText (some meshedSnapshot) partedStatus)) =
          .ok (engine, snapshot) ∧
        (statusJSON engine snapshot).substrate.quorate = true ∧
        (quorumHealth engine).1 = .pass := by
  have passes : (checkClusterQuorum (.ok partedStatus)).1 = .pass := by decide
  have embeddedFits : ∀ snapshot ∈ some meshedSnapshot, SnapshotFits snapshot := by
    intro snapshot member
    cases member
    exact ⟨by decide, by decide⟩
  obtain ⟨engine, snapshot, decoded, status, health⟩ :=
    quorum_verdicts_agree numberedReaders secondsText seconds_read (some meshedSnapshot)
      partedStatus parted_status_fits embeddedFits
  exact ⟨passes, engine, snapshot, decoded, status.1 passes,
    (health (by decide) (by decide)).1 passes⟩

end PgmanProxy.Pgmctl.QuorumVerdicts
