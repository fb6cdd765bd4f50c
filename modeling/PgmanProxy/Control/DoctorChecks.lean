import PgmanProxy.Pgmctl.QuorumVerdicts

/-!
# The doctor's checks

The registry behind `POST /v1/doctor/run`. Every check reads the engine anew, so a run
pairs each check with the answers it got: two checks of one run need not have seen the
same cluster. The checks only look at the answers; what they say about them is stated
here check by check.
-/

namespace PgmanProxy.Control.DoctorChecks

open PgmanProxy.Library.GoJson PgmanProxy.PgManager
open PgmanProxy.Control.JoinWindowCheck (Severity WindowView)
open PgmanProxy.Pgmctl.StatusFrames (WireInstance WireStatus number)
open PgmanProxy.Pgmctl.QuorumVerdicts (reachable)

set_option autoImplicit false

inductive BlastRadius where
  | singleResource
  | clusterAffecting
  | advisory
deriving DecidableEq, Repr

def BlastRadius.text : BlastRadius → String
  | .singleResource => "single-resource"
  | .clusterAffecting => "cluster-affecting"
  | .advisory => "advisory"

structure SuggestedFix where
  name : String
  description : String
  blastRadius : BlastRadius
  appliesToCheck : String
  argsSchema : String
  applyEndpoint : String
deriving DecidableEq, Repr

/-! ## What the engine answers -/

structure TimelineDivergence where
  localTimeline : Nat
  localEndLSN : Nat
  clusterTimeline : Nat
  switchLSN : Nat
  evidence : String
  sourceNodeID : NodeID
  since : Nat
deriving DecidableEq, Repr

structure PeerTimeline where
  nodeID : NodeID
  answered : Bool
  divergence : Option TimelineDivergence
deriving DecidableEq, Repr

structure IdentityMismatch where
  localSystemIdentifier : String
  leaderSystemIdentifier : String
  leaderNodeID : NodeID
deriving DecidableEq, Repr

/-- The status as the checks see it. `status` has the join window as the JSON it is sent
as; the check reads the value beside it. -/
structure View extends WindowView where
  status : WireStatus
  identityMismatch : Option IdentityMismatch
  timelineDivergence : Option TimelineDivergence

def View.instances (view : View) : List WireInstance := view.status.instances.getD []

inductive IssueSeverity where
  | warning
  | error
  | critical
  | other (ordinal : Int)
deriving DecidableEq, Repr

structure Issue where
  severity : IssueSeverity
  component : String
  message : String
deriving DecidableEq, Repr

structure Diagnosis where
  healthy : Bool
  issues : List Issue
deriving DecidableEq, Repr

/-- The answers one check gets. A check makes one call and reads one of them. -/
structure Answers where
  status : Except String View
  diagnose : Except String Diagnosis
  timelines : Except String (List PeerTimeline)

/-- What pg-manager and the time package supply: the text of a rounded duration, the abandon
window, the names of the issue severities, and the text of a time. -/
structure Texts where
  roundText : Int → String
  abandonSilence : Int
  issueText : IssueSeverity → String
  formatTime : Nat → String

structure Finding where
  severity : Severity
  message : String
  evidence : Option (List (String × Json))

/-! ## The checks -/

/-- The checks that look at the status report one that could not be read. -/
def onStatus (check : View → Finding) (answers : Answers) : Finding :=
  match answers.status with
  | .error why => ⟨.unknown, "Status: " ++ why, none⟩
  | .ok view => check view

def names (nodes : List NodeID) : Json := .arr (nodes.map Json.str)

/-- What the loop over the primaries keeps. -/
structure PrimaryTally where
  primaries : Nat
  primaryID : NodeID
  staleCount : Nat
deriving DecidableEq, Repr

def tallyPrimary (tally : PrimaryTally) (inst : WireInstance) : PrimaryTally :=
  if inst.role ≠ Role.primary then tally
  else if inst.state ≠ State.running || !inst.postgresUp then
    { tally with staleCount := tally.staleCount + 1 }
  else { tally with primaries := tally.primaries + 1, primaryID := inst.nodeID }

def checkClusterHasPrimary : Answers → Finding :=
  onStatus (fun view =>
    let tally := view.instances.foldl tallyPrimary ⟨0, "", 0⟩
    let evidence := some
      [("primary_count", number tally.primaries), ("primary_node_id", .str tally.primaryID),
        ("stale_primary_role_ct", number tally.staleCount)]
    if tally.primaries = 1 then ⟨.pass, "primary=" ++ tally.primaryID, evidence⟩
    else if tally.primaries = 0 then ⟨.fail, "no primary observed", evidence⟩
    else
      ⟨.fail, toString tally.primaries ++ " primaries observed (split-brain)", evidence⟩)

def checkClusterHasLeader : Answers → Finding :=
  onStatus (fun view =>
    let evidence := some [("leader_node_id", Json.str view.status.leaderNodeID)]
    if view.status.leaderNodeID = "" then ⟨.fail, "no leader (KV lease unowned)", evidence⟩
    else ⟨.pass, "leader=" ++ view.status.leaderNodeID, evidence⟩)

def checkClusterQuorum (answers : Answers) : Finding :=
  let found := Pgmctl.QuorumVerdicts.checkClusterQuorum (answers.status.map View.status)
  ⟨found.1, found.2.1, found.2.2.map (fun evidence =>
    [("reachable_count", number evidence.reachableCount),
      ("total_count", number evidence.totalCount),
      ("required_quorum", number evidence.requiredQuorum)])⟩

/-- The checks that list the nodes something is wrong with. -/
def listNodes (bad : WireInstance → Bool) (key : String) (severity : Severity)
    (lead : String) (fine : View → String) : Answers → Finding :=
  onStatus (fun view =>
    let nodes := (view.instances.filter bad).map (fun inst => inst.nodeID)
    if nodes.length = 0 then ⟨.pass, fine view, some [(key, names nodes)]⟩
    else ⟨severity, lead ++ ", ".intercalate nodes, some [(key, names nodes)]⟩)

def checkNodesAllReachable : Answers → Finding :=
  listNodes (fun inst => inst.state = State.unknown) "unreachable_nodes" .warn "unreachable: "
    (fun view => "all " ++ toString view.instances.length ++ " peers reachable")

def checkNodesNoFailedState : Answers → Finding :=
  listNodes (fun inst => inst.state = State.failed) "failed_nodes" .fail "failed nodes: "
    (fun _ => "no peer in StateFailed")

-- a peer that did not answer is left to `nodes.all-reachable`
def checkPostgresResponding : Answers → Finding :=
  listNodes (fun inst => inst.state ≠ State.unknown && !inst.postgresUp) "postgres_down_nodes"
    .fail "postgres down on: " (fun _ => "all reachable peers report postgres_up=true")

def replicationLagWarnBytes : Int := (1 <<< 20 : Nat)
def replicationLagFailBytes : Int := (1 <<< 30 : Nat)

/-- A nil slice is sent as null. -/
def laggy (insts : List WireInstance) : Json :=
  if insts = [] then .null
  else .arr (insts.map (fun inst =>
    .obj [("node", .str inst.nodeID), ("lag_bytes", number inst.lagBytes)]))

def lagsFail (inst : WireInstance) : Bool :=
  inst.role = Role.standby && decide (inst.lagBytes ≥ replicationLagFailBytes)

def lagsWarn (inst : WireInstance) : Bool :=
  inst.role = Role.standby && !decide (inst.lagBytes ≥ replicationLagFailBytes) &&
    decide (inst.lagBytes ≥ replicationLagWarnBytes)

def checkReplicationLag : Answers → Finding :=
  onStatus (fun view =>
    let fail := view.instances.filter lagsFail
    let warn := view.instances.filter lagsWarn
    let evidence := some
      [("warn", laggy warn), ("fail", laggy fail),
        ("warn_bytes", number replicationLagWarnBytes),
        ("fail_bytes", number replicationLagFailBytes)]
    if fail.length > 0 then
      ⟨.fail, toString fail.length ++ " standby(s) above fail threshold", evidence⟩
    else if warn.length > 0 then
      ⟨.warn, toString warn.length ++ " standby(s) above warn threshold", evidence⟩
    else ⟨.pass, "all standbys within lag thresholds", evidence⟩)

def worsen (worst : Severity) (issue : Issue) : Severity :=
  match issue.severity with
  | .error => .fail
  | .critical => .fail
  | .warning => if worst ≠ .fail then .warn else worst
  | .other _ => worst

section Texted

variable (texts : Texts)

def issueLine (issue : Issue) : String :=
  "[" ++ texts.issueText issue.severity ++ "] " ++ issue.component ++ ": " ++ issue.message

def checkEngineDiagnose (answers : Answers) : Finding :=
  match answers.diagnose with
  | .error why => ⟨.unknown, "Diagnose: " ++ why, none⟩
  | .ok diagnosis =>
      if diagnosis.healthy then
        ⟨.pass, "Diagnose reports healthy", some [("issue_count", number 0)]⟩
      else
        ⟨diagnosis.issues.foldl worsen .warn,
          toString diagnosis.issues.length ++ " issue(s) reported",
          some [("issue_count", number diagnosis.issues.length),
            ("issues", .arr (diagnosis.issues.map (fun issue => .str (issueLine texts issue))))]⟩

def checkClusterIdentity : Answers → Finding :=
  onStatus (fun view =>
    match view.identityMismatch with
    | none => ⟨.pass, "no identity mismatch reported", some [("mismatch", .bool false)]⟩
    | some found =>
        ⟨.fail, "database identity " ++ found.localSystemIdentifier ++ " differs from leader " ++
            found.leaderNodeID ++ " (" ++ found.leaderSystemIdentifier ++ ")",
          some [("mismatch", .bool true),
            ("local_system_identifier", .str found.localSystemIdentifier),
            ("leader_system_identifier", .str found.leaderSystemIdentifier),
            ("leader_node_id", .str found.leaderNodeID)]⟩)

/-- `%X` -/
def upperHex (value : Nat) : String :=
  String.ofList ((Nat.toDigits 16 value).map Char.toUpper)

/-- A WAL position the way PostgreSQL prints it. -/
def formatLSN (lsn : Nat) : String :=
  upperHex (lsn >>> 32) ++ "/" ++ upperHex (lsn &&& 0xFFFFFFFF)

def divergedEvidence (node : NodeID) (found : TimelineDivergence) : Json :=
  .obj [("node_id", .str node), ("local_timeline", number found.localTimeline),
    ("local_end_lsn", .str (formatLSN found.localEndLSN)),
    ("cluster_timeline", number found.clusterTimeline),
    ("switch_lsn", .str (formatLSN found.switchLSN)), ("evidence", .str found.evidence),
    ("source_node_id", .str found.sourceNodeID), ("since", .str (texts.formatTime found.since))]

def divergedDetail (node : NodeID) (found : TimelineDivergence) : String :=
  if found.switchLSN = 0 then
    node ++ " is on timeline " ++ toString found.localTimeline ++
      ", which is not in the history of the cluster's timeline " ++
      toString found.clusterTimeline
  else
    node ++ " holds timeline " ++ toString found.localTimeline ++ " WAL to " ++
      formatLSN found.localEndLSN ++ ", past its end at " ++ formatLSN found.switchLSN ++
      " in the cluster's timeline " ++ toString found.clusterTimeline

/-- The report of a peer that answered with one. -/
def reported (peer : PeerTimeline) : Option (NodeID × TimelineDivergence) :=
  if peer.answered then peer.divergence.map (fun found => (peer.nodeID, found)) else none

def checkTimelineConsistent (answers : Answers) : Finding :=
  match answers.timelines with
  | .error why => ⟨.unknown, "peer timelines: " ++ why, none⟩
  | .ok peers =>
      let sorted := peers.insertionSort (fun left right => left.nodeID ≤ right.nodeID)
      let unanswered := (sorted.filter (fun peer => !peer.answered)).map PeerTimeline.nodeID
      let checked := sorted.countP (fun peer => peer.answered)
      let diverged := sorted.filterMap reported
      let details := diverged.map (fun found => divergedDetail found.1 found.2)
      let evidence := some
        ([("checked", number checked),
          ("diverged", .arr (diverged.map (fun found =>
            divergedEvidence texts found.1 found.2)))] ++
          if unanswered.length > 0 then [("unanswered", names unanswered)] else [])
      if details.length > 0 then ⟨.fail, "; ".intercalate details, evidence⟩
      else
        ⟨.pass, "no divergence reported by " ++ toString checked ++ " node(s)" ++
            (if unanswered.length > 0 then
              "; not answering: " ++ ", ".intercalate unanswered else ""),
          evidence⟩

def checkJoinWindow (answers : Answers) : Finding :=
  let found := JoinWindowCheck.checkJoinWindow texts.roundText texts.abandonSilence
    (answers.status.map View.toWindowView)
  ⟨found.severity, found.message.text, found.evidence⟩

/-! ## The registry -/

structure NamedCheck where
  name : String
  description : String
  evidenceSchema : String
  suggestedFix : Option SuggestedFix
  run : Answers → Finding

/-- The registered fixes are all advice. -/
def advise (check name description : String) : SuggestedFix :=
  ⟨name, description, .advisory, check, "", "/v1/doctor/fix"⟩

def defaultDoctorChecks : List NamedCheck :=
  [⟨"cluster.has-primary", "Exactly one node is reported as the cluster primary.",
      "doctor.evidence.cluster-shape/v1", none, checkClusterHasPrimary⟩,
    ⟨"cluster.has-leader", "The leadership KV reports a current leader.",
      "doctor.evidence.cluster-shape/v1", none, checkClusterHasLeader⟩,
    ⟨"cluster.quorum", "Reachable peers ≥ floor(N/2)+1 for the declared cluster size.",
      "doctor.evidence.cluster-shape/v1", none, checkClusterQuorum⟩,
    ⟨"nodes.all-reachable", "Every configured peer responded to the per-peer status fan-out.",
      "doctor.evidence.peer-reachability/v1", none, checkNodesAllReachable⟩,
    ⟨"nodes.no-failed-state",
      "No peer is in StateFailed (pg-manager's operator-sticky terminal state).",
      "doctor.evidence.peer-state/v1",
      some (advise "nodes.no-failed-state" "investigate-failed-node"
        ("Inspect the failed peer's PG + pg-manager logs; the failed state is " ++
          "operator-sticky and won't self-clear.")),
      checkNodesNoFailedState⟩,
    ⟨"postgres.responding", "Every peer reports postgres_up = true.",
      "doctor.evidence.peer-state/v1", none, checkPostgresResponding⟩,
    ⟨"replication.lag-acceptable", "No standby's lag_bytes exceeds the warn / fail thresholds.",
      "doctor.evidence.replication-lag/v1",
      some (advise "replication.lag-acceptable" "kick-replication"
        ("Restart the lagging standby's replication client to clear a stalled WAL " ++
          "receiver.")),
      checkReplicationLag⟩,
    ⟨"engine.diagnose-clean", "pg-manager Diagnose returns Healthy=true.",
      "doctor.evidence.diagnose/v1", none, checkEngineDiagnose texts⟩,
    ⟨"cluster.identity", "This node's database identity matches the one its leader publishes.",
      "doctor.evidence.cluster-identity/v1",
      some (advise "cluster.identity" "identify-acknowledged-writes"
        ("Two unrelated databases exist in this cluster. Do not wipe either before " ++
          "identifying which one holds the acknowledged writes; see " ++
          "docs/scale-out-1-to-3/runbook.md.")),
      checkClusterIdentity⟩,
    ⟨"replication.timeline-consistent",
      "No node's WAL runs past the end of its timeline in the cluster history.",
      "doctor.evidence.timeline-divergence/v1",
      some (advise "replication.timeline-consistent" "reclone-diverged-node"
        ("The node holds WAL the cluster never received and cannot stream. With " ++
          "policy.auto_rebootstrap.enabled it re-clones itself once its clone source " ++
          "confirms the divergence; otherwise stop it, move its data directory aside and " ++
          "start it to clone from the primary. Its unreplicated WAL is discarded; see " ++
          "docs/scale-out-1-to-3/runbook.md.")),
      checkTimelineConsistent texts⟩,
    ⟨"cluster.join-window",
      "The cluster is not stuck in a join window whose publisher is lost " ++
        "(no node may promote until an operator authorizes one).",
      "doctor.evidence.join-window/v1",
      some (advise "cluster.join-window" "authorize-join-window-promotion"
        ("Only the join-window publisher may promote, and it has been silent past the " ++
          "abandon window. If it is lost for good, run the pgmctl promote command in this " ++
          "check's message: it abandons the publisher's unreplicated writes and fences it. " ++
          "See docs/scale-out-1-to-3/runbook.md.")),
      checkJoinWindow texts⟩]

end Texted

def findCheckByName (catalog : List NamedCheck) (name : String) : Option NamedCheck :=
  catalog.find? (fun check => check.name = name)

structure CheckResult where
  name : String
  status : Severity
  message : String
  evidence : Option (List (String × Json))
  suggestedFix : Option SuggestedFix
  executedAt : Nat

def resultOf (now : Nat) (check : NamedCheck) (answers : Answers) : CheckResult :=
  let found := check.run answers
  { name := check.name
    status := found.severity
    message := found.message
    evidence := found.evidence
    suggestedFix :=
      if found.severity = .fail ∨ found.severity = .warn then check.suggestedFix else none
    executedAt := now }

/-- The loop of `runChecks`, each check with the answers it gets. -/
def runChecks (now : Nat) (runs : List (NamedCheck × Answers)) : List CheckResult :=
  runs.map (fun run => resultOf now run.1 run.2)

structure DoctorSummary where
  pass : Nat
  info : Nat
  warn : Nat
  fail : Nat
  unknown : Nat
deriving DecidableEq, Repr

def countStatus (summary : DoctorSummary) (result : CheckResult) : DoctorSummary :=
  match result.status with
  | .pass => { summary with pass := summary.pass + 1 }
  | .info => { summary with info := summary.info + 1 }
  | .warn => { summary with warn := summary.warn + 1 }
  | .fail => { summary with fail := summary.fail + 1 }
  | .unknown => { summary with unknown := summary.unknown + 1 }

def summariseChecks (results : List CheckResult) : DoctorSummary :=
  results.foldl countStatus ⟨0, 0, 0, 0, 0⟩

structure DoctorReport where
  apiVersion : String
  kind : String
  capturedAt : Nat
  summary : DoctorSummary
  checks : List CheckResult

/-- The report of a run; `start` is stamped on the report, `now` on its results. -/
def doctorReport (start now : Nat) (runs : List (NamedCheck × Answers)) : DoctorReport where
  apiVersion := "pgman-proxy/v1"
  kind := "DoctorReport"
  capturedAt := start
  summary := summariseChecks (runChecks now runs)
  checks := runChecks now runs

/-! ## What the severities say -/

def activePrimary (inst : WireInstance) : Bool :=
  inst.role = Role.primary && inst.state = State.running && inst.postgresUp

theorem tally_primaries (instances : List WireInstance) (tally : PrimaryTally) :
    (instances.foldl tallyPrimary tally).primaries =
      tally.primaries + instances.countP activePrimary := by
  induction instances generalizing tally with
  | nil => rfl
  | cons inst instances ih =>
      rw [List.foldl_cons, ih, List.countP_cons]
      unfold tallyPrimary activePrimary
      by_cases role : inst.role = Role.primary
      · by_cases state : inst.state = State.running
        · cases up : inst.postgresUp <;> simp [role, state]
          omega
        · simp [role, state]
      · simp [role]

def severe (issue : Issue) : Bool :=
  issue.severity = .error || issue.severity = .critical

/-- One serious issue is enough, wherever it stands. -/
theorem worsen_fold (issues : List Issue) (worst : Severity)
    (start : worst = .warn ∨ worst = .fail) :
    issues.foldl worsen worst =
      if worst = .fail ∨ ∃ issue ∈ issues, severe issue = true then .fail else .warn := by
  induction issues generalizing worst with
  | nil => rcases start with same | same <;> simp [same]
  | cons issue issues ih =>
      have next : worsen worst issue = if worst = .fail ∨ severe issue = true then .fail
          else .warn := by
        unfold worsen severe
        rcases start with same | same <;> cases issue.severity <;> simp [same]
      rw [List.foldl_cons, ih _ (by rw [next]; split <;> simp), next]
      by_cases here : worst = .fail ∨ severe issue = true
      · rw [if_pos here, if_pos (.inl rfl), if_pos]
        rcases here with led | found
        · exact .inl led
        · exact .inr ⟨issue, List.mem_cons_self, found⟩
      · rw [if_neg here]
        rw [not_or] at here
        simp [here.1, here.2]

section Severities

variable (answers : Answers) (view : View) (read : answers.status = .ok view)

include read

theorem on_status_ok (check : View → Finding) : onStatus check answers = check view := by
  unfold onStatus
  rw [read]

theorem has_primary_severity :
    (checkClusterHasPrimary answers).severity =
      if view.instances.countP activePrimary = 1 then .pass else .fail := by
  have counted := tally_primaries view.instances ⟨0, "", 0⟩
  rw [Nat.zero_add] at counted
  rw [checkClusterHasPrimary, on_status_ok answers view read]
  dsimp only
  rw [counted]
  by_cases single : view.instances.countP activePrimary = 1
  · rw [if_pos single, if_pos single]
  · rw [if_neg single, if_neg single]
    split <;> rfl

theorem has_leader_severity :
    (checkClusterHasLeader answers).severity =
      if view.status.leaderNodeID = "" then .fail else .pass := by
  rw [checkClusterHasLeader, on_status_ok answers view read]
  dsimp only
  split <;> rfl

theorem quorum_severity :
    (checkClusterQuorum answers).severity =
      if view.instances = [] then .unknown
      else if view.instances.length < 2 * view.instances.countP reachable then .pass
      else .fail := by
  unfold checkClusterQuorum Pgmctl.QuorumVerdicts.checkClusterQuorum View.instances
  rw [read]
  dsimp only [Except.map]
  generalize view.status.instances.getD [] = instances
  by_cases empty : instances = []
  · rw [if_pos (by rw [empty]; rfl), if_pos empty]
  · rw [if_neg (by simpa using empty), if_neg empty]
    by_cases majority : instances.length < 2 * instances.countP reachable
    · have enough : instances.countP reachable ≥ instances.length / 2 + 1 := by omega
      rw [if_pos majority, if_pos enough]
    · have short : ¬instances.countP reachable ≥ instances.length / 2 + 1 := by omega
      rw [if_neg majority, if_neg short]

theorem list_nodes_severity (bad : WireInstance → Bool) (key : String) (severity : Severity)
    (lead : String) (fine : View → String) :
    (listNodes bad key severity lead fine answers).severity =
      if ∀ inst ∈ view.instances, bad inst = false then .pass else severity := by
  rw [listNodes, on_status_ok answers view read]
  dsimp only
  by_cases none : ∀ inst ∈ view.instances, bad inst = false
  · have empty : view.instances.filter bad = [] := by
      apply List.filter_eq_nil_iff.2
      intro inst member
      rw [none inst member]
      decide
    rw [if_pos none, empty]
    rfl
  · have found : view.instances.filter bad ≠ [] := by
      intro empty
      apply none
      intro inst member
      have kept := List.filter_eq_nil_iff.1 empty inst member
      simpa using kept
    rw [if_neg none, if_neg (by simpa using found)]

theorem lag_severity :
    (checkReplicationLag answers).severity =
      if ∃ inst ∈ view.instances, lagsFail inst = true then .fail
      else if ∃ inst ∈ view.instances, lagsWarn inst = true then .warn
      else .pass := by
  rw [checkReplicationLag, on_status_ok answers view read]
  simp only [gt_iff_lt, List.length_pos_iff_exists_mem, List.mem_filter]
  split
  · rfl
  · split <;> rfl

theorem identity_severity :
    (checkClusterIdentity answers).severity =
      if view.identityMismatch = none then .pass else .fail := by
  rw [checkClusterIdentity, on_status_ok answers view read]
  cases view.identityMismatch with
  | none => rfl
  | some found => rfl

end Severities

section Findings

variable (texts : Texts) (answers : Answers)

theorem diagnose_severity (diagnosis : Diagnosis) (read : answers.diagnose = .ok diagnosis) :
    (checkEngineDiagnose texts answers).severity =
      if diagnosis.healthy then .pass
      else if ∃ issue ∈ diagnosis.issues, severe issue = true then .fail
      else .warn := by
  unfold checkEngineDiagnose
  rw [read]
  dsimp only
  split
  · rfl
  · rw [worsen_fold _ _ (.inl rfl)]
    simp

theorem timeline_severity (peers : List PeerTimeline) (read : answers.timelines = .ok peers) :
    (checkTimelineConsistent texts answers).severity =
      if ∃ peer ∈ peers, (reported peer).isSome = true then .fail else .pass := by
  have told : 0 < ((peers.insertionSort (fun left right => left.nodeID ≤ right.nodeID)).filterMap
      reported).length ↔ ∃ peer ∈ peers, (reported peer).isSome = true := by
    rw [List.length_filterMap_eq_countP, List.countP_pos_iff]
    simp only [List.mem_insertionSort]
  unfold checkTimelineConsistent
  rw [read]
  dsimp only
  rw [List.length_map]
  by_cases divergence : ∃ peer ∈ peers, (reported peer).isSome = true
  · rw [if_pos divergence, if_pos (told.2 divergence)]
  · rw [if_neg divergence, if_neg (fun found => divergence (told.1 found))]

/-- The check is quiet outside a join window, and inside one whose publisher holds the lease. -/
theorem join_window_pass_iff :
    (checkJoinWindow texts answers).severity = .pass ↔
      ∃ view, answers.status = .ok view ∧ ∀ window, view.joinWindow = some window →
        view.promotionAuthorization = none ∧ window.publisherHoldsLease = true := by
  unfold checkJoinWindow JoinWindowCheck.checkJoinWindow
  cases answers.status with
  | error why => simp [Except.map]
  | ok view =>
      cases window : view.joinWindow with
      | none => simp [Except.map, window]
      | some found =>
          cases pending : view.promotionAuthorization with
          | some authorization => simp [Except.map, window, pending]
          | none =>
              cases lease : found.publisherHoldsLease with
              | true => simp [Except.map, window, pending, lease]
              | false =>
                  simp [Except.map, window, pending, lease]
                  split
                  · simp
                  · split <;> simp

end Findings

/-! ## The report -/

theorem summary_counts (results : List CheckResult) :
    summariseChecks results =
      { pass := results.countP (fun result => result.status = .pass)
        info := results.countP (fun result => result.status = .info)
        warn := results.countP (fun result => result.status = .warn)
        fail := results.countP (fun result => result.status = .fail)
        unknown := results.countP (fun result => result.status = .unknown) } := by
  have counted : ∀ start, results.foldl countStatus start =
      { pass := start.pass + results.countP (fun result => result.status = .pass)
        info := start.info + results.countP (fun result => result.status = .info)
        warn := start.warn + results.countP (fun result => result.status = .warn)
        fail := start.fail + results.countP (fun result => result.status = .fail)
        unknown := start.unknown + results.countP (fun result => result.status = .unknown) } := by
    induction results with
    | nil => intro start; rfl
    | cons result results ih =>
        intro start
        rw [List.foldl_cons, ih]
        simp only [List.countP_cons, countStatus]
        cases result.status <;> simp <;> omega
  rw [summariseChecks, counted]
  simp

theorem catalog_names_distinct (texts : Texts) :
    ((defaultDoctorChecks texts).map NamedCheck.name).Nodup := by
  change ["cluster.has-primary", "cluster.has-leader", "cluster.quorum", "nodes.all-reachable",
    "nodes.no-failed-state", "postgres.responding", "replication.lag-acceptable",
    "engine.diagnose-clean", "cluster.identity", "replication.timeline-consistent",
    "cluster.join-window"].Nodup
  decide

end PgmanProxy.Control.DoctorChecks
