import PgmanProxy.Control.DoctorChecks
import PgmanProxy.Runtime.Aggregator

/-!
# The doctor's view of the cluster

The doctor handler wraps the engine: each check that asks for the status gets this
node's own snapshot with the instances of a fan-out to all peers, and the timeline check
gets the peers' divergence reports of another one. The replies of a fan-out come in any
order. The severities below are read off the set of replies.
-/

namespace PgmanProxy.Control.DoctorCluster

open PgmanProxy.Fanout.Client
open PgmanProxy.Library.GoStrings (infix_intercalate)
open PgmanProxy.PgManager
open PgmanProxy.Control.DoctorChecks
open PgmanProxy.Pgmctl.QuorumVerdicts (reachable)
open PgmanProxy.Pgmctl.StatusFrames (WireInstance WireStatus)
open PgmanProxy.Runtime.Aggregator

set_option autoImplicit false

/-- `peerSliceStatus` with the divergence the peer reports. The wire form of a divergence has the
fields of pg-manager's own. -/
structure PeerSlice extends PeerSliceStatus where
  timelineDivergence : Option TimelineDivergence
deriving DecidableEq, Repr

/-- The fields of the status that the aggregator works on. -/
def common (view : View) : Status where
  clusterID := view.status.clusterID
  localNodeID := view.status.localNodeID
  localRole := view.status.localRole
  localState := view.status.localState
  leaderNodeID := view.status.leaderNodeID
  primaryNodeID := view.status.primaryNodeID
  instances := view.instances.map WireInstance.toInstanceStatus
  syncStandbys := view.status.syncStandbys.getD []

/-- An instance entry of the aggregator: positions and lag stay zero. -/
def bare (inst : InstanceStatus) : WireInstance := ⟨inst, 0, 0, 0, 0⟩

/-- The pool is written back only where the filter ran; an empty one becomes nil. -/
def writtenPool (before : Option (List NodeID)) (out : Status) : Option (List NodeID) :=
  if out.primaryNodeID ≠ "" ∧ (before.getD []).length > 0 then
    if out.syncStandbys.length = 0 then none else some out.syncStandbys
  else before

section Consulting

variable {Data : Type} (decode : Data → Option PeerSlice)

def sliceStatus (data : Data) : Option PeerSliceStatus :=
  (decode data).map PeerSlice.toPeerSliceStatus

def enrichView (aggregator : StatusAggregator) (call : Call) (exchange : Exchange Data)
    (view : View) : View :=
  if !aggregator.connected || aggregator.peers.length = 0 then view
  else
    match collect (sliceStatus decode) aggregator call exchange with
    | .error _ => view
    | .ok replies =>
        let out := excludePrimary (stitch { common view with instances := [] } replies)
        { view with
          status := { view.status with
            instances := some (out.instances.map bare)
            primaryNodeID := out.primaryNodeID
            syncStandbys := writtenPool view.status.syncStandbys out } }

/-- The divergence in the payload of an `ok` reply that decodes. -/
def divergenceOf (reply : Reply Data) : Option TimelineDivergence :=
  if reply.status = .statusOK then
    (reply.data.bind decode).bind PeerSlice.timelineDivergence
  else none

def peerTimeline (reply : Reply Data) : PeerTimeline where
  nodeID := (peerReply (sliceStatus decode) reply).nodeID
  answered := (peerReply (sliceStatus decode) reply).status.isSome
  divergence := divergenceOf decode reply

def peerTimelines (aggregator : StatusAggregator) (call : Call) (exchange : Exchange Data) :
    Except String (List PeerTimeline) :=
  if !aggregator.connected || aggregator.peers.length = 0 then
    .error "status aggregator: no fan-out client"
  else
    (broadcast aggregator.connected call aggregator.peers exchange).map
      (fun replies => replies.map (peerTimeline decode))

def localTimeline (status : Except String View) : Except String (List PeerTimeline) :=
  status.map (fun view => [⟨view.status.localNodeID, true, view.timelineDivergence⟩])

/-- What the engine and the fan-out answer while one check runs. -/
structure Consultation (Data : Type) where
  status : Except String View
  diagnose : Except String Diagnosis
  call : Call
  exchange : Exchange Data

/-- The answers through `enrichedEngine`. -/
def enrichedEngine (aggregator : Option StatusAggregator) (consulted : Consultation Data) :
    Answers where
  status :=
    match aggregator with
    | none => consulted.status
    | some aggregator =>
        consulted.status.map (enrichView decode aggregator consulted.call consulted.exchange)
  diagnose := consulted.diagnose
  timelines :=
    match aggregator with
    | none => localTimeline consulted.status
    | some aggregator => peerTimelines decode aggregator consulted.call consulted.exchange

/-! ## A set of replies -/

/-- The peer answered, and knows the state it is in. -/
def known (reply : Reply Data) : Bool :=
  match payload (sliceStatus decode) reply with
  | some status => decide (State.mk status.state ≠ State.unknown)
  | none => false

def answersFailed (reply : Reply Data) : Bool :=
  match payload (sliceStatus decode) reply with
  | some status => decide (State.mk status.state = State.failed)
  | none => false

def answersDown (reply : Reply Data) : Bool :=
  match payload (sliceStatus decode) reply with
  | some status => decide (State.mk status.state ≠ State.unknown) && !postgresUp status
  | none => false

/-- The instance made of a reply. -/
def entry (reply : Reply Data) : WireInstance :=
  bare (instanceOf (peerReply (sliceStatus decode) reply))

theorem entry_reads (reply : Reply Data) :
    activePrimary (entry decode reply) = runningPrimary (sliceStatus decode) reply ∧
      reachable (entry decode reply) = known decode reply ∧
      decide ((entry decode reply).state = State.failed) = answersFailed decode reply ∧
      ((entry decode reply).state ≠ State.unknown && !(entry decode reply).postgresUp) =
        answersDown decode reply ∧
      (entry decode reply).lagBytes = 0 := by
  unfold entry activePrimary runningPrimary reachable known answersFailed answersDown peerReply
  cases payload (sliceStatus decode) reply with
  | none => simp [instanceOf, bare, State.unknown, State.failed, Role.unknown, Role.primary]
  | some status => simp [instanceOf, bare]

variable {decode}

/-- A usable client, and peers to ask that the configuration lists once each. -/
structure Wired (aggregator : StatusAggregator) : Prop where
  connected : aggregator.connected = true
  asked : aggregator.peers ≠ []
  distinct : aggregator.peers.Nodup

section Gathered

variable (aggregator : StatusAggregator) (call : Call)

/-- The replies of the set and the entries made up for the silent peers. -/
def gathered (set : ReplySet (sliceStatus decode) aggregator.peers) : List (Reply Data) :=
  set.replies ++
    (aggregator.peers.filter (fun node => node ∉ nodeIDs set.replies)).map (unreachable call)

theorem stitch_instances (out : Status) (replies : List PeerReply) :
    (stitch out replies).instances = out.instances ++ replies.map instanceOf := by
  induction replies generalizing out with
  | nil => simp [stitch]
  | cons reply replies ih =>
      rw [stitch, ih]
      simp

/-- Every peer is accounted for once. -/
theorem gathered_peers (set : ReplySet (sliceStatus decode) aggregator.peers)
    (distinct : aggregator.peers.Nodup) :
    (nodeIDs (gathered aggregator call set)).Perm aggregator.peers := by
  have split : nodeIDs (gathered aggregator call set) =
      nodeIDs set.replies ++
        aggregator.peers.filter (fun node => node ∉ nodeIDs set.replies) := by
    simp [nodeIDs, gathered, unreachable, Function.comp_def]
  rw [split]
  apply (List.perm_ext_iff_of_nodup _ distinct).2
  · intro node
    rw [List.mem_append, List.mem_filter, decide_eq_true_eq]
    constructor
    · intro member
      rcases member with heard | silent
      · exact set.known heard
      · exact silent.1
    · intro member
      by_cases heard : node ∈ nodeIDs set.replies
      · exact .inl heard
      · exact .inr ⟨member, heard⟩
  · apply List.nodup_append'.2
    refine ⟨set.distinct, distinct.filter _, ?_⟩
    intro node heard silent
    rw [List.mem_filter, decide_eq_true_eq] at silent
    exact silent.2 heard

theorem gathered_length (set : ReplySet (sliceStatus decode) aggregator.peers)
    (distinct : aggregator.peers.Nodup) :
    (gathered aggregator call set).length = aggregator.peers.length := by
  have same := (gathered_peers aggregator call set distinct).length_eq
  rw [nodeIDs, List.length_map] at same
  exact same

/-- The entries made up for silent peers have no payload. -/
theorem gathered_spoken (set : ReplySet (sliceStatus decode) aggregator.peers)
    (spoken : Reply Data → Bool)
    (loud : ∀ reply, payload (sliceStatus decode) reply = none → spoken reply = false) :
    (gathered aggregator call set).countP spoken = set.replies.countP spoken := by
  have quiet : ((aggregator.peers.filter (fun node => node ∉ nodeIDs set.replies)).map
      (unreachable call : String → Reply Data)).countP spoken = 0 := by
    apply List.countP_eq_zero.2
    intro reply member
    rcases List.mem_map.1 member with ⟨node, _, same⟩
    rw [← same, loud _ rfl]
    decide
  rw [gathered, List.countP_append, quiet, Nat.add_zero]

variable (wired : Wired aggregator)

include wired

theorem broadcast_gathered (set : ReplySet (sliceStatus decode) aggregator.peers) :
    broadcast aggregator.connected call aggregator.peers
      (.delivers (set.replies.map .reply)) = .ok (gathered aggregator call set) := by
  have whole := aggregate_distinct call aggregator.peers set.replies set.distinct set.known
  simp only [broadcast, wired.connected, whole]
  rfl

theorem enriched_instances (set : ReplySet (sliceStatus decode) aggregator.peers) (view : View) :
    (enrichView decode aggregator call (.delivers (set.replies.map .reply)) view).instances =
      (gathered aggregator call set).map (entry decode) := by
  have open_ : ¬(!aggregator.connected || decide (aggregator.peers.length = 0)) = true := by
    simp [wired.connected, wired.asked]
  unfold enrichView
  rw [if_neg open_, collect, broadcast_gathered aggregator call wired set]
  simp [Except.map, View.instances, excludePrimary, stitch_instances, entry, Function.comp_def]

theorem timelines_gathered (set : ReplySet (sliceStatus decode) aggregator.peers) :
    peerTimelines decode aggregator call (.delivers (set.replies.map .reply)) =
      .ok ((gathered aggregator call set).map (peerTimeline decode)) := by
  have open_ : ¬(!aggregator.connected || decide (aggregator.peers.length = 0)) = true := by
    simp [wired.connected, wired.asked]
  unfold peerTimelines
  rw [if_neg open_, broadcast_gathered aggregator call wired set]
  rfl

end Gathered

end Consulting

/-! ## Verdicts on a cluster -/

section Verdicts

variable {Data : Type} {decode : Data → Option PeerSlice}
variable (aggregator : StatusAggregator)
variable (set : ReplySet (sliceStatus decode) aggregator.peers)
variable (consulted : Consultation Data)

/-- The set's replies come in, in some order, while the check runs. -/
def Delivered (set : ReplySet (sliceStatus decode) aggregator.peers)
    (consulted : Consultation Data) : Prop :=
  ∃ order : List (Reply Data),
    order.Perm set.replies ∧ consulted.exchange = .delivers (order.map .reply)

theorem gathered_reorder (call : Call) (order : List (Reply Data))
    (permuted : order.Perm set.replies) :
    (gathered aggregator call (set.reorder order permuted)).Perm
      (gathered aggregator call set) := by
  have missing : aggregator.peers.filter (fun node => node ∉ nodeIDs order) =
      aggregator.peers.filter (fun node => node ∉ nodeIDs set.replies) := by
    apply List.filter_congr
    intro node _
    exact decide_eq_decide.2 (not_congr (permuted.map _).mem_iff)
  change (order ++ (aggregator.peers.filter (fun node => node ∉ nodeIDs order)).map
    (unreachable call)).Perm _
  rw [missing]
  exact permuted.append_right _

/-- The instances a check sees are those of the set, in some order. -/
theorem consulted_instances (wired : Wired aggregator)
    (delivered : Delivered aggregator set consulted) (view : View)
    (read : consulted.status = .ok view) :
    ∃ enriched, (enrichedEngine decode (some aggregator) consulted).status = .ok enriched ∧
      enriched.instances.Perm
        ((gathered aggregator consulted.call set).map (entry decode)) := by
  rcases delivered with ⟨order, permuted, exchanged⟩
  refine ⟨enrichView decode aggregator consulted.call consulted.exchange view, ?_, ?_⟩
  · simp [enrichedEngine, read, Except.map]
  · have here := enriched_instances aggregator consulted.call wired
      (set.reorder order permuted) view
    rw [exchanged]
    apply (List.Perm.of_eq here).trans
    exact (gathered_reorder aggregator set consulted.call order permuted).map _

/-! A crashed primary that keeps its label and the WAL nobody else has, the new primary, and a
silent peer. -/

def sampleSlice (nodeID : String) (state : State) (divergence : Option TimelineDivergence) :
    Reply PeerSlice where
  version := 1
  requestID := "01J"
  nodeID := nodeID
  status := .statusOK
  data := some ⟨⟨nodeID, Role.primary.ordinal, state.ordinal, true, 7⟩, divergence⟩
  error := none
  respondedAt := 8

def sampleDivergence : TimelineDivergence := ⟨1, 0x3000148, 2, 0x3000060, "local", "n2", 5⟩

def sampleSet : ReplySet (sliceStatus some) sampleAggregator.peers where
  replies := [sampleSlice "n1" State.failed (some sampleDivergence),
    sampleSlice "n2" State.running none]
  distinct := by simp [sampleSlice, nodeIDs]
  known := by simp [sampleSlice, sampleAggregator, nodeIDs]
  named := by simp [sampleSlice]
  own := by simp [sampleSlice, payload, sliceStatus]

def sampleView : View where
  joinWindow := none
  promotionAuthorization := none
  status :=
    { clusterID := "prod", leaderNodeID := "n2", primaryNodeID := "", localNodeID := "n3"
      localRole := Role.standby, localState := State.running, instances := none
      syncStandbys := none, lastFailoverAt := 0, lastFailoverReason := "", joinWindow := none
      promotionAuthorization := none }
  identityMismatch := none
  timelineDivergence := none

/-- The second peer answers first. -/
def sampleConsultation : Consultation PeerSlice where
  status := .ok sampleView
  diagnose := .ok ⟨true, []⟩
  call := sampleCall
  exchange := .delivers (sampleSet.replies.reverse.map .reply)

theorem sample_wired : Wired sampleAggregator where
  connected := rfl
  asked := by simp [sampleAggregator]
  distinct := by simp [sampleAggregator]

theorem sample_delivered : Delivered sampleAggregator sampleSet sampleConsultation :=
  ⟨sampleSet.replies.reverse, List.reverse_perm _, rfl⟩

/-- What the checks that go over the instances say about a set of replies. -/
structure ReadsCluster (set : ReplySet (sliceStatus decode) aggregator.peers)
    (answers : Answers) : Prop where
  primary : (checkClusterHasPrimary answers).severity =
    if set.replies.countP (runningPrimary (sliceStatus decode)) = 1 then .pass else .fail
  quorum : (checkClusterQuorum answers).severity =
    if aggregator.peers.length < 2 * set.replies.countP (known decode) then .pass else .fail
  reachable : (checkNodesAllReachable answers).severity =
    if set.replies.countP (known decode) = aggregator.peers.length then .pass else .warn
  failed : (checkNodesNoFailedState answers).severity =
    if ∃ reply ∈ set.replies, answersFailed decode reply = true then .fail else .pass
  responding : (checkPostgresResponding answers).severity =
    if ∃ reply ∈ set.replies, answersDown decode reply = true then .fail else .pass
  lag : (checkReplicationLag answers).severity = .pass

/-- A count over the instances is the count over the set's replies. -/
theorem count_instances (call : Call) (instances : List WireInstance)
    (permuted : instances.Perm ((gathered aggregator call set).map (entry decode)))
    (test : WireInstance → Bool) (spoken : Reply Data → Bool)
    (same : ∀ reply, test (entry decode reply) = spoken reply)
    (loud : ∀ reply, payload (sliceStatus decode) reply = none → spoken reply = false) :
    instances.countP test = set.replies.countP spoken := by
  have tests : test ∘ entry decode = spoken := funext same
  rw [permuted.countP_eq, List.countP_map, tests, gathered_spoken aggregator call set spoken loud]

theorem none_iff_count {Item : Type} (items : List Item) (test : Item → Bool) :
    (∀ item ∈ items, test item = false) ↔ items.countP test = 0 := by
  rw [List.countP_eq_zero]
  simp only [Bool.not_eq_true]

theorem exists_iff_count {Item : Type} (items : List Item) (test : Item → Bool) :
    (∃ item ∈ items, test item = true) ↔ ¬items.countP test = 0 := by
  rw [← none_iff_count]
  push Not
  simp only [Bool.not_eq_false]

/-- Every order of arrival gives the same severities, and they are what the set says: one
running primary, a majority and the whole of the peers that know their state, no failed and no
stopped peer. The lag check passes whatever the standbys' lag is. -/
theorem severities_of_cluster (wired : Wired aggregator)
    (delivered : Delivered aggregator set consulted) (view : View)
    (read : consulted.status = .ok view) :
    ReadsCluster aggregator set (enrichedEngine decode (some aggregator) consulted) := by
  rcases consulted_instances aggregator set consulted wired delivered view read with
    ⟨enriched, seen, permuted⟩
  have count := count_instances aggregator set consulted.call enriched.instances permuted
  have total : enriched.instances.length = aggregator.peers.length := by
    rw [permuted.length_eq, List.length_map,
      gathered_length aggregator consulted.call set wired.distinct]
  have some : enriched.instances ≠ [] := by
    intro empty
    rw [empty] at total
    exact wired.asked (List.length_eq_zero_iff.1 total.symm)
  have reached := count reachable (known decode) (fun reply => (entry_reads decode reply).2.1)
    (fun reply silent => by simp [known, silent])
  constructor
  · rw [has_primary_severity _ enriched seen]
    rw [count activePrimary (runningPrimary (sliceStatus decode))
      (fun reply => (entry_reads decode reply).1)
      (fun reply silent => by simp [runningPrimary, silent])]
  · rw [quorum_severity _ enriched seen, if_neg some, total, reached]
  · rw [checkNodesAllReachable, list_nodes_severity _ enriched seen]
    have complement := enriched.instances.length_eq_countP_add_countP reachable
    have other : enriched.instances.countP (fun inst => ¬reachable inst = true) =
        enriched.instances.countP (fun inst => inst.state = State.unknown) := by
      simp [reachable]
    rw [total, reached, other] at complement
    simp only [none_iff_count]
    congr 1
    apply propext
    omega
  · rw [checkNodesNoFailedState, list_nodes_severity _ enriched seen]
    simp only [none_iff_count, exists_iff_count]
    rw [count _ (answersFailed decode) (fun reply => (entry_reads decode reply).2.2.1)
      (fun reply silent => by simp [answersFailed, silent])]
    rw [ite_not]
  · rw [checkPostgresResponding, list_nodes_severity _ enriched seen]
    simp only [none_iff_count, exists_iff_count]
    rw [count _ (answersDown decode) (fun reply => (entry_reads decode reply).2.2.2.1)
      (fun reply silent => by simp [answersDown, silent])]
    rw [ite_not]
  · have still : ∀ inst ∈ enriched.instances, inst.lagBytes = 0 := by
      intro inst member
      rcases List.mem_map.1 (permuted.mem_iff.1 member) with ⟨reply, _, same⟩
      rw [← same]
      exact (entry_reads decode reply).2.2.2.2
    rw [lag_severity _ enriched seen, if_neg, if_neg]
    · intro lagging
      rcases lagging with ⟨inst, member, lags⟩
      simp [lagsWarn, still inst member, replicationLagWarnBytes] at lags
    · intro lagging
      rcases lagging with ⟨inst, member, lags⟩
      simp [lagsFail, still inst member, replicationLagFailBytes] at lags

theorem crashed_primary_not_counted :
    ReadsCluster sampleAggregator sampleSet
        (enrichedEngine some (some sampleAggregator) sampleConsultation) ∧
      sampleSet.replies.countP (runningPrimary (sliceStatus some)) = 1 := by
  refine ⟨severities_of_cluster sampleAggregator sampleSet sampleConsultation sample_wired
    sample_delivered sampleView rfl, ?_⟩
  decide

theorem reported_timeline (reply : Reply Data) :
    reported (peerTimeline decode reply) =
      (divergenceOf decode reply).map (fun found =>
        ((peerReply (sliceStatus decode) reply).nodeID, found)) := by
  unfold reported peerTimeline
  dsimp only
  cases found : divergenceOf decode reply with
  | none => simp
  | some divergence =>
      have spoken : (peerReply (sliceStatus decode) reply).status.isSome = true := by
        unfold divergenceOf at found
        split at found
        · rename_i ok
          rcases Option.bind_eq_some_iff.1 found with ⟨slice, decoded, -⟩
          rcases Option.bind_eq_some_iff.1 decoded with ⟨data, given, read⟩
          simp [peerReply, payload, ok, given, sliceStatus, read]
        · cases found
      rw [if_pos spoken]

/-- A reply's timeline entry is under the name of the peer that sent it. -/
theorem timeline_named (reply : Reply Data) (own : ∀ status,
    payload (sliceStatus decode) reply = some status → status.nodeID = reply.nodeID) :
    (peerReply (sliceStatus decode) reply).nodeID = reply.nodeID := by
  unfold peerReply
  cases found : payload (sliceStatus decode) reply with
  | none => rfl
  | some status =>
      dsimp only
      rw [own status found, ite_self]

theorem timelines_named (call : Call) (wired : Wired aggregator) :
    (((gathered aggregator call set).map (peerTimeline decode)).map PeerTimeline.nodeID).Nodup := by
  have same : ((gathered aggregator call set).map (peerTimeline decode)).map
      PeerTimeline.nodeID = nodeIDs (gathered aggregator call set) := by
    rw [List.map_map]
    apply List.map_congr_left
    intro reply member
    apply timeline_named
    rcases List.mem_append.1 member with heard | silent
    · exact set.own reply heard
    · intro status spoken
      rcases List.mem_map.1 silent with ⟨node, _, made⟩
      rw [← made] at spoken
      cases spoken
  rw [same]
  exact (gathered_peers aggregator call set wired.distinct).nodup_iff.2 wired.distinct

theorem gathered_timelines (call other : Call) :
    (gathered aggregator call set).map (peerTimeline decode) =
      (gathered aggregator other set).map (peerTimeline decode) := by
  simp only [gathered, List.map_append, List.map_map]
  rfl

/-- Reports under distinct names have one sorted order. -/
theorem sorted_timelines (first second : List PeerTimeline) (permuted : first.Perm second)
    (distinct : (second.map PeerTimeline.nodeID).Nodup) :
    first.insertionSort (fun left right => left.nodeID ≤ right.nodeID) =
      second.insertionSort (fun left right => left.nodeID ≤ right.nodeID) := by
  have spread := (List.perm_insertionSort (fun left right : PeerTimeline =>
    left.nodeID ≤ right.nodeID) first).trans (permuted.trans
      (List.perm_insertionSort (fun left right : PeerTimeline =>
        left.nodeID ≤ right.nodeID) second).symm)
  apply spread.eq_of_pairwise _ (List.pairwise_insertionSort _ _)
    (List.pairwise_insertionSort _ _)
  intro left right leftMember rightMember before after
  have sameName := le_antisymm before after
  rw [List.mem_insertionSort] at leftMember rightMember
  exact List.inj_on_of_nodup_map distinct (permuted.mem_iff.1 leftMember) rightMember sameName

theorem consulted_timelines (wired : Wired aggregator)
    (delivered : Delivered aggregator set consulted) :
    ∃ peers, (enrichedEngine decode (some aggregator) consulted).timelines = .ok peers ∧
      peers.Perm ((gathered aggregator consulted.call set).map (peerTimeline decode)) := by
  rcases delivered with ⟨order, permuted, exchanged⟩
  refine ⟨(gathered aggregator consulted.call (set.reorder order permuted)).map
    (peerTimeline decode), ?_, ?_⟩
  · change peerTimelines decode aggregator consulted.call consulted.exchange = _
    rw [exchanged]
    exact timelines_gathered aggregator consulted.call wired (set.reorder order permuted)
  · exact (gathered_reorder aggregator set consulted.call order permuted).map _

/-- The check depends on its answers through the sorted reports. -/
theorem timeline_finding (texts : Texts) (one other : Answers) (first second : List PeerTimeline)
    (readOne : one.timelines = .ok first) (readOther : other.timelines = .ok second)
    (same : first.insertionSort (fun left right => left.nodeID ≤ right.nodeID) =
      second.insertionSort (fun left right => left.nodeID ≤ right.nodeID)) :
    checkTimelineConsistent texts one = checkTimelineConsistent texts other := by
  unfold checkTimelineConsistent
  rw [readOne, readOther]
  dsimp only
  rw [same]

/-- A report is spelled out in the message. -/
theorem timeline_message (texts : Texts) (answers : Answers) (peers : List PeerTimeline)
    (read : answers.timelines = .ok peers) (peer : PeerTimeline) (member : peer ∈ peers)
    (found : NodeID × TimelineDivergence) (tells : reported peer = some found) :
    (divergedDetail found.1 found.2).toList <:+:
      (checkTimelineConsistent texts answers).message.toList := by
  have listed : found ∈ (peers.insertionSort
      (fun left right => left.nodeID ≤ right.nodeID)).filterMap reported :=
    List.mem_filterMap.2 ⟨peer, (List.mem_insertionSort _).2 member, tells⟩
  have some := List.length_pos_of_mem listed
  unfold checkTimelineConsistent
  rw [read]
  dsimp only
  rw [List.length_map, if_pos some, String.toList_intercalate, List.map_map]
  apply infix_intercalate
  exact List.mem_map.2 ⟨found, listed, rfl⟩

/-- Every order of arrival gives the same finding, to the letter. It fails exactly if some peer
answers with a divergence, and its message spells out every such answer. -/
theorem timeline_check_of_cluster (texts : Texts) (wired : Wired aggregator)
    (delivered : Delivered aggregator set consulted) (again : Consultation Data)
    (redelivered : Delivered aggregator set again) :
    checkTimelineConsistent texts (enrichedEngine decode (some aggregator) again) =
        checkTimelineConsistent texts (enrichedEngine decode (some aggregator) consulted) ∧
      (checkTimelineConsistent texts
          (enrichedEngine decode (some aggregator) consulted)).severity =
        (if ∃ reply ∈ set.replies, (divergenceOf decode reply).isSome = true then .fail
        else .pass) ∧
      ∀ reply ∈ set.replies, ∀ found, divergenceOf decode reply = some found →
        (divergedDetail reply.nodeID found).toList <:+:
          (checkTimelineConsistent texts
            (enrichedEngine decode (some aggregator) consulted)).message.toList := by
  rcases consulted_timelines aggregator set consulted wired delivered with
    ⟨peers, read, permuted⟩
  rcases consulted_timelines aggregator set again wired redelivered with
    ⟨others, readAgain, permutedAgain⟩
  rw [gathered_timelines aggregator set again.call consulted.call] at permutedAgain
  have distinct := timelines_named aggregator set consulted.call wired
  refine ⟨?_, ?_, ?_⟩
  · apply timeline_finding texts _ _ others peers readAgain read
    rw [sorted_timelines others _ permutedAgain distinct,
      sorted_timelines peers _ permuted distinct]
  · rw [timeline_severity texts _ peers read]
    congr 1
    apply propext
    constructor
    · intro found
      rcases found with ⟨peer, member, tells⟩
      rcases List.mem_map.1 (permuted.mem_iff.1 member) with ⟨reply, inside, same⟩
      rw [← same, reported_timeline, Option.isSome_map] at tells
      rcases List.mem_append.1 inside with heard | silent
      · exact ⟨reply, heard, tells⟩
      · rcases List.mem_map.1 silent with ⟨node, _, made⟩
        rw [← made] at tells
        cases tells
    · intro found
      rcases found with ⟨reply, heard, tells⟩
      refine ⟨peerTimeline decode reply, ?_, ?_⟩
      · exact permuted.mem_iff.2 (List.mem_map_of_mem (List.mem_append_left _ heard))
      · rw [reported_timeline, Option.isSome_map]
        exact tells
  · intro reply heard found tells
    have member : peerTimeline decode reply ∈ peers :=
      permuted.mem_iff.2 (List.mem_map_of_mem (List.mem_append_left _ heard))
    have named := timeline_named reply (set.own reply heard)
    have spelled := timeline_message texts _ peers read _ member (reply.nodeID, found)
    apply spelled
    rw [reported_timeline, tells, named]
    rfl

theorem crashed_primary_diverged :
    (checkTimelineConsistent ⟨toString, 0, fun _ => "", toString⟩
      (enrichedEngine some (some sampleAggregator) sampleConsultation)).severity = .fail := by
  rw [(timeline_check_of_cluster sampleAggregator sampleSet sampleConsultation _ sample_wired
    sample_delivered sampleConsultation sample_delivered).2.1]
  apply if_pos
  exact ⟨sampleSlice "n1" State.failed (some sampleDivergence), List.mem_cons_self, rfl⟩

end Verdicts

end PgmanProxy.Control.DoctorCluster
