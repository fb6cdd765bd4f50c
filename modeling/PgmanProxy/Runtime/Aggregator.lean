import PgmanProxy.Fanout.Client
import PgmanProxy.Library.FirstMatch
import PgmanProxy.PgManager

/-!
# The status aggregator

`EnrichStatus` asks every peer for its own status over the fan-out and stitches
the replies into the snapshot `GET /v1/status` returns: one instance entry per
reply, the primary's node id and the synchronous pool without the primary.
-/

namespace PgmanProxy.Runtime.Aggregator

open PgmanProxy.Fanout.Client
open PgmanProxy.Library.FirstMatch
open PgmanProxy.PgManager

set_option autoImplicit false

/-- `peerSliceStatus`: a peer's payload. A zero `timestamp` is Go's zero time. -/
structure PeerSliceStatus where
  nodeID : String
  role : Int
  state : Int
  reachable : Bool
  timestamp : Nat
deriving DecidableEq, Repr

/-- `peerReply`; `status` is `none` when the source's `ok` is false. -/
structure PeerReply where
  nodeID : String
  respondedAt : Nat
  status : Option PeerSliceStatus
deriving DecidableEq, Repr

/-- `statusAggregator`; `connected` is false when there is no usable client. -/
structure StatusAggregator where
  connected : Bool
  peers : List String
deriving DecidableEq, Repr

section Decoding

variable {Data : Type} (decode : Data → Option PeerSliceStatus)

/-- The payload of an `ok` reply that carries decodable data. -/
def payload (reply : Reply Data) : Option PeerSliceStatus :=
  if reply.status = .statusOK then reply.data.bind decode else none

def peerReply (reply : Reply Data) : PeerReply :=
  match payload decode reply with
  | some status =>
      ⟨if status.nodeID ≠ "" then status.nodeID else reply.nodeID, reply.respondedAt, some status⟩
  | none => ⟨reply.nodeID, reply.respondedAt, none⟩

def collect (aggregator : StatusAggregator) (call : Call) (exchange : Exchange Data) :
    Except String (List PeerReply) :=
  (broadcast aggregator.connected call aggregator.peers exchange).map
    (fun replies => replies.map (peerReply decode))

def postgresUp (status : PeerSliceStatus) : Bool :=
  status.reachable && State.mk status.state != State.failed &&
    State.mk status.state != State.stopped && State.mk status.state != State.unknown

def instanceOf (reply : PeerReply) : InstanceStatus :=
  match reply.status with
  | some status =>
      { nodeID := reply.nodeID
        role := ⟨status.role⟩
        state := ⟨status.state⟩
        postgresUp := postgresUp status
        lastSeenAt := if status.timestamp ≠ 0 then status.timestamp else reply.respondedAt }
  | none =>
      { nodeID := reply.nodeID
        role := Role.unknown
        state := State.unknown
        postgresUp := false
        lastSeenAt := reply.respondedAt }

/-- What one reply does to `out.PrimaryNodeID`. -/
def notePrimary (primary : NodeID) (reply : PeerReply) : NodeID :=
  match reply.status with
  | some status =>
      if Role.mk status.role = Role.primary ∧ primary = "" then status.nodeID else primary
  | none => primary

/-- The loop over the replies. -/
def stitch : Status → List PeerReply → Status
  | out, [] => out
  | out, reply :: replies =>
      stitch
        { out with
          instances := out.instances ++ [instanceOf reply]
          primaryNodeID := notePrimary out.primaryNodeID reply }
        replies

/-- The pool-minus-primary filter. -/
def excludePrimary (out : Status) : Status :=
  { out with
    syncStandbys :=
      if out.primaryNodeID ≠ "" ∧ out.syncStandbys.length > 0 then
        out.syncStandbys.filter (fun node => node ≠ out.primaryNodeID)
      else out.syncStandbys }

def enrichStatus (aggregator : StatusAggregator) (call : Call) (exchange : Exchange Data)
    (reported : Status) : Status :=
  if !aggregator.connected || aggregator.peers.length = 0 then reported
  else
    match collect decode aggregator call exchange with
    | .error _ => reported
    | .ok replies => excludePrimary (stitch { reported with instances := [] } replies)

/-! ## What the loop leaves in the primary field -/

def labelledPrimary (reply : Reply Data) : Bool :=
  match payload decode reply with
  | some status => decide (Role.mk status.role = Role.primary)
  | none => false

/-- The reply's own peer runs as primary and its Postgres is up. -/
def runningPrimary (reply : Reply Data) : Bool :=
  match payload decode reply with
  | some status =>
      decide (Role.mk status.role = Role.primary) &&
        decide (State.mk status.state = State.running) && postgresUp status
  | none => false

theorem running_primary_labelled (reply : Reply Data)
    (running : runningPrimary decode reply = true) : labelledPrimary decode reply = true := by
  cases found : payload decode reply with
  | none =>
      rw [runningPrimary, found] at running
      exact absurd running (by decide)
  | some status =>
      rw [runningPrimary, found] at running
      rw [labelledPrimary, found]
      simp only [Bool.and_eq_true] at running
      exact running.1.1

theorem stitch_sync_standbys (out : Status) (replies : List PeerReply) :
    (stitch out replies).syncStandbys = out.syncStandbys := by
  induction replies generalizing out with
  | nil => rfl
  | cons reply replies ih => rw [stitch, ih]

theorem stitch_primary (out : Status) (replies : List PeerReply) :
    (stitch out replies).primaryNodeID = replies.foldl notePrimary out.primaryNodeID := by
  induction replies generalizing out with
  | nil => rfl
  | cons reply replies ih => rw [stitch, ih, List.foldl_cons]

theorem note_primary_taken (primary : NodeID) (taken : primary ≠ "")
    (replies : List PeerReply) : replies.foldl notePrimary primary = primary := by
  induction replies with
  | nil => rfl
  | cons reply replies ih =>
      have kept : notePrimary primary reply = primary := by
        unfold notePrimary
        split
        · rw [if_neg (fun both => taken both.2)]
        · rfl
      rw [List.foldl_cons, kept, ih]

/-! ## Sets of replies

Each peer answers at most once and for itself, so a set of replies has distinct,
expected node ids, and a payload names the node that sent it.
-/

structure ReplySet (peers : List String) where
  replies : List (Reply Data)
  distinct : (nodeIDs replies).Nodup
  known : nodeIDs replies ⊆ peers
  named : ∀ reply ∈ replies, reply.nodeID ≠ ""
  own : ∀ reply ∈ replies, ∀ status, payload decode reply = some status →
    status.nodeID = reply.nodeID

variable {decode}

/-- The same replies in another order of arrival. -/
def ReplySet.reorder {peers : List String} (set : ReplySet decode peers)
    (order : List (Reply Data)) (permuted : order.Perm set.replies) : ReplySet decode peers where
  replies := order
  distinct := (permuted.map _).nodup_iff.2 set.distinct
  known := fun _ member => set.known ((permuted.map _).mem_iff.1 member)
  named := fun reply member => set.named reply (permuted.mem_iff.1 member)
  own := fun reply member => set.own reply (permuted.mem_iff.1 member)

/-- The first reply labelled primary decides the field. -/
theorem fold_note_primary (replies : List (Reply Data))
    (named : ∀ reply ∈ replies, reply.nodeID ≠ "")
    (own : ∀ reply ∈ replies, ∀ status, payload decode reply = some status →
      status.nodeID = reply.nodeID) :
    (replies.map (peerReply decode)).foldl notePrimary "" =
      ((replies.find? (labelledPrimary decode)).map (fun reply => reply.nodeID)).getD "" := by
  induction replies with
  | nil => rfl
  | cons reply replies ih =>
      have rest := ih (fun other member => named other (List.mem_cons_of_mem _ member))
        (fun other member => own other (List.mem_cons_of_mem _ member))
      rw [List.map_cons, List.foldl_cons]
      by_cases label : labelledPrimary decode reply = true
      · have noted : notePrimary "" (peerReply decode reply) = reply.nodeID := by
          cases found : payload decode reply with
          | none => simp [labelledPrimary, found] at label
          | some status =>
              have sender := own reply List.mem_cons_self status found
              rw [labelledPrimary, found, decide_eq_true_eq] at label
              simp [peerReply, found, notePrimary, label, sender]
        rw [List.find?_cons_of_pos label, noted]
        exact note_primary_taken reply.nodeID (named reply List.mem_cons_self) _
      · have ignored : notePrimary "" (peerReply decode reply) = "" := by
          cases found : payload decode reply with
          | none => simp [peerReply, found, notePrimary]
          | some status =>
              rw [labelledPrimary, found, decide_eq_true_eq] at label
              simp [peerReply, found, notePrimary, label]
        rw [List.find?_cons_of_neg label, ignored, rest]

/-- Entries made up for silent peers never name a primary. -/
theorem fold_unreachable (call : Call) (primary : NodeID) (silent : List String) :
    ((silent.map (unreachable call : String → Reply Data)).map (peerReply decode)).foldl
      notePrimary primary = primary := by
  induction silent with
  | nil => rfl
  | cons node silent ih =>
      rw [List.map_cons, List.map_cons, List.foldl_cons]
      exact ih

section Enrichment

variable (aggregator : StatusAggregator) (call : Call) (reported : Status)

/-- The status served when the set's replies arrive in the order it lists them. -/
def served (set : ReplySet decode aggregator.peers) : Status :=
  enrichStatus decode aggregator call (.delivers (set.replies.map .reply)) reported

/-- With a usable client and peers to ask, the loop runs over the set's replies and
then over the entries made up for the silent peers. -/
theorem served_stitched (connected : aggregator.connected = true)
    (asked : aggregator.peers ≠ []) (set : ReplySet decode aggregator.peers) :
    ∃ silent : List String,
      served aggregator call reported set =
        excludePrimary (stitch { reported with instances := [] }
          ((set.replies ++ silent.map (unreachable call)).map (peerReply decode))) := by
  refine ⟨aggregator.peers.filter (fun node => node ∉ nodeIDs set.replies), ?_⟩
  have gathered := aggregate_distinct call aggregator.peers set.replies set.distinct set.known
  rw [← gathered]
  simp [served, enrichStatus, collect, broadcast, connected, asked, Except.map]

theorem served_unasked (nobody : aggregator.peers = []) (set : ReplySet decode aggregator.peers) :
    served aggregator call reported set = reported := by
  simp [served, enrichStatus, nobody]

theorem served_primary (connected : aggregator.connected = true)
    (unset : reported.primaryNodeID = "") (set : ReplySet decode aggregator.peers) :
    (served aggregator call reported set).primaryNodeID =
      ((set.replies.find? (labelledPrimary decode)).map (fun reply => reply.nodeID)).getD "" := by
  by_cases nobody : aggregator.peers = []
  · have silent : set.replies = [] := by
      have unheard : ∀ node, node ∉ nodeIDs set.replies := by
        intro node member
        have expected := set.known member
        rw [nobody] at expected
        exact List.not_mem_nil expected
      exact List.map_eq_nil_iff.1 (List.eq_nil_iff_forall_not_mem.2 unheard)
    rw [served_unasked aggregator call reported nobody set, unset, silent]
    rfl
  · obtain ⟨silent, shape⟩ := served_stitched aggregator call reported connected nobody set
    rw [shape, excludePrimary, stitch_primary, unset, List.map_append, List.foldl_append,
      fold_note_primary set.replies set.named set.own, fold_unreachable]

/-- The pool filter reads nothing of the replies but the primary. -/
theorem served_sync_standbys (connected : aggregator.connected = true)
    (unset : reported.primaryNodeID = "") (set : ReplySet decode aggregator.peers) :
    (served aggregator call reported set).syncStandbys =
      (excludePrimary { reported with
        primaryNodeID := (served aggregator call reported set).primaryNodeID }).syncStandbys := by
  by_cases nobody : aggregator.peers = []
  · rw [served_unasked aggregator call reported nobody set]
    simp [excludePrimary, unset]
  · obtain ⟨silent, shape⟩ := served_stitched aggregator call reported connected nobody set
    simp only [shape, excludePrimary, stitch_sync_standbys]

/-- Every order of arrival gives the same primary and the same synchronous pool. -/
def OrderFree (set : ReplySet decode aggregator.peers) : Prop :=
  ∀ first second (left : first.Perm set.replies) (right : second.Perm set.replies),
    (served aggregator call reported (set.reorder first left)).primaryNodeID =
        (served aggregator call reported (set.reorder second right)).primaryNodeID ∧
      (served aggregator call reported (set.reorder first left)).syncStandbys =
        (served aggregator call reported (set.reorder second right)).syncStandbys

/-- A single running primary is the one reported, in every order of arrival. -/
def FindsRunningPrimary (set : ReplySet decode aggregator.peers) : Prop :=
  ∀ peer ∈ set.replies, runningPrimary decode peer = true →
    (∀ other ∈ set.replies, runningPrimary decode other = true → other = peer) →
    ∀ order (permuted : order.Perm set.replies),
      (served aggregator call reported (set.reorder order permuted)).primaryNodeID = peer.nodeID

theorem order_free_iff (connected : aggregator.connected = true)
    (unset : reported.primaryNodeID = "") (set : ReplySet decode aggregator.peers) :
    OrderFree aggregator call reported set ↔
      AtMostOne (labelledPrimary decode) set.replies := by
  constructor
  · intro free first firstMember second secondMember firstLabel secondLabel
    obtain ⟨early, earlyOrder, earlyFound⟩ :=
      find_first_in_some_order (labelledPrimary decode) set.replies first firstMember firstLabel
    obtain ⟨late, lateOrder, lateFound⟩ :=
      find_first_in_some_order (labelledPrimary decode) set.replies second secondMember secondLabel
    have same := (free early late earlyOrder lateOrder).1
    rw [served_primary aggregator call reported connected unset,
      served_primary aggregator call reported connected unset] at same
    simp only [ReplySet.reorder, earlyFound, lateFound, Option.map_some, Option.getD_some] at same
    exact List.inj_on_of_nodup_map set.distinct firstMember secondMember same
  · intro unique first second left right
    have same : (served aggregator call reported (set.reorder first left)).primaryNodeID =
        (served aggregator call reported (set.reorder second right)).primaryNodeID := by
      rw [served_primary aggregator call reported connected unset,
        served_primary aggregator call reported connected unset]
      simp only [ReplySet.reorder, find_perm_of_unique _ _ _ left unique,
        find_perm_of_unique _ _ _ right unique]
    refine ⟨same, ?_⟩
    rw [served_sync_standbys aggregator call reported connected unset,
      served_sync_standbys aggregator call reported connected unset, same]

theorem unique_label_finds_running_primary (connected : aggregator.connected = true)
    (unset : reported.primaryNodeID = "") (set : ReplySet decode aggregator.peers)
    (unique : AtMostOne (labelledPrimary decode) set.replies) :
    FindsRunningPrimary aggregator call reported set := by
  intro peer member running _ order permuted
  have label := running_primary_labelled decode peer running
  have found : order.find? (labelledPrimary decode) = some peer :=
    find_eq_of_unique (labelledPrimary decode) order peer (permuted.mem_iff.2 member) label
      (at_most_one_perm (labelledPrimary decode) order set.replies permuted unique)
  rw [served_primary aggregator call reported connected unset]
  simp only [ReplySet.reorder, found, Option.map_some, Option.getD_some]

end Enrichment

end Decoding

/-! ## Two primary labels

A crashed primary keeps its label until it rejoins, next to the new primary's.
-/

def sampleReply (nodeID : String) (role : Role) (state : State) : Reply PeerSliceStatus where
  version := 1
  requestID := "01J"
  nodeID := nodeID
  status := .statusOK
  data := some ⟨nodeID, role.ordinal, state.ordinal, true, 7⟩
  error := none
  respondedAt := 8

def sampleAggregator : StatusAggregator := ⟨true, ["n1", "n2", "n3"]⟩

def sampleCall : Call := ⟨"01J", "750ms", 9⟩

def sampleStatus : Status where
  clusterID := "prod"
  localNodeID := "n3"
  localRole := Role.standby
  localState := State.running
  leaderNodeID := "n2"
  primaryNodeID := ""
  instances := []
  syncStandbys := ["n1", "n2", "n3"]

def sampleReplies (crashed : Role) : ReplySet some sampleAggregator.peers where
  replies :=
    [sampleReply "n1" crashed State.failed, sampleReply "n2" Role.primary State.running,
      sampleReply "n3" Role.standby State.running]
  distinct := by simp [sampleReply, nodeIDs]
  known := by simp [sampleReply, sampleAggregator, nodeIDs]
  named := by simp [sampleReply]
  own := by simp [sampleReply, payload]

/-- The enriched status is independent of reply timing exactly when at most one reply
is labelled primary. -/
theorem status_timing_free_iff_single_label {Data : Type} {decode : Data → Option PeerSliceStatus}
    (aggregator : StatusAggregator) (call : Call) (reported : Status)
    (connected : aggregator.connected = true) (unset : reported.primaryNodeID = "")
    (set : ReplySet decode aggregator.peers) :
    (OrderFree aggregator call reported set ∧ FindsRunningPrimary aggregator call reported set) ↔
      AtMostOne (labelledPrimary decode) set.replies := by
  constructor
  · rintro ⟨free, -⟩
    exact (order_free_iff aggregator call reported connected unset set).1 free
  · intro unique
    exact ⟨(order_free_iff aggregator call reported connected unset set).2 unique,
      unique_label_finds_running_primary aggregator call reported connected unset set unique⟩

theorem relabelled_crash_timing_free :
    OrderFree sampleAggregator sampleCall sampleStatus (sampleReplies Role.standby) ∧
      FindsRunningPrimary sampleAggregator sampleCall sampleStatus
        (sampleReplies Role.standby) := by
  have single : AtMostOne (labelledPrimary some) (sampleReplies Role.standby).replies := by
    simp [AtMostOne, sampleReplies, sampleReply, labelledPrimary, payload, Role.standby,
      Role.primary]
  exact (status_timing_free_iff_single_label sampleAggregator sampleCall sampleStatus rfl rfl
    (sampleReplies Role.standby)).2 single

/-- The status as served when the crashed ex-primary `n1` answers first. -/
def crashedFirst : Status :=
  served sampleAggregator sampleCall sampleStatus (sampleReplies Role.primary)

/-- The same replies in the opposite order of arrival. -/
def crashedLast : Status :=
  served sampleAggregator sampleCall sampleStatus
    ((sampleReplies Role.primary).reorder (sampleReplies Role.primary).replies.reverse
      (List.reverse_perm _))

theorem crashed_primary_reported_when_first :
    (crashedFirst.primaryNodeID = "n1" ∧ crashedFirst.syncStandbys = ["n2", "n3"]) ∧
      (crashedLast.primaryNodeID = "n2" ∧ crashedLast.syncStandbys = ["n1", "n3"]) ∧
      (sampleReplies Role.primary).replies.filter (runningPrimary some) =
        [sampleReply "n2" Role.primary State.running] := by
  decide

end PgmanProxy.Runtime.Aggregator
