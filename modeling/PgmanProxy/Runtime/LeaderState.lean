import PgmanProxy.Control.AuditGate

/-!
# The leadership check of a running peer

`managerLeaderState` answers the control plane's leadership questions from the
local manager's status. The check itself looks at the role label, the leader id
at the leadership record; this module says when the two agree well enough for
leader-only operations to stay on the leader.
-/

namespace PgmanProxy.Runtime.LeaderState

open PgmanProxy.PgManager PgmanProxy.Control.Wire PgmanProxy.Control.AuditSinks
open PgmanProxy.Control.Requests PgmanProxy.Control.Handlers PgmanProxy.Control.Wrap
open PgmanProxy.Control.LeaderRoute PgmanProxy.Control.Forwarding PgmanProxy.Control.AuditGate

set_option autoImplicit false

/-- The local manager's answer to `Status`. -/
abbrev LocalStatus := Except String Status

def isLeader (status : LocalStatus) : Bool :=
  match status with
  | .error _ => false
  | .ok st => st.localRole = .primary

def leaderID (status : LocalStatus) : String :=
  match status with
  | .error _ => ""
  | .ok st => st.leaderNodeID

/-- The library does not expose peer control-plane addresses. -/
def leaderAddr (_status : LocalStatus) : String := ""

def managerLeaderState (status : LocalStatus) : LeaderView :=
  ⟨isLeader status, leaderID status, leaderAddr status⟩

/-- The peer's own status names it as the leader. -/
def NamedLeader (nodeID : NodeID) (status : LocalStatus) : Prop :=
  ∃ st, status = .ok st ∧ st.leaderNodeID = nodeID

/-- Every leader-only operation the peer executes, whether it came over HTTP or as a
forwarded message, finds the peer named as the leader. -/
def LeaderOnlyConfined (peer : Peer) (status : LocalStatus) : Prop :=
  (∀ (audit : Audit) (op : LeaderOp) (moment : Moment) (request : Request),
      moment.leader = managerLeaderState status →
      (wrap peer.server audit op.op moment request).calls ≠ [] →
      NamedLeader peer.server.nodeID status) ∧
    ∀ (audit : Audit) (op : LeaderOp) (turn : Turn) (message : Message),
      dispatch (managerLeaderState status).isLeader message = some op →
      (handle peer.responder audit op turn message).calls ≠ [] →
      NamedLeader peer.server.nodeID status

/-- A peer that carries the primary label is the one its leadership record names. -/
def LabelMatchesRecord (peer : Peer) (status : LocalStatus) : Prop :=
  ∀ st, status = .ok st → st.localRole = .primary → st.leaderNodeID = peer.server.nodeID

theorem is_leader_primary (status : LocalStatus) (leads : isLeader status = true) :
    ∃ st, status = .ok st ∧ st.localRole = .primary := by
  cases status with
  | error text => cases leads
  | ok st => exact ⟨st, rfl, by simpa [isLeader] using leads⟩

theorem label_names_leader (peer : Peer) (status : LocalStatus)
    (matched : LabelMatchesRecord peer status) (leads : isLeader status = true) :
    NamedLeader peer.server.nodeID status := by
  obtain ⟨st, known, primary⟩ := is_leader_primary status leads
  exact ⟨st, known, matched st known primary⟩

/-- A leader-only request makes an engine call only where the check holds. -/
theorem wrap_leader_op_calls (server : Server) (audit : Audit) (op : LeaderOp)
    (moment : Moment) (request : Request)
    (calls : (wrap server audit op.op moment request).calls ≠ []) :
    moment.leader.isLeader = true := by
  simp only [wrap, serve] at calls
  cases admitted : admission server audit op.op moment request with
  | refuse actor code message => simp [admitted] at calls
  | redirect actor location => simp [admitted] at calls
  | handle env =>
      obtain ⟨_, _, forwarded, _⟩ := admission_handle _ _ _ _ _ _ admitted
      cases leads : moment.leader.isLeader with
      | true => rfl
      | false =>
          simp only [leads, leader_op_leader_only, Bool.not_false, Bool.and_true] at forwarded
          simp only [admitted, handler_func_leader_op, handleLeaderOp, forwarded, if_true,
            forwardEngineCall] at calls
          split at calls <;> exact absurd rfl calls

/-- A forwarded failover that any peer whose check holds executes. -/
theorem forwarded_failover_executes (peer : Peer) (status : LocalStatus)
    (leads : isLeader status = true) :
    ∃ message, dispatch (managerLeaderState status).isLeader message = some .failover ∧
      (handle peer.responder reliableAudit .failover (sampleTurn obedientEngine)
        message).calls ≠ [] := by
  refine ⟨forwardMessage peer.server failoverRequest ⟨.failover, "01J", "bearer:s3cret", true⟩,
    ?_, ?_⟩
  · simp only [managerLeaderState, leads]
    exact forward_message_dispatched peer.server failoverRequest _ .failover rfl
  · rw [handle_healthy _ _ _ _ _ rfl]
    exact List.cons_ne_nil EngineCall.failover []

/-- For every assignment of statuses to the peers of a cluster, leader-only operations
stay on the named leader exactly when no peer carries the primary label while its
leadership record names another node, or none. -/
theorem leader_only_confined_iff_label_matches {Node : Type} (peers : Node → Peer)
    (statuses : Node → LocalStatus) :
    (∀ node, LeaderOnlyConfined (peers node) (statuses node)) ↔
      ∀ node, LabelMatchesRecord (peers node) (statuses node) := by
  constructor
  · intro confined node st known primary
    have leads : isLeader (statuses node) = true := by simp [known, isLeader, primary]
    obtain ⟨message, dispatched, calls⟩ :=
      forwarded_failover_executes (peers node) (statuses node) leads
    obtain ⟨named, same, names⟩ := (confined node).2 _ _ _ _ dispatched calls
    rw [known] at same
    cases same
    exact names
  · intro matched node
    constructor
    · intro audit op moment request view calls
      have leads := wrap_leader_op_calls _ audit op moment request calls
      rw [view] at leads
      exact label_names_leader _ _ (matched node) leads
    · intro audit op turn message dispatched _
      exact label_names_leader _ _ (matched node) (dispatch_some_is_leader _ _ _ dispatched)

/-- A node's status after the cluster elected `n2`. -/
def statusAfterFailover (nodeID : NodeID) (state : State) : Status where
  clusterID := "prod"
  localNodeID := nodeID
  localRole := .primary
  localState := state
  leaderNodeID := "n2"
  primaryNodeID := ""
  instances := []
  syncStandbys := []

/-- `n1` crashed as primary and keeps the label; `n2` is the new leader. -/
def afterFailover : Bool → LocalStatus
  | false => .ok (statusAfterFailover "n1" .failed)
  | true => .ok (statusAfterFailover "n2" .running)

/-- Both statuses name `n2`, yet `n1` executes a failover sent to it. -/
theorem crashed_primary_executes_failover :
    (∀ node, leaderID (afterFailover node) = "n2") ∧
      (wrap (sampleServer "n1") reliableAudit .failover
        { sampleMoment true obedientEngine (fun _ => .error .leaderRouteTimeout) with
          leader := managerLeaderState (afterFailover false) } failoverRequest).calls ≠ [] ∧
      ¬NamedLeader "n1" (afterFailover false) := by
  refine ⟨?_, List.cons_ne_nil EngineCall.failover [], ?_⟩
  · intro node
    cases node <;> rfl
  · rintro ⟨st, known, names⟩
    cases known
    exact absurd names (by decide)

end PgmanProxy.Runtime.LeaderState
