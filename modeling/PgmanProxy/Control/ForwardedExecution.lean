import Mathlib.Data.List.Nodup
import PgmanProxy.Control.AuditGate

/-!
# One forwarded request in a cluster of responders

NATS hands a forwarded request to the subscription of every peer. Each delivery
runs `dispatch` with the peer's leadership check of that instant, and a message
that passes waits for a worker, which runs `handle`. Leadership may move between
any two of these steps; the check holds on at most one peer at a time, which the
state expresses by naming that peer.
-/

namespace PgmanProxy.Control.ForwardedExecution

open PgmanProxy.Library.Runs PgmanProxy.PgManager PgmanProxy.Control.Wire
open PgmanProxy.Control.AuditSinks PgmanProxy.Control.Requests PgmanProxy.Control.Handlers
open PgmanProxy.Control.LeaderRoute PgmanProxy.Control.Forwarding

set_option autoImplicit false

variable {Node : Type} [DecidableEq Node]

/-- A delivery, with the peer on which the leadership check held at that instant. -/
structure Delivery (Node : Type) where
  node : Node
  leader : Option Node
deriving DecidableEq, Repr

structure Cluster (Node : Type) where
  leader : Option Node
  deliveries : List (Delivery Node)
  pending : List (Node × LeaderOp)
  executions : List (Node × EngineCall)

def Cluster.start (leader : Option Node) : Cluster Node := ⟨leader, [], [], []⟩

def Cluster.delivered (state : Cluster Node) : List Node :=
  state.deliveries.map (fun delivery => delivery.node)

/-- The peers whose engine was called, newest call first. -/
def Cluster.executors (state : Cluster Node) : List Node :=
  state.executions.map (fun execution => execution.1)

def Cluster.waiting (state : Cluster Node) : List Node :=
  state.pending.map (fun job => job.1)

inductive ClusterEvent (Node : Type) where
  | lead (leader : Option Node)
  | deliver (node : Node)
  | work (node : Node) (audit : Audit) (turn : Turn)

def deliver (message : Message) (state : Cluster Node) (node : Node) : Cluster Node :=
  -- a subscription receives a published message at most once
  if node ∈ state.delivered then state
  else
    let deliveries := ⟨node, state.leader⟩ :: state.deliveries
    match dispatch (decide (state.leader = some node)) message with
    | none => { state with deliveries := deliveries }
    | some op => { state with deliveries := deliveries, pending := (node, op) :: state.pending }

def work (responders : Node → Responder) (message : Message) (state : Cluster Node)
    (node : Node) (audit : Audit) (turn : Turn) : Cluster Node :=
  match state.pending.find? (fun job => job.1 = node) with
  | none => state
  | some job =>
      let answered := handle (responders node) audit job.2 turn message
      { state with
        pending := state.pending.filter (fun other => other.1 ≠ node)
        executions := answered.calls.map (fun call => (node, call)) ++ state.executions }

def clusterStep (responders : Node → Responder) (message : Message) (state : Cluster Node) :
    ClusterEvent Node → Cluster Node
  | .lead leader => { state with leader := leader }
  | .deliver node => deliver message state node
  | .work node audit turn => work responders message state node audit turn

/-- A peer is waiting to execute or has executed at most once, and was the leader
when the message reached it. -/
structure Sound (state : Cluster Node) : Prop where
  deliveredOnce : state.delivered.Nodup
  once : (state.waiting ++ state.executors).Nodup
  led : ∀ node ∈ state.waiting ++ state.executors, ⟨node, some node⟩ ∈ state.deliveries

omit [DecidableEq Node] in
theorem sound_start (leader : Option Node) : Sound (Cluster.start leader) where
  deliveredOnce := List.nodup_nil
  once := List.nodup_nil
  led := fun _ member => absurd member (List.not_mem_nil)

theorem sound_deliver (message : Message) (state : Cluster Node) (node : Node)
    (sound : Sound state) : Sound (deliver message state node) := by
  unfold deliver
  split
  · exact sound
  · rename_i absent
    have fresh : node ∉ state.waiting ++ state.executors := by
      intro member
      exact absent (List.mem_map_of_mem (sound.led node member))
    cases dispatched : dispatch (decide (state.leader = some node)) message with
    | none =>
        exact ⟨List.nodup_cons.2 ⟨absent, sound.deliveredOnce⟩, sound.once,
          fun other member => List.mem_cons_of_mem _ (sound.led other member)⟩
    | some op =>
        have leads : state.leader = some node :=
          of_decide_eq_true (dispatch_some_is_leader _ _ _ dispatched)
        refine ⟨List.nodup_cons.2 ⟨absent, sound.deliveredOnce⟩,
          List.nodup_cons.2 ⟨fresh, sound.once⟩, ?_⟩
        intro other member
        rcases List.mem_cons.1 member with here | earlier
        · rw [here]
          exact List.mem_cons.2 (Or.inl (by rw [leads]))
        · exact List.mem_cons_of_mem _ (sound.led other earlier)

theorem handle_calls_at_most_one (responder : Responder) (audit : Audit) (op : LeaderOp)
    (turn : Turn) (message : Message) :
    (handle responder audit op turn message).calls.length ≤ 1 := by
  cases healthy : audit.healthy with
  | false =>
      rw [handle_unhealthy _ _ _ _ _ healthy]
      exact Nat.zero_le 1
  | true =>
      rw [handle_healthy _ _ _ _ _ healthy]
      cases dispatchEngine responder.shapes .unmarshal turn.engine message.data op with
      | invalid text => exact Nat.zero_le 1
      | completed call target value => exact Nat.le_refl 1
      | failed call target code text => exact Nat.le_refl 1
      | panicked call value => exact Nat.le_refl 1

omit [DecidableEq Node] in
theorem executors_of_calls (node : Node) (calls : List EngineCall) :
    (calls.map (fun call => (node, call))).map (fun execution => execution.1) =
      List.replicate calls.length node := by
  rw [List.map_map, List.eq_replicate_iff]
  refine ⟨by simp, ?_⟩
  intro other member
  obtain ⟨call, _, rfl⟩ := List.mem_map.1 member
  rfl

theorem sound_work (responders : Node → Responder) (message : Message) (state : Cluster Node)
    (node : Node) (audit : Audit) (turn : Turn) (sound : Sound state) :
    Sound (work responders message state node audit turn) := by
  unfold work
  cases found : state.pending.find? (fun job => job.1 = node) with
  | none => exact sound
  | some job =>
      have waits : node ∈ state.waiting := by
        have member := List.mem_of_find?_eq_some found
        have same : job.1 = node := by simpa using List.find?_some found
        exact same ▸ List.mem_map_of_mem member
      obtain ⟨waitingOnce, executedOnce, apart⟩ := List.nodup_append'.1 sound.once
      have few := handle_calls_at_most_one (responders node) audit job.2 turn message
      -- what stays in the queue, and what the worker adds to the executions
      generalize kept : (state.pending.filter (fun other => other.1 ≠ node)).map
        (fun other => other.1) = stays
      have remains : stays ⊆ state.waiting := by
        rw [← kept]
        exact List.map_subset _ (List.filter_subset_self _)
      have gone : node ∉ stays := by
        rw [← kept]
        simp
      have staysOnce : stays.Nodup := by
        rw [← kept]
        exact waitingOnce.sublist (List.filter_sublist.map _)
      refine ⟨sound.deliveredOnce, ?_, ?_⟩
      · simp only [Cluster.waiting, Cluster.executors, List.map_append, executors_of_calls, kept]
        refine List.nodup_append'.2 ⟨staysOnce, List.nodup_append'.2
          ⟨List.nodup_replicate.2 few, executedOnce, ?_⟩, ?_⟩
        · intro other called executed
          rw [List.eq_of_mem_replicate called] at executed
          exact apart waits executed
        · intro other waiting executed
          rcases List.mem_append.1 executed with called | earlier
          · exact gone (List.eq_of_mem_replicate called ▸ waiting)
          · exact apart (remains waiting) earlier
      · intro other member
        simp only [Cluster.waiting, Cluster.executors, List.map_append, executors_of_calls,
          kept] at member
        apply sound.led other
        rcases List.mem_append.1 member with waiting | executed
        · exact List.mem_append_left _ (remains waiting)
        · rcases List.mem_append.1 executed with called | earlier
          · exact List.eq_of_mem_replicate called ▸ List.mem_append_left _ waits
          · exact List.mem_append_right _ earlier

theorem sound_step (responders : Node → Responder) (message : Message) (state : Cluster Node)
    (event : ClusterEvent Node) (sound : Sound state) :
    Sound (clusterStep responders message state event) := by
  cases event with
  | lead leader => exact ⟨sound.deliveredOnce, sound.once, sound.led⟩
  | deliver node => exact sound_deliver message state node sound
  | work node audit turn => exact sound_work responders message state node audit turn sound

theorem sound_run (responders : Node → Responder) (message : Message) (leader : Option Node)
    (events : List (ClusterEvent Node)) :
    Sound (run (clusterStep responders message) (Cluster.start leader) events) :=
  run_invariant _ Sound (fun state event => sound_step responders message state event) _
    (sound_start leader) events

/-- In every interleaving each peer executes the operation at most once and only if it
led when the message was delivered to it; so at most one peer executes it when the
leadership is the same at all deliveries. -/
theorem forwarded_operation_once_per_leadership (responders : Node → Responder)
    (message : Message) (leader : Option Node) (events : List (ClusterEvent Node))
    (final : Cluster Node)
    (reached : run (clusterStep responders message) (Cluster.start leader) events = final) :
    final.executors.Nodup ∧
      (∀ node ∈ final.executors, ⟨node, some node⟩ ∈ final.deliveries) ∧
      ((∃ steady, ∀ delivery ∈ final.deliveries, delivery.leader = steady) →
        ∀ first ∈ final.executors, ∀ second ∈ final.executors, first = second) := by
  have sound : Sound final := reached ▸ sound_run responders message leader events
  have led : ∀ node ∈ final.executors, ⟨node, some node⟩ ∈ final.deliveries :=
    fun node member => sound.led node (List.mem_append_right _ member)
  refine ⟨(List.nodup_append'.1 sound.once).2.1, led, ?_⟩
  rintro ⟨steady, unchanged⟩ first firstExecutes second secondExecutes
  have firstLed : some first = steady := unchanged _ (led first firstExecutes)
  have secondLed : some second = steady := unchanged _ (led second secondExecutes)
  exact Option.some.inj (firstLed.trans secondLed.symm)

/-! Two peers, named by booleans, and a forwarded failover. -/

def failoverMessage : Message :=
  forwardMessage (sampleServer "n3") failoverRequest ⟨.failover, "01J", "bearer:s3cret", true⟩

/-- Leadership stays on one peer: the other one's delivery is dropped. -/
def steadyDeliveries : List (ClusterEvent Bool) :=
  [.deliver true, .deliver false, .work false reliableAudit (sampleTurn obedientEngine),
    .work true reliableAudit (sampleTurn obedientEngine)]

/-- Leadership moves from one peer to the other between the two deliveries. -/
def handoverDeliveries : List (ClusterEvent Bool) :=
  [.deliver true, .work true reliableAudit (sampleTurn obedientEngine), .lead (some false),
    .deliver false, .work false reliableAudit (sampleTurn obedientEngine)]

def steadyCluster : Cluster Bool :=
  run (clusterStep (fun _ => sampleResponder) failoverMessage) (Cluster.start (some true))
    steadyDeliveries

theorem steady_leadership_single_executor :
    steadyCluster.executors = [true] ∧
      ∀ first ∈ steadyCluster.executors, ∀ second ∈ steadyCluster.executors, first = second :=
  ⟨by decide, (forwarded_operation_once_per_leadership (fun _ : Bool => sampleResponder)
    failoverMessage (some true) steadyDeliveries steadyCluster rfl).2.2 ⟨some true, by decide⟩⟩

/-- One forwarded failover is executed by both peers. -/
theorem handover_executes_twice :
    (run (clusterStep (fun _ => sampleResponder) failoverMessage)
        (Cluster.start (some true)) handoverDeliveries).executors = [false, true] ∧
      ¬∀ first ∈ (run (clusterStep (fun _ => sampleResponder) failoverMessage)
          (Cluster.start (some true)) handoverDeliveries).executors,
        ∀ second ∈ (run (clusterStep (fun _ => sampleResponder) failoverMessage)
          (Cluster.start (some true)) handoverDeliveries).executors, first = second := by
  decide

end PgmanProxy.Control.ForwardedExecution
