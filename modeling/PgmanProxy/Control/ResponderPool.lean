import PgmanProxy.Control.ForwardedExecution
import PgmanProxy.Library.WorkerPool

/-!
# The responder's workers and its shutdown

The subscription callback hands every message that `dispatch` keeps to a worker, at most
`responderMaxParallel` of them at a time. `Close` takes the subscription out under the
mutex, drains it and waits for the workers. Draining only asks NATS to hand over no more.
What it hands over before it has heard of that goes to the subscription's queue, and the
callback goes on with the queue. Every interleaving of the callback, the workers, `Serve`,
`Close` and NATS is a run here.
-/

namespace PgmanProxy.Control.ResponderPool

open PgmanProxy.Library.GoStrings PgmanProxy.Library.Runs PgmanProxy.Library.WorkerPool
open PgmanProxy.PgManager
open PgmanProxy.Control.AuditSinks PgmanProxy.Control.ForwardedExecution
open PgmanProxy.Control.Forwarding PgmanProxy.Control.Handlers PgmanProxy.Control.LeaderRoute
open PgmanProxy.Control.Wire

set_option autoImplicit false

def responderMaxParallel : Nat := 8

abbrev Job := LeaderOp × Message

def accept (isLeader : Bool) (message : Message) : Option Job :=
  (dispatch isLeader message).map (fun op => (op, message))

/-- Where the first call of `Close` stands; a later one returns at once. -/
inductive Closing where
  | notCalled
  | drain
  | await
  | returned
deriving DecidableEq, Repr

structure State where
  closed : Bool
  /-- `r.sub` is set -/
  sub : Bool
  /-- NATS hands over what is published on the subject. -/
  delivering : Bool
  closing : Closing
  pool : Pool Message Job
  calls : List EngineCall

def State.fresh : State := ⟨false, false, false, .notCalled, .fresh, []⟩

/-- What `Serve` calls: the connection, if there is one, with its answer to `Subscribe`. -/
abbrev Subscriber := Option (String → Except String Unit)

def serve (responder : Responder) (conn : Subscriber) (state : State) :
    State × Except String Unit :=
  match conn with
  | none => (state, .error "leader-route responder: nil NATS connection")
  | some subscribe =>
      if responder.clusterID = "" then
        (state, .error "leader-route responder: empty clusterID")
      else if state.closed then (state, .error "leader-route responder: already closed")
      else if state.sub then (state, .ok ())
      else
        let subject := "pgman_proxy." ++ responder.clusterID ++ ".lcm.request.>"
        match subscribe subject with
        | .error err => (state, .error ("subscribe " ++ quote subject ++ ": " ++ err))
        | .ok () => ({ state with sub := true, delivering := true }, .ok ())

inductive Event where
  | serve (conn : Subscriber)
  | deliver (message : Message)
  | take (isLeader : Bool)
  | acquire
  | launch
  /-- a worker has run `handle` and gives its slot back -/
  | finish (index : Nat)
  | leave (index : Nat)
  | close
  | drain
  /-- NATS hands over nothing more: it has acted on the drain, or the connection is gone. -/
  | detach
  | await

section Steps

variable (responder : Responder)
-- what the outside is while the jobs are handled, by the number handled before
variable (world : Nat → Audit × Turn)

def poolStep : Pool Message Job → Move Message Bool → Pool Message Job :=
  Library.WorkerPool.step responderMaxParallel accept

def State.move (state : State) (move : Move Message Bool) : State :=
  { state with pool := poolStep state.pool move }

/-- The engine calls of the worker that is about to give its slot back. -/
def State.finishing (state : State) (index : Nat) : List EngineCall :=
  match state.pool.running[index]? with
  | none => []
  | some job =>
      let outside := world (state.pool.leaving ++ state.pool.finished).length
      (handle responder outside.1 job.1 outside.2 job.2).calls

def step (state : State) : Event → State
  | .serve conn => (serve responder conn state).1
  | .deliver message => if state.delivering then state.move (.arrive message) else state
  | .take isLeader => state.move (.take isLeader)
  | .acquire => state.move .acquire
  | .launch => state.move .launch
  | .finish index =>
      { state.move (.release index) with
        calls := state.calls ++ state.finishing responder world index }
  | .leave index => state.move (.leave index)
  | .close =>
      if state.closed then state
      else { state with closed := true, sub := false, closing := .drain }
  -- `Subscription.Drain` sends the request to NATS and returns.
  | .drain => if state.closing = .drain then { state with closing := .await } else state
  | .detach => { state with delivering := false }
  | .await =>
      if state.closing = .await ∧ state.pool.group = 0 then { state with closing := .returned }
      else state

end Steps

/-! ## One turn -/

section Turns

variable (responder : Responder) (world : Nat → Audit × Turn)

theorem serve_state (conn : Subscriber) (state : State) :
    (serve responder conn state).1 = state ∨
      state.closed = false ∧ state.sub = false ∧
        (serve responder conn state).1 = { state with sub := true, delivering := true } := by
  unfold serve
  split
  · exact .inl rfl
  · split
    · exact .inl rfl
    · split
      · exact .inl rfl
      · rename_i unclosed
        split
        · exact .inl rfl
        · rename_i unset
          dsimp only
          split
          · exact .inl rfl
          · exact .inr ⟨by simpa using unclosed, by simpa using unset, rfl⟩

/-- What an event does to the pool of a responder that gets no more messages. -/
def Event.moves : Event → List (Move Message Bool)
  | .take isLeader => [.take isLeader]
  | .acquire => [.acquire]
  | .launch => [.launch]
  | .finish index => [.release index]
  | .leave index => [.leave index]
  | .serve _ | .deliver _ | .close | .drain | .detach | .await => []

/-- What an event does to the pool. -/
theorem step_pool (state : State) (event : Event) :
    (step responder world state event).pool = run poolStep state.pool event.moves ∨
      ∃ message, event = .deliver message ∧
        (step responder world state event).pool = poolStep state.pool (.arrive message) := by
  cases event with
  | serve conn =>
      left
      rcases serve_state responder conn state with same | ⟨-, -, served⟩
      · simp only [step, same]
        rfl
      · simp only [step, served]
        rfl
  | deliver message =>
      by_cases delivering : state.delivering = true
      · right
        refine ⟨message, rfl, ?_⟩
        simp only [step, if_pos delivering]
        rfl
      · left
        simp only [step, if_neg delivering]
        rfl
  | take isLeader | acquire | launch | finish index | leave index | detach =>
      left
      rfl
  | close =>
      left
      simp only [step]
      split <;> rfl
  | drain =>
      left
      simp only [step]
      split <;> rfl
  | await =>
      left
      simp only [step]
      split <;> rfl

/-! ## The accounts of a run -/

/-- The pool is balanced, no job has made two engine calls, and `Close` has closed the
responder. -/
structure Sound (state : State) : Prop where
  balanced : Balanced responderMaxParallel state.pool
  calls : state.calls.length ≤ (state.pool.leaving ++ state.pool.finished).length
  closing : state.closing ≠ .notCalled → state.closed = true

theorem sound_fresh : Sound .fresh where
  balanced := balanced_fresh responderMaxParallel
  calls := Nat.le_refl 0
  closing := fun impossible => absurd rfl impossible

theorem moves_balanced (pool : Pool Message Job) (moves : List (Move Message Bool))
    (balanced : Balanced responderMaxParallel pool) :
    Balanced responderMaxParallel (run poolStep pool moves) :=
  run_invariant poolStep (Balanced responderMaxParallel)
    (fun pool move kept => step_balanced responderMaxParallel accept pool move kept)
    pool balanced moves

theorem step_balances (state : State) (event : Event)
    (balanced : Balanced responderMaxParallel state.pool) :
    Balanced responderMaxParallel (step responder world state event).pool := by
  rcases step_pool responder world state event with moved | ⟨message, -, arrived⟩
  · rw [moved]
    exact moves_balanced state.pool event.moves balanced
  · rw [arrived]
    exact step_balanced responderMaxParallel accept state.pool (.arrive message) balanced

/-- A worker that gives its slot back is one more that has handled its job. -/
theorem handled_after_release (pool : Pool Message Job) (index : Nat) (job : Job)
    (balanced : Balanced responderMaxParallel pool) (found : pool.running[index]? = some job) :
    ((poolStep pool (.release index)).leaving ++
        (poolStep pool (.release index)).finished).length =
      (pool.leaving ++ pool.finished).length + 1 := by
  have held := balanced.slots
  have busy : pool.running.length ≠ 0 := by
    intro none
    rw [List.length_eq_zero_iff.1 none] at found
    cases found
  have slot : ∃ given rest, pool.slots.receive = some (given, rest) := by
    cases buffer : pool.slots.buffer with
    | nil =>
        rw [buffer, List.length_nil] at held
        omega
    | cons first rest =>
        refine ⟨.value first, ⟨rest, pool.slots.closed⟩, ?_⟩
        simp only [Library.GoChannels.Chan.receive, buffer]
  rcases slot with ⟨given, rest, received⟩
  simp only [poolStep, Library.WorkerPool.step, Pool.release, found, received, List.length_append,
    List.length_cons]
  omega

theorem handled_monotone (pool : Pool Message Job) (move : Move Message Bool) :
    (pool.leaving ++ pool.finished).length ≤
      ((poolStep pool move).leaving ++ (poolStep pool move).finished).length := by
  cases move with
  | arrive message => exact Nat.le_refl _
  | take isLeader =>
      simp only [poolStep, Library.WorkerPool.step, Pool.take]
      split
      · split <;> exact Nat.le_refl _
      · exact Nat.le_refl _
  | acquire =>
      simp only [poolStep, Library.WorkerPool.step, Pool.acquire]
      split <;> exact Nat.le_refl _
  | launch =>
      simp only [poolStep, Library.WorkerPool.step, Pool.launch]
      split <;> exact Nat.le_refl _
  | release index =>
      simp only [poolStep, Library.WorkerPool.step, Pool.release]
      split
      · simp only [List.length_append, List.length_cons]
        omega
      · exact Nat.le_refl _
  | leave index =>
      simp only [poolStep, Library.WorkerPool.step, Pool.leave]
      split
      · rename_i job found
        have moved := (picked pool.leaving index job found).1
        simp only [List.length_append, List.length_cons]
        omega
      · exact Nat.le_refl _

theorem finishing_at_most_one (state : State) (index : Nat) :
    (state.finishing responder world index).length ≤ 1 := by
  unfold State.finishing
  split
  · exact Nat.zero_le 1
  · exact handle_calls_at_most_one responder _ _ _ _

theorem moves_handled (pool : Pool Message Job) (event : Event) :
    (pool.leaving ++ pool.finished).length ≤
      ((run poolStep pool event.moves).leaving ++
        (run poolStep pool event.moves).finished).length := by
  cases event with
  | take isLeader => exact handled_monotone pool (.take isLeader)
  | acquire => exact handled_monotone pool .acquire
  | launch => exact handled_monotone pool .launch
  | finish index => exact handled_monotone pool (.release index)
  | leave index => exact handled_monotone pool (.leave index)
  | serve conn => exact Nat.le_refl _
  | deliver message => exact Nat.le_refl _
  | close | drain | detach | await => exact Nat.le_refl _

theorem step_handled (state : State) (event : Event) :
    (state.pool.leaving ++ state.pool.finished).length ≤
      ((step responder world state event).pool.leaving ++
        (step responder world state event).pool.finished).length := by
  rcases step_pool responder world state event with moved | ⟨message, -, arrived⟩
  · rw [moved]
    exact moves_handled state.pool event
  · rw [arrived]
    exact handled_monotone state.pool (.arrive message)

/-- The calls of an event, one at most and then of a job that is handled with it. -/
theorem step_calls (state : State) (event : Event)
    (balanced : Balanced responderMaxParallel state.pool)
    (calls : state.calls.length ≤ (state.pool.leaving ++ state.pool.finished).length) :
    (step responder world state event).calls.length ≤
      ((step responder world state event).pool.leaving ++
        (step responder world state event).pool.finished).length := by
  have handled := step_handled responder world state event
  have quiet : (step responder world state event).calls = state.calls →
      (step responder world state event).calls.length ≤
        ((step responder world state event).pool.leaving ++
          (step responder world state event).pool.finished).length := by
    intro same
    rw [same]
    exact Nat.le_trans calls handled
  cases event with
  | finish index =>
      cases found : state.pool.running[index]? with
      | none =>
          apply quiet
          simp only [step, State.finishing, found, List.append_nil]
      | some job =>
          have one := finishing_at_most_one responder world state index
          have more := handled_after_release state.pool index job balanced found
          simp only [step, State.move, List.length_append] at more calls ⊢
          omega
  | serve conn =>
      apply quiet
      rcases serve_state responder conn state with same | ⟨-, -, served⟩
      · simp only [step, same]
      · simp only [step, served]
  | deliver message =>
      apply quiet
      simp only [step]
      split <;> rfl
  | take isLeader | acquire | launch | leave index | detach => exact quiet rfl
  | close | drain | await =>
      apply quiet
      simp only [step]
      split <;> rfl

theorem step_sound (state : State) (event : Event) (sound : Sound state) :
    Sound (step responder world state event) := by
  have balanced := step_balances responder world state event sound.balanced
  have calls := step_calls responder world state event sound.balanced sound.calls
  -- the rest is about the mutex, which the workers and NATS do not touch
  refine ⟨balanced, calls, ?_⟩
  cases event with
  | serve conn =>
      rcases serve_state responder conn state with same | ⟨-, -, served⟩
      · simp only [step, same]
        exact sound.closing
      · simp only [step, served]
        exact sound.closing
  | deliver message =>
      simp only [step]
      split <;> exact sound.closing
  | take isLeader | acquire | launch | finish index | leave index | detach => exact sound.closing
  | close =>
      simp only [step]
      split
      · exact sound.closing
      · exact fun _ => rfl
  | drain =>
      simp only [step]
      split
      · rename_i draining
        exact fun _ => sound.closing (by rw [draining]; exact Closing.noConfusion)
      · exact sound.closing
  | await =>
      simp only [step]
      split
      · rename_i awaiting
        exact fun _ => sound.closing (by rw [awaiting.1]; exact Closing.noConfusion)
      · exact sound.closing

theorem run_sound (events : List Event) : Sound (run (step responder world) .fresh events) :=
  run_invariant (step responder world) Sound (step_sound responder world) .fresh sound_fresh
    events

/-- Whatever the order of deliveries, workers and shutdown: at most eight forwarded
operations run at once, every message that was kept is waiting, running or handled exactly
once, in the order it was kept, and no message makes two engine calls. -/
theorem forwarded_work_accounted (events : List Event) :
    let state := run (step responder world) .fresh events
    state.pool.running.length ≤ responderMaxParallel ∧
      state.pool.accepted = state.pool.started ++ state.pool.callback.held ∧
      state.pool.started.Perm
        (state.pool.running ++ (state.pool.leaving ++ state.pool.finished)) ∧
      state.calls.length ≤ (state.pool.leaving ++ state.pool.finished).length := by
  have sound := run_sound responder world events
  have slots := sound.balanced.slots
  have bound := sound.balanced.bound
  refine ⟨?_, sound.balanced.accepted, sound.balanced.started, sound.calls⟩
  omega

/-! ## What `Close` leaves behind -/

/-- No message reaches a closed responder any more once NATS has let go of it. -/
theorem detached_pool (state : State) (closed : state.closed = true)
    (detached : state.delivering = false) (events : List Event) :
    (run (step responder world) state events).pool =
      run poolStep state.pool (events.flatMap Event.moves) := by
  induction events generalizing state with
  | nil => rfl
  | cons event events ih =>
      have still : (step responder world state event).closed = true ∧
          (step responder world state event).delivering = false := by
        cases event with
        | serve conn =>
            rcases serve_state responder conn state with same | ⟨unclosed, -⟩
            · simp only [step, same]
              exact ⟨closed, detached⟩
            · rw [closed] at unclosed
              cases unclosed
        | deliver message =>
            simp only [step, detached]
            exact ⟨closed, detached⟩
        | take isLeader | acquire | launch | finish index | leave index =>
            exact ⟨closed, detached⟩
        | close =>
            simp only [step, if_pos closed]
            exact ⟨closed, detached⟩
        | detach => exact ⟨closed, rfl⟩
        | drain | await =>
            simp only [step]
            split <;> exact ⟨closed, detached⟩
      have now : (step responder world state event).pool =
          run poolStep state.pool event.moves := by
        rcases step_pool responder world state event with moved | ⟨message, delivery, -⟩
        · exact moved
        · subst delivery
          simp only [step, detached]
          rfl
      have later := ih (step responder world state event) still.1 still.2
      rw [List.flatMap_cons, run_append, ← now]
      exact later

theorem moves_inner (events : List Event) :
    ∀ move ∈ events.flatMap Event.moves, move.arrives = false := by
  intro move member
  rcases List.mem_flatMap.1 member with ⟨event, -, moved⟩
  cases event <;> simp_all [Event.moves, Move.arrives]

theorem moves_of_inner (moves : List (Move Message Bool))
    (inner : ∀ move ∈ moves, move.arrives = false) :
    ∃ events : List Event, events.flatMap Event.moves = moves := by
  induction moves with
  | nil => exact ⟨[], rfl⟩
  | cons move moves ih =>
      rw [List.forall_mem_cons] at inner
      rcases ih inner.2 with ⟨events, same⟩
      cases move with
      | arrive message => cases inner.1
      | take isLeader => exact ⟨.take isLeader :: events, by rw [List.flatMap_cons, same]; rfl⟩
      | acquire => exact ⟨.acquire :: events, by rw [List.flatMap_cons, same]; rfl⟩
      | launch => exact ⟨.launch :: events, by rw [List.flatMap_cons, same]; rfl⟩
      | release index => exact ⟨.finish index :: events, by rw [List.flatMap_cons, same]; rfl⟩
      | leave index => exact ⟨.leave index :: events, by rw [List.flatMap_cons, same]; rfl⟩

/-- The callback is between two messages and would drop every queued one, also as leader. -/
def Quiet (pool : Pool Message Job) : Prop :=
  pool.callback.held = [] ∧ ∀ message ∈ pool.queue, dispatch true message = none

theorem quiet_iff (pool : Pool Message Job) :
    Quiet pool ↔ ∀ job, ¬Outstanding accept pool job := by
  constructor
  · intro quiet job left
    rcases left with held | ⟨message, queued, isLeader, made⟩
    · rw [quiet.1] at held
      cases held
    · have silent : dispatch isLeader message = none := by
        cases isLeader with
        | true => exact quiet.2 message queued
        | false => exact dispatch_non_leader message
      rw [accept, silent] at made
      cases made
  · intro nothing
    constructor
    · cases held : pool.callback.held with
      | nil => rfl
      | cons job rest =>
          apply absurd _ (nothing job)
          rw [Outstanding, held]
          exact .inl List.mem_cons_self
    · intro message queued
      cases kept : dispatch true message with
      | none => rfl
      | some op =>
          apply absurd _ (nothing (op, message))
          refine .inr ⟨message, queued, true, ?_⟩
          rw [accept, kept]
          rfl

/-- A responder that NATS has let go of starts nothing more exactly if it is quiet. -/
theorem detached_silent_iff (state : State) (sound : Sound state) (closed : state.closed = true)
    (detached : state.delivering = false) (idle : state.pool.running = []) :
    (∀ later, (run (step responder world) state later).pool.started = state.pool.started) ↔
      Quiet state.pool := by
  rw [quiet_iff, ← silent_iff responderMaxParallel accept (by decide) state.pool sound.balanced
    idle]
  constructor
  · intro silent moves inner
    rcases moves_of_inner moves inner with ⟨later, same⟩
    have unstarted := silent later
    rw [detached_pool responder world state closed detached later, same] at unstarted
    exact unstarted
  · intro silent later
    rw [detached_pool responder world state closed detached later]
    exact silent _ (moves_inner later)

/-- As long as NATS hands over, a failover can still come and be run. -/
theorem delivering_starts (state : State) (sound : Sound state) (closed : state.closed = true)
    (delivering : state.delivering = true) (idle : state.pool.running = []) :
    ∃ later, (run (step responder world) state later).pool.started ≠ state.pool.started := by
  by_contra none
  push Not at none
  -- The failover arrives, and then nothing more.
  let next := run (step responder world) state [.deliver failoverMessage, .detach]
  have arrived : next.pool = poolStep state.pool (.arrive failoverMessage) ∧
      next.closed = true ∧ next.delivering = false := by
    simp only [next, run, List.foldl_cons, List.foldl_nil, step, if_pos delivering]
    exact ⟨rfl, closed, trivial⟩
  have kept : Sound next := run_invariant (step responder world) Sound
    (step_sound responder world) state sound _
  have silent : ∀ later, (run (step responder world) next later).pool.started =
      next.pool.started := by
    intro later
    have through := none ([.deliver failoverMessage, .detach] ++ later)
    rw [run_append] at through
    rw [through, arrived.1]
    rfl
  have free : next.pool.running = [] := by
    rw [arrived.1]
    exact idle
  have quiet := (detached_silent_iff responder world next kept arrived.2.1 arrived.2.2 free).1
    silent
  have waiting : failoverMessage ∈ next.pool.queue := by
    rw [arrived.1]
    exact List.mem_append_right _ List.mem_cons_self
  exact absurd (quiet.2 failoverMessage waiting) (by decide)

/-- When `Close` comes back from its wait, every job that was started has been handled. No
operation is run after that, whatever happens, exactly if by then NATS has stopped handing over,
the callback holds no message and the subscription's queue has none that a leader would keep. -/
theorem close_leaves_nothing_iff (events : List Event)
    (awaits : (run (step responder world) .fresh events).closing = .await)
    (returns : (run (step responder world) .fresh (events ++ [.await])).closing = .returned) :
    let state := run (step responder world) .fresh (events ++ [.await])
    state.pool.started.Perm state.pool.finished ∧
      ((∀ later, (run (step responder world) state later).pool.started = state.pool.started) ↔
        state.delivering = false ∧ Quiet state.pool) := by
  intro state
  have sound : Sound state := run_sound responder world (events ++ [.await])
  have stepped : state = step responder world (run (step responder world) .fresh events)
      .await := run_append _ _ _ _
  have settled : (run (step responder world) .fresh events).pool.group = 0 := by
    by_contra busy
    have same : state = run (step responder world) .fresh events := by
      rw [stepped]
      simp only [step]
      rw [if_neg (fun both => busy both.2)]
    rw [show run (step responder world) .fresh (events ++ [.await]) = state from rfl, same,
      awaits] at returns
    cases returns
  have group : state.pool.group = 0 := by
    rw [stepped]
    simp only [step]
    rw [if_pos ⟨awaits, settled⟩]
    exact settled
  have counted := sound.balanced.group
  have idle : state.pool.running = [] := List.length_eq_zero_iff.1 (by omega)
  have gone : state.pool.leaving = [] := List.length_eq_zero_iff.1 (by omega)
  have closed : state.closed = true :=
    sound.closing (by rw [returns]; exact Closing.noConfusion)
  constructor
  · have started := sound.balanced.started
    rw [idle, gone] at started
    exact started
  · constructor
    · intro silent
      have detached : state.delivering = false := by
        cases delivering : state.delivering with
        | false => rfl
        | true =>
            rcases delivering_starts responder world state sound closed delivering idle with
              ⟨later, starts⟩
            exact absurd (silent later) starts
      exact ⟨detached,
        (detached_silent_iff responder world state sound closed detached idle).1 silent⟩
    · intro left
      exact (detached_silent_iff responder world state sound closed left.1 idle).2 left.2

end Turns

/-- A failover is handed over and `Close` gets past its wait before the callback's turn. -/
def overtaken : List Event :=
  [.serve (some (fun _ => .ok ())), .deliver failoverMessage, .close, .drain, .detach]

/-- The callback goes on, and the failover is run after `Close` has returned. So it can be with a
failover that comes only then, while NATS has not heard of the drain. -/
theorem close_overtakes_callback :
    let world := fun _ => (reliableAudit, sampleTurn obedientEngine)
    (¬∀ later, (run (step sampleResponder world)
        (run (step sampleResponder world) .fresh (overtaken ++ [.await])) later).pool.started =
          []) ∧
      ¬∀ later, (run (step sampleResponder world)
        (run (step sampleResponder world) .fresh
          ([.serve (some (fun _ => .ok ())), .close, .drain] ++ [.await])) later).pool.started =
          [] := by
  intro world
  constructor
  · intro silent
    have both := close_leaves_nothing_iff sampleResponder world overtaken rfl rfl
    exact absurd ((both.2.1 silent).2.2 failoverMessage List.mem_cons_self) (by decide)
  · intro silent
    have both := close_leaves_nothing_iff sampleResponder world
      [.serve (some (fun _ => .ok ())), .close, .drain] rfl rfl
    exact absurd (both.2.1 silent).1 (by decide)

end PgmanProxy.Control.ResponderPool
