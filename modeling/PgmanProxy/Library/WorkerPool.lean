import Mathlib.Data.List.Perm.Basic
import PgmanProxy.Library.GoChannels
import PgmanProxy.Library.Runs

/-!
# A bounded pool of workers behind one callback

One callback reads a queue of messages. It drops a message or makes a job of it; the job
waits for a slot of a buffered channel, is counted in a wait group and handed to a worker.
A worker that is done gives its slot back before it leaves the group. Whoever waits for
the group waits for the count to be zero, which says nothing about a job that the
callback still holds.
-/

namespace PgmanProxy.Library.WorkerPool

open PgmanProxy.Library.GoChannels PgmanProxy.Library.Runs

set_option autoImplicit false

variable {Message Job Advice : Type*}

inductive Callback (Job : Type*) where
  | idle
  | waiting (job : Job)
  /-- it has a slot and has not started the worker -/
  | admitted (job : Job)

def Callback.held : Callback Job → List Job
  | .idle => []
  | .waiting job | .admitted job => [job]

/-- The slots that the callback holds itself. -/
def Callback.slots : Callback Job → Nat
  | .admitted _ => 1
  | .idle | .waiting _ => 0

structure Pool (Message Job : Type*) where
  queue : List Message
  callback : Callback Job
  slots : Chan Unit
  group : Nat
  running : List Job
  /-- out of their slots, not yet out of the group -/
  leaving : List Job
  finished : List Job
  /-- all jobs made so far and all that were started, oldest first -/
  accepted : List Job
  started : List Job

def Pool.fresh : Pool Message Job := ⟨[], .idle, .empty, 0, [], [], [], [], []⟩

inductive Move (Message Advice : Type*) where
  | arrive (message : Message)
  | take (advice : Advice)
  | acquire
  | launch
  | release (index : Nat)
  | leave (index : Nat)

section Steps

variable (capacity : Nat) (accept : Advice → Message → Option Job)

/-- The callback's turn between two messages. -/
def Pool.take (pool : Pool Message Job) (advice : Advice) : Pool Message Job :=
  match pool.callback, pool.queue with
  | .idle, message :: rest =>
      match accept advice message with
      | none => { pool with queue := rest }
      | some job =>
          { pool with
            queue := rest
            callback := .waiting job
            accepted := pool.accepted ++ [job] }
  | _, _ => pool

def Pool.acquire (pool : Pool Message Job) : Pool Message Job :=
  match pool.callback, pool.slots.send capacity () with
  | .waiting job, some slots => { pool with slots := slots, callback := .admitted job }
  | _, _ => pool

def Pool.launch (pool : Pool Message Job) : Pool Message Job :=
  match pool.callback with
  | .admitted job =>
      { pool with
        callback := .idle
        group := pool.group + 1
        running := job :: pool.running
        started := pool.started ++ [job] }
  | _ => pool

def Pool.release (pool : Pool Message Job) (index : Nat) : Pool Message Job :=
  match pool.running[index]?, pool.slots.receive with
  | some job, some (_, slots) =>
      { pool with
        slots := slots
        running := pool.running.eraseIdx index
        leaving := job :: pool.leaving }
  | _, _ => pool

def Pool.leave (pool : Pool Message Job) (index : Nat) : Pool Message Job :=
  match pool.leaving[index]? with
  | some job =>
      { pool with
        group := pool.group - 1
        leaving := pool.leaving.eraseIdx index
        finished := job :: pool.finished }
  | none => pool

def step (pool : Pool Message Job) : Move Message Advice → Pool Message Job
  | .arrive message => { pool with queue := pool.queue ++ [message] }
  | .take advice => pool.take accept advice
  | .acquire => pool.acquire capacity
  | .launch => pool.launch
  | .release index => pool.release index
  | .leave index => pool.leave index

end Steps

/-! ## Accounts -/

/-- Every slot is held by the callback or by a worker, and every job made is in one place. -/
structure Balanced (capacity : Nat) (pool : Pool Message Job) : Prop where
  unclosed : pool.slots.closed = false
  slots : pool.slots.buffer.length = pool.running.length + pool.callback.slots
  bound : pool.slots.buffer.length ≤ capacity
  group : pool.group = pool.running.length + pool.leaving.length
  started : pool.started.Perm (pool.running ++ (pool.leaving ++ pool.finished))
  accepted : pool.accepted = pool.started ++ pool.callback.held

theorem balanced_fresh (capacity : Nat) : Balanced capacity (.fresh : Pool Message Job) where
  unclosed := rfl
  slots := rfl
  bound := Nat.zero_le capacity
  group := rfl
  started := List.Perm.refl []
  accepted := rfl

section Accounts

variable (capacity : Nat) (accept : Advice → Message → Option Job)

theorem take_balanced (pool : Pool Message Job) (advice : Advice)
    (balanced : Balanced capacity pool) : Balanced capacity (pool.take accept advice) := by
  unfold Pool.take
  split
  · rename_i message rest idle queued
    have slots := balanced.slots
    have accepted := balanced.accepted
    rw [idle] at slots accepted
    split
    · exact { balanced with }
    · rename_i job made
      exact
        { balanced with
          slots := slots
          accepted := by
            rw [accepted]
            simp [Callback.held] }
  · exact balanced

theorem acquire_balanced (pool : Pool Message Job) (balanced : Balanced capacity pool) :
    Balanced capacity (pool.acquire capacity) := by
  unfold Pool.acquire
  split
  · rename_i job slots waiting sent
    rcases (send_some_iff capacity pool.slots slots ()).1 sent with ⟨room, same⟩
    have held := balanced.slots
    have accepted := balanced.accepted
    rw [waiting] at held accepted
    subst same
    have longer : (pool.slots.buffer ++ [()]).length = pool.slots.buffer.length + 1 := by simp
    exact
      { balanced with
        unclosed := rfl
        slots := by
          simp only [Callback.slots, Nat.add_zero] at held ⊢
          rw [longer, held]
        bound := by
          simp only [longer]
          omega
        accepted := accepted }
  · exact balanced

theorem launch_balanced (pool : Pool Message Job) (balanced : Balanced capacity pool) :
    Balanced capacity pool.launch := by
  unfold Pool.launch
  split
  · rename_i job admitted
    have held := balanced.slots
    have accepted := balanced.accepted
    have group := balanced.group
    rw [admitted] at held accepted
    exact
      { balanced with
        slots := by
          simp only [Callback.slots, List.length_cons, Nat.add_zero] at held ⊢
          exact held
        group := by
          simp only [List.length_cons]
          omega
        started := by
          apply (List.perm_append_singleton job pool.started).trans
          exact balanced.started.cons job
        accepted := by
          rw [accepted]
          simp [Callback.held] }
  · exact balanced

theorem receive_buffer (chan rest : Chan Unit) (received : Received Unit)
    (unclosed : chan.closed = false) (given : chan.receive = some (received, rest)) :
    rest.closed = false ∧ chan.buffer.length = rest.buffer.length + 1 := by
  cases received with
  | value value =>
      have taken := receive_value chan rest value given
      rw [taken.2, taken.1]
      exact ⟨unclosed, rfl⟩
  | closed =>
      have ended := receive_closed chan rest given
      rw [ended.2.1] at unclosed
      cases unclosed

/-- Taking one item out of a list. -/
theorem picked {Item : Type*} (items : List Item) (index : Nat) (item : Item)
    (found : items[index]? = some item) :
    items.length = (items.eraseIdx index).length + 1 ∧
      items.Perm (item :: items.eraseIdx index) := by
  have within : index < items.length := (List.getElem?_eq_some_iff.1 found).1
  have value : items[index] = item := (List.getElem?_eq_some_iff.1 found).2
  have moved := List.getElem_cons_eraseIdx_perm within
  rw [value] at moved
  exact ⟨moved.length_eq.symm, moved.symm⟩

theorem release_balanced (pool : Pool Message Job) (index : Nat)
    (balanced : Balanced capacity pool) : Balanced capacity (pool.release index) := by
  unfold Pool.release
  split
  · rename_i job received slots found given
    have moved := picked pool.running index job found
    have taken := receive_buffer pool.slots slots received balanced.unclosed given
    have held := balanced.slots
    have bound := balanced.bound
    have group := balanced.group
    exact
      { balanced with
        unclosed := taken.1
        slots := by
          simp only
          omega
        bound := by
          simp only
          omega
        group := by
          simp only [List.length_cons]
          omega
        started := by
          apply balanced.started.trans
          apply (moved.2.append_right (pool.leaving ++ pool.finished)).trans
          exact List.perm_middle.symm }
  · exact balanced

theorem leave_balanced (pool : Pool Message Job) (index : Nat)
    (balanced : Balanced capacity pool) : Balanced capacity (pool.leave index) := by
  unfold Pool.leave
  split
  · rename_i job found
    have moved := picked pool.leaving index job found
    have group := balanced.group
    exact
      { balanced with
        group := by
          simp only
          omega
        started := by
          apply balanced.started.trans
          apply List.Perm.append_left
          apply (moved.2.append_right pool.finished).trans
          exact List.perm_middle.symm }
  · exact balanced

theorem step_balanced (pool : Pool Message Job) (move : Move Message Advice)
    (balanced : Balanced capacity pool) : Balanced capacity (step capacity accept pool move) := by
  cases move with
  | arrive message => exact { balanced with }
  | take advice => exact take_balanced capacity accept pool advice balanced
  | acquire => exact acquire_balanced capacity pool balanced
  | launch => exact launch_balanced capacity pool balanced
  | release index => exact release_balanced capacity pool index balanced
  | leave index => exact leave_balanced capacity pool index balanced

end Accounts

/-! ## What is still to be started -/

def Move.arrives : Move Message Advice → Bool
  | .arrive _ => true
  | _ => false

section Outstanding

variable (capacity : Nat) (accept : Advice → Message → Option Job)

/-- The callback holds the job, or can make it of a queued message. -/
def Outstanding (pool : Pool Message Job) (job : Job) : Prop :=
  job ∈ pool.callback.held ∨ ∃ message ∈ pool.queue, ∃ advice, accept advice message = some job

/-- Without an arrival nothing becomes outstanding, and only outstanding jobs are started. -/
theorem step_outstanding (pool : Pool Message Job) (move : Move Message Advice)
    (inner : move.arrives = false) :
    (∀ job, Outstanding accept (step capacity accept pool move) job →
        Outstanding accept pool job) ∧
      ∃ later, (step capacity accept pool move).started = pool.started ++ later ∧
        ∀ job ∈ later, Outstanding accept pool job := by
  have unchanged : ∀ next : Pool Message Job, next.callback = pool.callback →
      next.queue = pool.queue → next.started = pool.started →
      (∀ job, Outstanding accept next job → Outstanding accept pool job) ∧
        ∃ later, next.started = pool.started ++ later ∧
          ∀ job ∈ later, Outstanding accept pool job := by
    intro next callback queue started
    constructor
    · intro job left
      rw [Outstanding, callback, queue] at left
      exact left
    · refine ⟨[], ?_, ?_⟩
      · rw [started, List.append_nil]
      · intro job impossible
        cases impossible
  cases move with
  | arrive message => cases inner
  | take advice =>
      simp only [step, Pool.take]
      split
      · rename_i message rest idle queued
        have here : message ∈ pool.queue := by
          rw [queued]
          exact List.mem_cons_self
        have there : ∀ other ∈ rest, other ∈ pool.queue := by
          intro other member
          rw [queued]
          exact List.mem_cons_of_mem message member
        split
        · constructor
          · intro job left
            rcases left with held | ⟨other, member, made⟩
            · exact .inl held
            · exact .inr ⟨other, there other member, made⟩
          · exact ⟨[], (List.append_nil _).symm, fun job impossible => nomatch impossible⟩
        · rename_i made
          constructor
          · intro job left
            rcases left with held | ⟨other, member, makes⟩
            · rw [Callback.held, List.mem_singleton] at held
              rw [held]
              exact .inr ⟨message, here, advice, made⟩
            · exact .inr ⟨other, there other member, makes⟩
          · exact ⟨[], (List.append_nil _).symm, fun job impossible => nomatch impossible⟩
      · exact unchanged pool rfl rfl rfl
  | acquire =>
      simp only [step, Pool.acquire]
      split
      · rename_i job slots waiting sent
        constructor
        · intro other left
          rw [Outstanding, waiting]
          exact left
        · exact ⟨[], (List.append_nil _).symm, fun job impossible => nomatch impossible⟩
      · exact unchanged pool rfl rfl rfl
  | launch =>
      simp only [step, Pool.launch]
      split
      · rename_i job admitted
        constructor
        · intro other left
          rcases left with held | queued
          · cases held
          · exact .inr queued
        · refine ⟨[job], rfl, ?_⟩
          intro other member
          rw [Outstanding, admitted]
          exact .inl member
      · exact unchanged pool rfl rfl rfl
  | release index =>
      apply unchanged
      all_goals
        simp only [step, Pool.release]
        split <;> rfl
  | leave index =>
      apply unchanged
      all_goals
        simp only [step, Pool.leave]
        split <;> rfl

theorem run_outstanding (pool : Pool Message Job) (moves : List (Move Message Advice))
    (inner : ∀ move ∈ moves, move.arrives = false) :
    ∃ later, (run (step capacity accept) pool moves).started = pool.started ++ later ∧
      ∀ job ∈ later, Outstanding accept pool job := by
  induction moves generalizing pool with
  | nil => exact ⟨[], (List.append_nil _).symm, fun job impossible => nomatch impossible⟩
  | cons move moves ih =>
      rw [List.forall_mem_cons] at inner
      have first := step_outstanding capacity accept pool move inner.1
      rcases first with ⟨left, now, started, outstanding⟩
      rcases ih (step capacity accept pool move) inner.2 with ⟨later, rest, still⟩
      refine ⟨now ++ later, ?_, ?_⟩
      · change (run (step capacity accept) (step capacity accept pool move) moves).started = _
        rw [rest, started, List.append_assoc]
      · intro job member
        rcases List.mem_append.1 member with early | late
        · exact outstanding job early
        · exact left job (still job late)

/-- With every slot free, a job in the callback's hand can be started. -/
theorem held_starts (room : 0 < capacity) (pool : Pool Message Job)
    (balanced : Balanced capacity pool) (free : pool.running = [])
    (held : pool.callback.held ≠ []) :
    ∃ moves : List (Move Message Advice), (∀ move ∈ moves, move.arrives = false) ∧
      (run (step capacity accept) pool moves).started ≠ pool.started := by
  have slots := balanced.slots
  rw [free] at slots
  cases callback : pool.callback with
  | idle =>
      rw [callback] at held
      exact absurd rfl held
  | waiting job =>
      rw [callback] at slots
      have empty : pool.slots.buffer.length < capacity := by
        simp only [Callback.slots, List.length_nil] at slots
        omega
      have sent := (send_some_iff capacity pool.slots _ ()).2 ⟨⟨balanced.unclosed, empty⟩, rfl⟩
      refine ⟨[.acquire, .launch], by simp [Move.arrives], ?_⟩
      simp [run, step, Pool.acquire, Pool.launch, callback, sent]
  | admitted job =>
      refine ⟨[.launch], by simp [Move.arrives], ?_⟩
      simp [run, step, Pool.launch, callback]

theorem queued_starts (room : 0 < capacity) (pool : Pool Message Job)
    (balanced : Balanced capacity pool) (free : pool.running = [])
    (idle : pool.callback = .idle) (job : Job) (left : Outstanding accept pool job) :
    ∃ moves : List (Move Message Advice), (∀ move ∈ moves, move.arrives = false) ∧
      (run (step capacity accept) pool moves).started ≠ pool.started := by
  -- by induction on the queue: the callback drops what can never become a job
  induction queued : pool.queue generalizing pool with
  | nil =>
      rw [Outstanding, idle, queued] at left
      simp [Callback.held] at left
  | cons message rest ih =>
      by_cases makes : ∃ advice made, accept advice message = some made
      · rcases makes with ⟨advice, made, accepted⟩
        have taken : pool.take accept advice =
            { pool with
              queue := rest
              callback := .waiting made
              accepted := pool.accepted ++ [made] } := by
          simp only [Pool.take, idle, queued, accepted]
        have kept := take_balanced capacity accept pool advice balanced
        rw [taken] at kept
        rcases held_starts capacity accept room _ kept free (by simp [Callback.held]) with
          ⟨moves, inner, starts⟩
        refine ⟨.take advice :: moves, ?_, ?_⟩
        · rw [List.forall_mem_cons]
          exact ⟨rfl, inner⟩
        · change (run (step capacity accept) (pool.take accept advice) moves).started ≠ _
          rw [taken]
          exact starts
      · push Not at makes
        rcases left with held | ⟨other, member, advice, made⟩
        · rw [idle] at held
          cases held
        · have dropped : accept advice message = none := by
            cases verdict : accept advice message with
            | none => rfl
            | some wrong => exact absurd verdict (makes advice wrong)
          have taken : pool.take accept advice = { pool with queue := rest } := by
            simp only [Pool.take, idle, queued, dropped]
          have kept := take_balanced capacity accept pool advice balanced
          rw [taken] at kept
          have later : Outstanding accept { pool with queue := rest } job := by
            rw [queued] at member
            rcases List.mem_cons.1 member with same | behind
            · rw [same] at made
              exact absurd made (makes advice job)
            · exact .inr ⟨other, behind, advice, made⟩
          rcases ih { pool with queue := rest } kept free idle later rfl with
            ⟨moves, inner, starts⟩
          refine ⟨.take advice :: moves, ?_, ?_⟩
          · rw [List.forall_mem_cons]
            exact ⟨rfl, inner⟩
          · change (run (step capacity accept) (pool.take accept advice) moves).started ≠ _
            rw [taken]
            exact starts

/-- A pool without workers stays so exactly when nothing is outstanding. -/
theorem silent_iff (room : 0 < capacity) (pool : Pool Message Job)
    (balanced : Balanced capacity pool) (free : pool.running = []) :
    (∀ moves : List (Move Message Advice), (∀ move ∈ moves, move.arrives = false) →
        (run (step capacity accept) pool moves).started = pool.started) ↔
      ∀ job, ¬Outstanding accept pool job := by
  constructor
  · intro silent job left
    by_cases idle : pool.callback.held = []
    · have between : pool.callback = .idle := by
        cases callback : pool.callback with
        | idle => rfl
        | waiting held | admitted held =>
            rw [callback] at idle
            cases idle
      rcases queued_starts capacity accept room pool balanced free between job left with
        ⟨moves, inner, starts⟩
      exact starts (silent moves inner)
    · rcases held_starts capacity accept room pool balanced free idle with ⟨moves, inner, starts⟩
      exact starts (silent moves inner)
  · intro nothing moves inner
    rcases run_outstanding capacity accept pool moves inner with ⟨later, started, outstanding⟩
    cases later with
    | nil => rw [started, List.append_nil]
    | cons job later => exact absurd (outstanding job List.mem_cons_self) (nothing job)

end Outstanding

end PgmanProxy.Library.WorkerPool
