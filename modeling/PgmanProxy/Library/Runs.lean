import Mathlib.Data.List.Basic
import Mathlib.Data.List.Induction

/-!
# Runs of a deterministic step function

A system is a step function and a run is the fold of its events. A run-level
property is obtained from two local facts: what the start state satisfies and
what one step preserves. `StepsMeet` is for properties that hold only along
runs each of whose steps satisfies a side condition in the state it starts from.
A run may also be judged by the trace of effects it leaves behind.
-/

namespace PgmanProxy.Library.Runs

set_option autoImplicit false

variable {State Event : Type*}

def run (step : State → Event → State) (start : State) (events : List Event) : State :=
  events.foldl step start

theorem run_append (step : State → Event → State) (start : State)
    (left right : List Event) :
    run step start (left ++ right) = run step (run step start left) right := by
  simp [run, List.foldl_append]

/-- The single induction behind every safety property of a run. -/
theorem run_invariant (step : State → Event → State) (invariant : State → Prop)
    (preserved : ∀ state event, invariant state → invariant (step state event))
    (start : State) (initial : invariant start) (events : List Event) :
    invariant (run step start events) := by
  induction events generalizing start with
  | nil => exact initial
  | cons event events ih =>
      exact ih (step start event) (preserved start event initial)

/-- A flag that one event sets and no event clears. -/
theorem run_flag [DecidableEq Event] (step : State → Event → State) (flag : State → Bool)
    (sets : Event)
    (sticky : ∀ state event, flag (step state event) = (flag state || decide (event = sets)))
    (start : State) (events : List Event) :
    flag (run step start events) = (flag start || decide (sets ∈ events)) := by
  induction events generalizing start with
  | nil => simp [run]
  | cons event events ih =>
      have later := ih (step start event)
      rw [sticky, Bool.or_assoc] at later
      refine later.trans (congrArg _ ?_)
      rw [← Bool.decide_or, decide_eq_decide, List.mem_cons, eq_comm]

def StepsMeet (step : State → Event → State) (condition : State → Event → Prop) :
    State → List Event → Prop
  | _, [] => True
  | state, event :: events =>
      condition state event ∧ StepsMeet step condition (step state event) events

/-- Along steps that are all allowed, a condition that the invariant gives at each step. -/
theorem steps_meet_of_invariant (step : State → Event → State)
    (allowed condition : State → Event → Prop) (invariant : State → Prop)
    (meets : ∀ state event, invariant state → allowed state event → condition state event)
    (preserved : ∀ state event, invariant state → allowed state event →
      invariant (step state event))
    (start : State) (initial : invariant start) (events : List Event)
    (all : StepsMeet step allowed start events) : StepsMeet step condition start events := by
  induction events generalizing start with
  | nil => trivial
  | cons event events ih =>
      obtain ⟨now, later⟩ := all
      exact ⟨meets start event initial now,
        ih (step start event) (preserved start event initial now) later⟩

theorem steps_meet_of_forall (step : State → Event → State) (allowed : Event → Prop)
    (start : State) (events : List Event) (all : ∀ event ∈ events, allowed event) :
    StepsMeet step (fun _ event => allowed event) start events := by
  induction events generalizing start with
  | nil => trivial
  | cons event events ih =>
      have later : ∀ other ∈ events, allowed other := by
        intro other member
        exact all other (List.mem_cons_of_mem event member)
      exact ⟨all event List.mem_cons_self, ih (step start event) later⟩

theorem forall_of_steps_meet (step : State → Event → State) (allowed : Event → Prop)
    (start : State) (events : List Event)
    (meets : StepsMeet step (fun _ event => allowed event) start events) :
    ∀ event ∈ events, allowed event := by
  induction events generalizing start with
  | nil =>
      intro event member
      cases member
  | cons event events ih =>
      rw [List.forall_mem_cons]
      exact ⟨meets.1, ih (step start event) meets.2⟩

theorem steps_meet_congr (step : State → Event → State)
    (left right : State → Event → Prop) (same : ∀ state event, left state event ↔ right state event)
    (start : State) (events : List Event) :
    StepsMeet step left start events ↔ StepsMeet step right start events := by
  induction events generalizing start with
  | nil => exact Iff.rfl
  | cons event events ih => exact and_congr (same start event) (ih (step start event))

/-- Two conditions that agree on allowed steps as long as the invariant holds, which the
second one keeps up, agree along a run of allowed steps. -/
theorem steps_meet_congr_invariant (step : State → Event → State)
    (allowed left right : State → Event → Prop) (invariant : State → Prop)
    (same : ∀ state event, invariant state → allowed state event →
      (left state event ↔ right state event))
    (preserved : ∀ state event, invariant state → allowed state event → right state event →
      invariant (step state event))
    (start : State) (initial : invariant start) (events : List Event)
    (all : StepsMeet step allowed start events) :
    StepsMeet step left start events ↔ StepsMeet step right start events := by
  induction events generalizing start with
  | nil => exact Iff.rfl
  | cons event events ih =>
      obtain ⟨now, later⟩ := all
      have here := same start event initial now
      constructor
      · rintro ⟨first, rest⟩
        have meets := here.1 first
        exact ⟨meets, (ih _ (preserved start event initial now meets) later).1 rest⟩
      · rintro ⟨meets, rest⟩
        exact ⟨here.2 meets, (ih _ (preserved start event initial now meets) later).2 rest⟩

/-- Two conditions that agree on allowed steps agree along a run of them. -/
theorem steps_meet_congr_allowed (step : State → Event → State)
    (allowed left right : State → Event → Prop)
    (same : ∀ state event, allowed state event → (left state event ↔ right state event))
    (start : State) (events : List Event) (all : StepsMeet step allowed start events) :
    StepsMeet step left start events ↔ StepsMeet step right start events :=
  steps_meet_congr_invariant step allowed left right (fun _ => True)
    (fun state event _ => same state event) (fun _ _ _ _ _ => trivial) start trivial events all

theorem steps_meet_append (step : State → Event → State) (condition : State → Event → Prop)
    (start : State) (before after : List Event) :
    StepsMeet step condition start (before ++ after) ↔
      StepsMeet step condition start before ∧
        StepsMeet step condition (run step start before) after := by
  induction before generalizing start with
  | nil => simp [StepsMeet, run]
  | cons first before ih =>
      rw [List.cons_append, StepsMeet, StepsMeet, ih, and_assoc]
      rfl

/-- A step in the middle of the run starts from the state its prefix leads to. -/
theorem steps_meet_at (step : State → Event → State)
    (condition : State → Event → Prop) (start : State)
    (before after : List Event) (event : Event)
    (meets : StepsMeet step condition start (before ++ event :: after)) :
    condition (run step start before) event := by
  induction before generalizing start with
  | nil => exact meets.1
  | cons first before ih => exact ih (step start first) meets.2

theorem steps_meet_of_at (step : State → Event → State)
    (condition : State → Event → Prop) (start : State) (events : List Event)
    (at_each : ∀ before event after, events = before ++ event :: after →
      condition (run step start before) event) : StepsMeet step condition start events := by
  induction events generalizing start with
  | nil => trivial
  | cons first events ih =>
      refine ⟨at_each [] first events rfl, ih (step start first) ?_⟩
      intro before event after whole
      exact at_each (first :: before) event after (congrArg (first :: ·) whole)

theorem run_snoc (step : State → Event → State) (start : State) (events : List Event)
    (event : Event) : run step start (events ++ [event]) = step (run step start events) event :=
  run_append step start events [event]

/-! ## Moments of a run -/

/-- The condition held in some state on the way. -/
def Sometime (step : State → Event → State) (start : State) (condition : State → Prop)
    (events : List Event) : Prop :=
  ∃ before after, events = before ++ after ∧ condition (run step start before)

theorem sometime_now (step : State → Event → State) (start : State) (condition : State → Prop)
    (events : List Event) (now : condition (run step start events)) :
    Sometime step start condition events :=
  ⟨events, [], (List.append_nil events).symm, now⟩

theorem sometime_later (step : State → Event → State) (start : State) (condition : State → Prop)
    (events later : List Event) (before : Sometime step start condition events) :
    Sometime step start condition (events ++ later) := by
  rcases before with ⟨earlier, after, whole, held⟩
  exact ⟨earlier, after ++ later, by rw [whole, List.append_assoc], held⟩

/-! ## Traces -/

/-- Every effect that opens something is followed by one that closes it. -/
def followed {Effect : Type*} (opens closes : Effect → Bool) : List Effect → Bool
  | [] => true
  | effect :: effects => (!opens effect || effects.any closes) && followed opens closes effects

/-- A closing effect at the end closes all that is open. -/
theorem followed_of_last {Effect : Type*} (opens closes : Effect → Bool)
    (effects : List Effect) (last : Effect) (closing : closes last = true)
    (still : opens last = false) : followed opens closes (effects ++ [last]) = true := by
  induction effects with
  | nil => simp [followed, still]
  | cons effect effects ih =>
      have closed : (effects ++ [last]).any closes = true := by
        rw [List.any_append]
        simp [closing]
      rw [List.cons_append, followed, closed, ih]
      simp

/-- What the steps of a run emit, in order. -/
def trail {Emitted : Type*} (step : State → Event → State)
    (emit : State → Event → List Emitted) : State → List Event → List Emitted
  | _, [] => []
  | state, event :: events => emit state event ++ trail step emit (step state event) events

theorem trail_snoc {Emitted : Type*} (step : State → Event → State)
    (emit : State → Event → List Emitted) (start : State) (events : List Event) (last : Event) :
    trail step emit start (events ++ [last]) =
      trail step emit start events ++ emit (run step start events) last := by
  induction events generalizing start with
  | nil => simp [trail, run]
  | cons event events ih =>
      rw [List.cons_append, trail, ih, trail, List.append_assoc]
      rfl

theorem trail_forall {Emitted : Type*} (step : State → Event → State)
    (emit : State → Event → List Emitted) (property : Emitted → Prop)
    (each : ∀ state event, ∀ emitted ∈ emit state event, property emitted)
    (start : State) (events : List Event) :
    ∀ emitted ∈ trail step emit start events, property emitted := by
  induction events generalizing start with
  | nil =>
      intro emitted member
      cases member
  | cons event events ih =>
      intro emitted member
      rcases List.mem_append.1 member with now | later
      · exact each start event emitted now
      · exact ih (step start event) emitted later

/-- An invariant of the state and of what has been emitted so far. -/
theorem trail_invariant {Emitted : Type*} (step : State → Event → State)
    (emit : State → Event → List Emitted) (invariant : State → List Emitted → Prop)
    (preserved : ∀ state event emitted, invariant state emitted →
      invariant (step state event) (emitted ++ emit state event))
    (start : State) (initial : invariant start []) (events : List Event) :
    invariant (run step start events) (trail step emit start events) := by
  induction events using List.reverseRecOn with
  | nil => exact initial
  | append_singleton events last ih =>
      rw [run_snoc, trail_snoc]
      exact preserved _ last _ ih

/-- A condition on the steps of a run, as one on what they emit. -/
theorem steps_meet_trail {Emitted View : Type*} (step : State → Event → State)
    (emit : State → Event → List Emitted) (apply : View → Emitted → View) (view : State → View)
    (condition : State → Event → Prop) (each : View → Emitted → Prop)
    (follows : ∀ state event, view (step state event) = run apply (view state) (emit state event))
    (same : ∀ state event,
      condition state event ↔ StepsMeet apply each (view state) (emit state event))
    (start : State) (events : List Event) :
    StepsMeet step condition start events ↔
      StepsMeet apply each (view start) (trail step emit start events) := by
  induction events generalizing start with
  | nil => exact Iff.rfl
  | cons event events ih =>
      rw [StepsMeet, trail, steps_meet_append, ← follows, ← same, ih]

/-- A measure that every step raises by what it emits counts the trail. -/
theorem trail_length {Emitted : Type*} (step : State → Event → State)
    (emit : State → Event → List Emitted) (measure : State → Nat)
    (raised : ∀ state event, measure (step state event) =
      measure state + (emit state event).length)
    (start : State) (events : List Event) :
    measure (run step start events) = measure start + (trail step emit start events).length := by
  induction events generalizing start with
  | nil => rfl
  | cons event events ih =>
      have later := ih (step start event)
      rw [raised] at later
      rw [trail, List.length_append, ← Nat.add_assoc]
      exact later

end PgmanProxy.Library.Runs
