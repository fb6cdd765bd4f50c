import Mathlib.Logic.Function.Basic
import PgmanProxy.Library.Runs

/-!
# Processes that interleave over a shared state

Any number of processes run the same body. A turn lets one of them make one
atomic access: it sees the shared state and its own place, and may change both.
The two rules below turn facts about one turn into facts about every
interleaving. The first is the noninterference rule: each process keeps its own
assertion and nobody else's turn breaks it. The second tracks a flag that only an
unfinished process may leave raised.
-/

namespace PgmanProxy.Library.Interleaving

open PgmanProxy.Library.Runs

set_option autoImplicit false

structure Crowd (Node Shared Place : Type*) where
  shared : Shared
  place : Node → Place

section Turns

variable {Node Shared Place Input : Type*} [DecidableEq Node]
variable (body : Node → Input → Shared → Place → Shared × Place)

def turn (crowd : Crowd Node Shared Place) (event : Node × Input) : Crowd Node Shared Place :=
  let next := body event.1 event.2 crowd.shared (crowd.place event.1)
  ⟨next.1, Function.update crowd.place event.1 next.2⟩

/-- A process that makes all the turns goes on as if it were alone. -/
theorem run_alone (crowd : Crowd Node Shared Place) (node : Node) (inputs : List Input) :
    run (turn body) crowd (inputs.map (Prod.mk node)) =
      let alone := run (fun state input => body node input state.1 state.2)
        (crowd.shared, crowd.place node) inputs
      ⟨alone.1, Function.update crowd.place node alone.2⟩ := by
  induction inputs generalizing crowd with
  | nil => simp only [run, List.map_nil, List.foldl_nil, Function.update_eq_self]
  | cons input inputs ih =>
      have later := ih (turn body crowd (node, input))
      simp only [run, List.map_cons, List.foldl_cons] at later ⊢
      rw [later]
      simp only [turn, Function.update_self, Function.update_idem]

/-- The invariant of the shared state, and every process's assertion about it. -/
def Annotated (invariant : Shared → Prop) (assertion : Shared → Place → Prop)
    (crowd : Crowd Node Shared Place) : Prop :=
  invariant crowd.shared ∧ ∀ node, assertion crowd.shared (crowd.place node)

theorem turn_annotated (invariant : Shared → Prop) (assertion : Shared → Place → Prop)
    (own : ∀ node input shared place, invariant shared → assertion shared place →
      invariant (body node input shared place).1 ∧
        assertion (body node input shared place).1 (body node input shared place).2)
    (others : ∀ node input shared place other, invariant shared → assertion shared place →
      assertion shared other → assertion (body node input shared place).1 other)
    (crowd : Crowd Node Shared Place) (event : Node × Input)
    (annotated : Annotated invariant assertion crowd) :
    Annotated invariant assertion (turn body crowd event) := by
  obtain ⟨safe, asserted⟩ := annotated
  have kept := own event.1 event.2 crowd.shared (crowd.place event.1) safe (asserted event.1)
  refine ⟨kept.1, ?_⟩
  intro node
  simp only [turn]
  by_cases same : node = event.1
  · rw [same, Function.update_self]
    exact kept.2
  · rw [Function.update_of_ne same]
    exact others event.1 event.2 _ _ _ safe (asserted event.1) (asserted node)

/-- While the flag is raised, somebody has not finished. -/
def Pending (raised : Shared → Prop) (finished : Place → Prop)
    (crowd : Crowd Node Shared Place) : Prop :=
  raised crowd.shared → ∃ node, ¬ finished (crowd.place node)

theorem turn_pending (raised : Shared → Prop) (finished : Place → Prop)
    (settles : ∀ node input shared place, raised (body node input shared place).1 →
      finished (body node input shared place).2 →
      body node input shared place = (shared, place))
    (crowd : Crowd Node Shared Place) (event : Node × Input)
    (pending : Pending raised finished crowd) :
    Pending raised finished (turn body crowd event) := by
  intro up
  by_cases ended : finished (body event.1 event.2 crowd.shared (crowd.place event.1)).2
  · -- A turn that ends finished with the flag up did nothing at all.
    have idle := settles event.1 event.2 crowd.shared (crowd.place event.1) up ended
    have unchanged : turn body crowd event = crowd := by
      simp only [turn, idle, Function.update_eq_self]
    rw [unchanged] at up ⊢
    exact pending up
  · refine ⟨event.1, ?_⟩
    simpa only [turn, Function.update_self] using ended

theorem run_pending (raised : Shared → Prop) (finished : Place → Prop)
    (settles : ∀ node input shared place, raised (body node input shared place).1 →
      finished (body node input shared place).2 →
      body node input shared place = (shared, place))
    (start : Crowd Node Shared Place) (initial : Pending raised finished start)
    (events : List (Node × Input)) :
    Pending raised finished (run (turn body) start events) :=
  run_invariant (turn body) (Pending raised finished)
    (turn_pending body raised finished settles) start initial events

end Turns

end PgmanProxy.Library.Interleaving
