import Mathlib.Data.List.Basic
import PgmanProxy.Library.Runs

/-!
# Straight-line programs with gates

A program is a list of effects on a state and of gates, calls whose failure ends it. What a
gate answers is part of the program, so that all programs of one shape are all the ways
the outside can answer. A program is run action by action: what it has done at any moment
is a part of its front whose gates have all let it through.
-/

namespace PgmanProxy.Library.GatedProgram

open PgmanProxy.Library.Runs

set_option autoImplicit false

inductive Action (Effect Gate Error : Type) where
  | effect (effect : Effect)
  /-- a call that fails with an error, or lets the program through -/
  | gate (gate : Gate) (failure : Option Error)

structure Progress (State Effect Gate Error : Type) where
  state : State
  left : List (Action Effect Gate Error)
  stopped : Option (Gate × Error)

section Running

variable {State Effect Gate Error : Type} (apply : State → Effect → State)

def tick (progress : Progress State Effect Gate Error) : Progress State Effect Gate Error :=
  match progress.stopped, progress.left with
  | none, .effect effect :: left =>
      { progress with state := apply progress.state effect, left := left }
  | none, .gate _ none :: left => { progress with left := left }
  | none, .gate gate (some err) :: _ => { progress with stopped := some (gate, err) }
  | _, _ => progress

variable (start : State) (program : List (Action Effect Gate Error))

def after : Nat → Progress State Effect Gate Error
  | 0 => ⟨start, program, none⟩
  | count + 1 => tick apply (after count)

def effects (done : List (Action Effect Gate Error)) : List Effect :=
  done.filterMap (fun
    | .effect effect => some effect
    | .gate _ _ => none)

/-- No gate has failed. -/
def Passed (done : List (Action Effect Gate Error)) : Prop :=
  ∀ gate err, .gate gate (some err) ∉ done

theorem effects_append (early late : List (Action Effect Gate Error)) :
    effects (early ++ late) = effects early ++ effects late :=
  List.filterMap_append

theorem passed_append (early late : List (Action Effect Gate Error)) :
    Passed (early ++ late) ↔ Passed early ∧ Passed late := by
  constructor
  · intro passed
    exact ⟨fun gate err member => passed gate err (List.mem_append_left _ member),
      fun gate err member => passed gate err (List.mem_append_right _ member)⟩
  · intro passed gate err member
    rcases List.mem_append.1 member with early | late
    · exact passed.1 gate err early
    · exact passed.2 gate err late

/-- Everything a tick can do. -/
theorem tick_cases (progress : Progress State Effect Gate Error) :
    (tick apply progress = progress ∧ (progress.stopped ≠ none ∨ progress.left = [])) ∨
      (∃ action left, progress.stopped = none ∧ progress.left = action :: left ∧
        Passed [action] ∧
        tick apply progress = ⟨run apply progress.state (effects [action]), left, none⟩) ∨
      ∃ gate err left, progress.left = .gate gate (some err) :: left ∧
        tick apply progress = ⟨progress.state, progress.left, some (gate, err)⟩ := by
  rcases progress with ⟨state, left, stopped⟩
  cases stopped with
  | some cause => exact .inl ⟨rfl, .inl (Option.some_ne_none cause)⟩
  | none =>
      cases left with
      | nil => exact .inl ⟨rfl, .inr rfl⟩
      | cons action left =>
          cases action with
          | effect effect =>
              refine .inr (.inl ⟨.effect effect, left, rfl, rfl, ?_, rfl⟩)
              intro gate err member
              cases List.mem_singleton.1 member
          | gate gate failure =>
              cases failure with
              | some err => exact .inr (.inr ⟨gate, err, left, rfl, rfl⟩)
              | none =>
                  refine .inr (.inl ⟨.gate gate none, left, rfl, rfl, ?_, rfl⟩)
                  intro gate err member
                  cases List.mem_singleton.1 member

/-- What has been done by now. -/
structure Path (progress : Progress State Effect Gate Error)
    (done : List (Action Effect Gate Error)) : Prop where
  front : program = done ++ progress.left
  passed : Passed done
  state : progress.state = run apply start (effects done)
  stopped : ∀ gate err, progress.stopped = some (gate, err) →
    ∃ rest, progress.left = .gate gate (some err) :: rest

theorem after_path (count : Nat) :
    ∃ done, Path apply start program (after apply start program count) done := by
  induction count with
  | zero =>
      refine ⟨[], rfl, fun _ _ => List.not_mem_nil, rfl, ?_⟩
      intro gate err stopped
      cases stopped
  | succ count ih =>
      rcases ih with ⟨done, path⟩
      rw [after]
      rcases tick_cases apply (after apply start program count) with
        ⟨same, -⟩ | ⟨action, left, -, here, passes, next⟩ | ⟨gate, err, left, here, next⟩
      · rw [same]
        exact ⟨done, path⟩
      · rw [next]
        refine ⟨done ++ [action], ?_, (passed_append _ _).2 ⟨path.passed, passes⟩, ?_, ?_⟩
        · rw [path.front, here, List.append_assoc]
          rfl
        · rw [effects_append, run_append, ← path.state]
        · intro gate err stopped
          cases stopped
      · rw [next]
        refine ⟨done, path.front, path.passed, path.state, ?_⟩
        intro failed cause stopped
        cases stopped
        exact ⟨left, here⟩

/-- Each action takes one tick, so a program has returned after as many as it has. -/
theorem after_returns (count : Nat) (unstopped : (after apply start program count).stopped = none) :
    (after apply start program count).left.length ≤ program.length - count := by
  induction count with
  | zero => exact Nat.le_refl _
  | succ count ih =>
      rw [after] at unstopped ⊢
      rcases tick_cases apply (after apply start program count) with
        ⟨same, stopped | empty⟩ | ⟨action, left, before, here, -, next⟩ | ⟨gate, err, left, -, next⟩
      · rw [same] at unstopped
        exact absurd unstopped stopped
      · rw [same, empty]
        exact Nat.zero_le _
      · have longer := ih before
        rw [here, List.length_cons] at longer
        rw [next]
        dsimp only
        omega
      · rw [next] at unstopped
        cases unstopped

/-- A failing gate is not passed. -/
theorem done_before (done left early late : List (Action Effect Gate Error)) (gate : Gate)
    (err : Error) (same : done ++ left = early ++ .gate gate (some err) :: late)
    (passed : Passed done) : done <+: early := by
  rcases List.append_eq_append_iff.1 same with ⟨middle, whole, -⟩ | ⟨middle, whole, rest⟩
  · exact ⟨middle, whole.symm⟩
  · cases middle with
    | nil =>
        refine ⟨[], ?_⟩
        simp only [whole, List.append_nil]
    | cons action middle =>
        cases rest
        apply absurd _ (passed gate err)
        rw [whole]
        exact List.mem_append_right _ List.mem_cons_self

/-- At every gate, and at the end of the program, the state is as `expect` says. -/
def checks (expect : Option Gate → State → Bool) : State → List (Action Effect Gate Error) → Bool
  | state, [] => expect none state
  | state, .effect effect :: rest => checks expect (apply state effect) rest
  | state, .gate gate _ :: rest => expect (some gate) state && checks expect state rest

theorem checks_rest (expect : Option Gate → State → Bool)
    (done rest : List (Action Effect Gate Error))
    (checked : checks apply expect start (done ++ rest) = true) :
    checks apply expect (run apply start (effects done)) rest = true := by
  induction done generalizing start with
  | nil => exact checked
  | cons action done ih =>
      cases action with
      | effect effect => exact ih _ checked
      | gate gate failure => exact ih _ (Bool.and_eq_true_iff.1 checked).2

/-- A program that has returned has stopped at a gate, or at its end. -/
theorem checks_returned (expect : Option Gate → State → Bool)
    (checked : checks apply expect start program = true) :
    let returned := after apply start program program.length
    expect (returned.stopped.map Prod.fst) returned.state = true := by
  intro returned
  rcases after_path apply start program program.length with ⟨done, path⟩
  rw [path.front] at checked
  have here := checks_rest apply start expect done _ checked
  rw [← path.state] at here
  cases stopped : returned.stopped with
  | none =>
      have short := after_returns apply start program _ stopped
      rw [Nat.sub_self, Nat.le_zero, List.length_eq_zero_iff] at short
      rw [short] at here
      exact here
  | some cause =>
      rcases path.stopped cause.1 cause.2 stopped with ⟨rest, left⟩
      rw [left] at here
      exact (Bool.and_eq_true_iff.1 here).1

end Running

end PgmanProxy.Library.GatedProgram
