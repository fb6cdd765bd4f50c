import Mathlib.Data.List.Perm.Basic
import Mathlib.Logic.Function.Basic

/-!
# Assignments to a record, made in some order

A record has a value of its own type at every key. A list of fallible assignments is
carried out one after the other; the first that fails ends it. Where the assignments come
from a table that is walked in no particular order, what counts is that the order does not
show: no two of them give a key different values.
-/

namespace PgmanProxy.Library.Assignments

set_option autoImplicit false

variable {Key : Type*} [DecidableEq Key] {Value : Key → Type*} {Err : Type*}

abbrev Assignment (Value : Key → Type*) := (key : Key) × Value key

def assignAll : List (Except Err (Assignment Value)) → ((key : Key) → Value key) →
    Except Err ((key : Key) → Value key)
  | [], record => .ok record
  | .error err :: _, _ => .error err
  | .ok assignment :: rest, record =>
      assignAll rest (Function.update record assignment.1 assignment.2)

/-- One of the assignments gives the key the value. -/
def Gives (items : List (Except Err (Assignment Value))) (key : Key) (value : Value key) : Prop :=
  .ok ⟨key, value⟩ ∈ items

def Consistent (items : List (Except Err (Assignment Value))) : Prop :=
  ∀ key left right, Gives items key left → Gives items key right → left = right

/-- The record has what the assignments give and is the old one elsewhere. -/
structure Overlaid (items : List (Except Err (Assignment Value)))
    (before after : (key : Key) → Value key) : Prop where
  given : ∀ key value, Gives items key value → after key = value
  kept : ∀ key, (∀ value, ¬Gives items key value) → after key = before key

omit [DecidableEq Key] in
theorem overlaid_unique (items : List (Except Err (Assignment Value)))
    (before first second : (key : Key) → Value key) (left : Overlaid items before first)
    (right : Overlaid items before second) : first = second := by
  funext key
  by_cases given : ∃ value, Gives items key value
  · rcases given with ⟨value, gives⟩
    rw [left.given key value gives, right.given key value gives]
  · have nothing : ∀ value, ¬Gives items key value := by
      intro value gives
      exact given ⟨value, gives⟩
    rw [left.kept key nothing, right.kept key nothing]

omit [DecidableEq Key] in
theorem consistent_tail (item : Except Err (Assignment Value))
    (items : List (Except Err (Assignment Value))) (consistent : Consistent (item :: items)) :
    Consistent items := by
  intro key left right leftGives rightGives
  exact consistent key left right (List.mem_cons_of_mem item leftGives)
    (List.mem_cons_of_mem item rightGives)

theorem assign_all_overlaid (items : List (Except Err (Assignment Value)))
    (before after : (key : Key) → Value key) (consistent : Consistent items)
    (assigned : assignAll items before = .ok after) : Overlaid items before after := by
  induction items generalizing before with
  | nil =>
      cases assigned
      exact
        { given := fun _ _ impossible => nomatch impossible
          kept := fun _ _ => rfl }
  | cons item items ih =>
      cases item with
      | error err => cases assigned
      | ok assignment =>
          rcases assignment with ⟨target, written⟩
          have later := ih _ (consistent_tail _ _ consistent) assigned
          constructor
          · intro key value gives
            by_cases again : Gives items key value
            · exact later.given key value again
            · -- then it is the head that gives it, and nothing behind gives the key anything else
              have head : (⟨key, value⟩ : Assignment Value) = ⟨target, written⟩ := by
                rcases List.mem_cons.1 gives with same | behind
                · exact Except.ok.inj same
                · exact absurd behind again
              cases head
              have nothing : ∀ other, ¬Gives items target other := by
                intro other behind
                have same := consistent target written other List.mem_cons_self
                  (List.mem_cons_of_mem _ behind)
                rw [← same] at behind
                exact again behind
              rw [later.kept target nothing, Function.update_self]
          · intro key nothing
            have different : key ≠ target := by
              intro same
              subst same
              exact nothing written List.mem_cons_self
            have behind : ∀ value, ¬Gives items key value := by
              intro value gives
              exact nothing value (List.mem_cons_of_mem _ gives)
            rw [later.kept key behind, Function.update_of_ne different]

theorem assign_all_ok_iff (items : List (Except Err (Assignment Value)))
    (before : (key : Key) → Value key) :
    (∃ after, assignAll items before = .ok after) ↔ ∀ item ∈ items, ∀ err, item ≠ .error err := by
  induction items generalizing before with
  | nil => simp [assignAll]
  | cons item items ih =>
      rw [List.forall_mem_cons]
      cases item with
      | error err => simp [assignAll]
      | ok assignment =>
          rw [assignAll, ih]
          constructor
          · intro later
            refine ⟨?_, later⟩
            intro err impossible
            cases impossible
          · intro both
            exact both.2

/-- The result read off the assignments, in whatever order they come. -/
theorem assign_all_iff (items : List (Except Err (Assignment Value)))
    (before after : (key : Key) → Value key) (consistent : Consistent items) :
    assignAll items before = .ok after ↔
      (∀ item ∈ items, ∀ err, item ≠ .error err) ∧ Overlaid items before after := by
  constructor
  · intro assigned
    exact ⟨(assign_all_ok_iff items before).1 ⟨after, assigned⟩,
      assign_all_overlaid items before after consistent assigned⟩
  · intro both
    rcases (assign_all_ok_iff items before).2 both.1 with ⟨other, assigned⟩
    have overlaid := assign_all_overlaid items before other consistent assigned
    rw [overlaid_unique items before after other both.2 overlaid]
    exact assigned

theorem assign_all_append (left right : List (Except Err (Assignment Value)))
    (before : (key : Key) → Value key) :
    assignAll (left ++ right) before = (assignAll left before).bind (assignAll right) := by
  induction left generalizing before with
  | nil => rfl
  | cons item left ih =>
      cases item with
      | error err => rfl
      | ok assignment => exact ih _

end PgmanProxy.Library.Assignments
