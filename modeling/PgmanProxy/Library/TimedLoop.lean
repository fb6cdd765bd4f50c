import Mathlib.Order.WellFounded

/-!
# Loops against a clock

A loop acts until its first stopping action; the clock gives the start of each
action and always advances. All actions start before a deadline exactly when the
stopping one exists and does.
-/

namespace PgmanProxy.Library.TimedLoop

set_option autoImplicit false

variable {clock : Nat → Nat} {stops : Nat → Prop}

/-- The loop comes to its action number `index`. -/
def Performed (stops : Nat → Prop) (index : Nat) : Prop := ∀ earlier < index, ¬stops earlier

theorem performed_zero (stops : Nat → Prop) : Performed stops 0 :=
  fun _ impossible => absurd impossible (Nat.not_lt_zero _)

theorem performed_succ (index : Nat) :
    Performed stops (index + 1) ↔ Performed stops index ∧ ¬stops index := by
  constructor
  · intro performed
    exact ⟨fun earlier before => performed earlier (Nat.lt_succ_of_lt before),
      performed index (Nat.lt_succ_self index)⟩
  · rintro ⟨performed, goesOn⟩ earlier before
    rcases Nat.lt_succ_iff_lt_or_eq.1 before with sooner | rfl
    · exact performed earlier sooner
    · exact goesOn

/-- Where the loop stops at all, there is the action at which it does. -/
theorem stopping_action (index : Nat) (stopped : stops index) :
    ∃ last, last ≤ index ∧ Performed stops last ∧ stops last := by
  induction index using Nat.strong_induction_on with
  | h index ih =>
      by_cases performed : Performed stops index
      · exact ⟨index, Nat.le_refl index, performed, stopped⟩
      · unfold Performed at performed
        push Not at performed
        obtain ⟨earlier, before, stoppedEarlier⟩ := performed
        obtain ⟨last, bound, reached⟩ := ih earlier before stoppedEarlier
        exact ⟨last, Nat.le_trans bound (Nat.le_of_lt before), reached⟩

theorem stopping_action_unique (first second : Nat) (reached : Performed stops first)
    (ends : stops first) (reachedToo : Performed stops second) (endsToo : stops second) :
    first = second := by
  rcases Nat.lt_trichotomy first second with before | same | after
  · exact absurd ends (reachedToo first before)
  · exact same
  · exact absurd endsToo (reached second after)

theorem performed_before_iff (deadline : Nat)
    (advances : ∀ index, clock index < clock (index + 1)) :
    (∀ index, Performed stops index → clock index < deadline) ↔
      ∃ index, clock index < deadline ∧ stops index := by
  have increasing : StrictMono clock := strictMono_nat_of_lt_succ advances
  constructor
  · intro inTime
    by_contra never
    push Not at never
    -- then the loop goes on for ever and passes the deadline
    have endless : ∀ index, Performed stops index := by
      intro index
      induction index with
      | zero => exact performed_zero stops
      | succ index ih => exact (performed_succ index).2 ⟨ih, never index (inTime index ih)⟩
    have passed : deadline ≤ clock deadline := increasing.le_apply
    exact absurd (inTime deadline (endless deadline)) (Nat.not_lt.2 passed)
  · rintro ⟨index, before, stopped⟩ action performed
    have reached : action ≤ index := by
      by_contra later
      exact performed index (Nat.lt_of_not_le later) stopped
    exact Nat.lt_of_le_of_lt (increasing.monotone reached) before

end PgmanProxy.Library.TimedLoop
