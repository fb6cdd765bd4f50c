import Mathlib.Data.Nat.ModEq
import Mathlib.Data.List.Basic

/-!
# A wrapping counter of consecutive failures

A 64-bit counter is bumped by every failed attempt and cleared by every
successful one. `failureStreak` is what the counter is meant to hold, read off
the attempt history (newest attempt first). The counter holds it modulo `2^64`:
it is zero exactly when the streak is a multiple of `2^64`, which is weaker
than "the last attempt succeeded" only past `2^64` failures in a row.
-/

namespace PgmanProxy.Library.FailureStreak

set_option autoImplicit false

def observe (counter : UInt64) (succeeded : Bool) : UInt64 :=
  if succeeded then 0 else counter + 1

def failureStreak : List Bool → Nat
  | [] => 0
  | true :: _ => 0
  | false :: earlier => failureStreak earlier + 1

/-- Nothing has been attempted yet, or the newest attempt succeeded. -/
def LastSucceeded : List Bool → Prop
  | [] => True
  | newest :: _ => newest = true

theorem failure_streak_zero_iff (history : List Bool) :
    failureStreak history = 0 ↔ LastSucceeded history := by
  cases history with
  | nil => simp [failureStreak, LastSucceeded]
  | cons newest earlier => cases newest <;> simp [failureStreak, LastSucceeded]

/-- The counter carries the streak of the history it has observed. -/
def Tracks (counter : UInt64) (history : List Bool) : Prop :=
  counter = UInt64.ofNat (failureStreak history)

theorem tracks_nil : Tracks 0 [] := rfl

theorem tracks_observe (counter : UInt64) (history : List Bool) (succeeded : Bool)
    (tracks : Tracks counter history) :
    Tracks (observe counter succeeded) (succeeded :: history) := by
  cases succeeded with
  | true => rfl
  | false =>
      unfold Tracks at tracks ⊢
      simp only [observe, failureStreak, tracks, UInt64.ofNat_add]
      rfl

theorem tracks_zero_iff (counter : UInt64) (history : List Bool)
    (tracks : Tracks counter history) :
    counter = 0 ↔ 2 ^ 64 ∣ failureStreak history := by
  rw [tracks, ← UInt64.toNat_inj, UInt64.toNat_ofNat', Nat.dvd_iff_mod_eq_zero]
  rfl

/-- Below `2^64` failures in a row the zero test answers the intended question. -/
theorem zero_iff_last_succeeded (counter : UInt64) (history : List Bool)
    (tracks : Tracks counter history) (bounded : failureStreak history < 2 ^ 64) :
    counter = 0 ↔ LastSucceeded history := by
  rw [tracks_zero_iff counter history tracks, ← failure_streak_zero_iff]
  constructor
  · intro divides
    exact Nat.eq_zero_of_dvd_of_lt divides bounded
  · intro none
    rw [none]
    exact Nat.dvd_zero _

end PgmanProxy.Library.FailureStreak
