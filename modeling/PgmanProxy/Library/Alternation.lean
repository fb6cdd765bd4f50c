import Mathlib.Data.List.Basic

/-!
# Alternating flags

A log of flags that switch on and off. Appending to an alternating log keeps it
alternating when what is appended alternates from the flag that is due.
-/

namespace PgmanProxy.Library.Alternation

set_option autoImplicit false

/-- The flags alternate, beginning with `due`. -/
def AlternatesFrom : Bool → List Bool → Prop
  | _, [] => True
  | due, flag :: flags => flag = due ∧ AlternatesFrom (!due) flags

/-- The flag that is due after the log. -/
def dueAfter (due : Bool) (flags : List Bool) : Bool :=
  match flags.getLast? with
  | none => due
  | some last => !last

theorem due_after_cons (due flag : Bool) (flags : List Bool) :
    dueAfter due (flag :: flags) = dueAfter (!flag) flags := by
  unfold dueAfter
  rw [List.getLast?_cons]
  cases flags.getLast? <;> rfl

theorem due_after_append (due : Bool) (left right : List Bool) :
    dueAfter due (left ++ right) = dueAfter (dueAfter due left) right := by
  induction left generalizing due with
  | nil => rfl
  | cons flag left ih => rw [List.cons_append, due_after_cons, due_after_cons, ih]

theorem alternates_append (due : Bool) (left right : List Bool) :
    AlternatesFrom due (left ++ right) ↔
      AlternatesFrom due left ∧ AlternatesFrom (dueAfter due left) right := by
  induction left generalizing due with
  | nil => simp [AlternatesFrom, dueAfter]
  | cons flag left ih =>
      rw [List.cons_append, AlternatesFrom, AlternatesFrom, ih, due_after_cons, and_assoc]
      apply and_congr_right
      rintro rfl
      exact Iff.rfl

/-- A flag that is due may come once. -/
theorem alternates_replicate (due : Bool) (count : Nat) :
    AlternatesFrom due (List.replicate count due) ↔ count ≤ 1 := by
  match count with
  | 0 => simp [AlternatesFrom]
  | 1 => simp [AlternatesFrom]
  | count + 2 => cases due <;> simp [List.replicate_succ, AlternatesFrom]

end PgmanProxy.Library.Alternation
