import Mathlib.Order.Defs.PartialOrder
import PgmanProxy.Library.Runs

/-!
# Check, then act

Processes share one value. Each of them reads it in one access and writes it in a later one, on
the strength of what it has read. The log of a run lists the accesses in the order in which they
took effect. Where every writer has seen at most what it writes, the value is lowered exactly
where a larger write of another process came between a read and the write that rests on it.
-/

namespace PgmanProxy.Library.CheckThenAct

open PgmanProxy.Library.Runs

set_option autoImplicit false

inductive Access (Node Value : Type*) where
  | read (node : Node)
  | write (node : Node) (value : Value)
deriving DecidableEq, Repr

section Logs

variable {Node Value : Type*}

def Access.node : Access Node Value → Node
  | .read node | .write node _ => node

/-- The value after an access. There is none before the first write to an empty place. -/
def Access.apply (held : Option Value) : Access Node Value → Option Value
  | .read _ => held
  | .write _ value => some value

theorem run_apply_cases (held : Option Value) (log : List (Access Node Value)) :
    run Access.apply held log = held ∨
      ∃ node value, .write node value ∈ log ∧ run Access.apply held log = some value := by
  induction log generalizing held with
  | nil => exact .inl rfl
  | cons access log ih =>
      cases access with
      | read node =>
          rcases ih held with same | ⟨writer, value, member, last⟩
          · exact .inl same
          · exact .inr ⟨writer, value, List.mem_cons_of_mem _ member, last⟩
      | write node value =>
          rcases ih (some value) with same | ⟨writer, later, member, last⟩
          · exact .inr ⟨node, value, List.mem_cons_self, same⟩
          · exact .inr ⟨writer, later, List.mem_cons_of_mem _ member, last⟩

variable [LE Value]

/-- An access leaves at least what it finds. -/
def Access.Keeps (held : Option Value) : Access Node Value → Prop
  | .read _ => True
  | .write _ value => ∀ present ∈ held, present ≤ value

def NeverLowered (held : Option Value) (log : List (Access Node Value)) : Prop :=
  StepsMeet Access.apply Access.Keeps held log

/-- Between a process's read and its next access, if that is a write, no other process has written
more. -/
def Undisturbed (log : List (Access Node Value)) : Prop :=
  ∀ before between after node value,
    log = before ++ .read node :: (between ++ .write node value :: after) →
    (∀ access ∈ between, access.node ≠ node) →
      ∀ other written, .write other written ∈ between → written ≤ value

/-- The process's last access was a read, of at most `value`. -/
def Checked (held : Option Value) (log : List (Access Node Value)) (node : Node) (value : Value) :
    Prop :=
  ∃ before between, log = before ++ .read node :: between ∧
    (∀ access ∈ between, access.node ≠ node) ∧
      ∀ present ∈ run Access.apply held before, present ≤ value

/-- Every write finds nothing, or rests on a read. -/
def Guarded (held : Option Value) (log : List (Access Node Value)) : Prop :=
  ∀ before after node value, log = before ++ .write node value :: after →
    run Access.apply held before = none ∨ Checked held before node value

/-! ## Growing logs -/

theorem checked_append (held : Option Value) (log more : List (Access Node Value)) (node : Node)
    (value : Value) (others : ∀ access ∈ more, access.node ≠ node)
    (checked : Checked held log node value) : Checked held (log ++ more) node value := by
  rcases checked with ⟨before, between, whole, apart, seen⟩
  refine ⟨before, between ++ more, ?_, ?_, seen⟩
  · rw [whole, List.append_assoc, List.cons_append]
  · intro access member
    rcases List.mem_append.1 member with early | late
    · exact apart access early
    · exact others access late

theorem checked_read (held : Option Value) (log : List (Access Node Value)) (node : Node)
    (value : Value) (seen : ∀ present ∈ run Access.apply held log, present ≤ value) :
    Checked held (log ++ [.read node]) node value :=
  ⟨log, [], rfl, fun _ none => (List.not_mem_nil none).elim, seen⟩

theorem guarded_snoc (held : Option Value) (log : List (Access Node Value))
    (last : Access Node Value) (guarded : Guarded held log)
    (rests : ∀ node value, last = .write node value →
      run Access.apply held log = none ∨ Checked held log node value) :
    Guarded held (log ++ [last]) := by
  intro before after node value whole
  rcases List.eq_nil_or_concat' after with none | ⟨earlier, final, snoc⟩
  · rw [none] at whole
    have ends := List.append_inj' whole rfl
    rw [ends.1.symm]
    exact rests node value (List.cons.inj ends.2).1
  · rw [snoc, ← List.cons_append, ← List.append_assoc] at whole
    exact guarded before earlier node value (List.append_inj' whole rfl).1

end Logs

/-! ## Lowering -/

section Lowering

variable {Node Value : Type*} [Preorder Value]

theorem never_lowered_rises (held : Option Value) (log : List (Access Node Value))
    (never : NeverLowered held log) (present : Value) (found : present ∈ held) :
    ∃ later ∈ run Access.apply held log, present ≤ later := by
  induction log generalizing held present with
  | nil => exact ⟨present, found, le_refl present⟩
  | cons access log ih =>
      cases access with
      | read node => exact ih held never.2 present found
      | write node value =>
          have here : present ≤ value := never.1 present found
          rcases ih (some value) never.2 value rfl with ⟨later, reached, above⟩
          exact ⟨later, reached, le_trans here above⟩

/-- What has been written is not undercut later. -/
theorem never_lowered_covers (held : Option Value) (log : List (Access Node Value))
    (never : NeverLowered held log) (node : Node) (written : Value)
    (member : .write node written ∈ log) :
    ∃ later ∈ run Access.apply held log, written ≤ later := by
  rcases List.append_of_mem member with ⟨before, after, whole⟩
  rw [whole, run_append]
  rw [NeverLowered, whole, steps_meet_append] at never
  exact never_lowered_rises (some written) after never.2.2 written rfl

theorem never_lowered_iff_undisturbed (held : Option Value) (log : List (Access Node Value))
    (guarded : Guarded held log) : NeverLowered held log ↔ Undisturbed log := by
  constructor
  · intro never before between after node value whole apart other written member
    rw [NeverLowered, whole, ← List.cons_append, ← List.append_assoc, steps_meet_append] at never
    have inside : .write other written ∈ before ++ .read node :: between :=
      List.mem_append_right _ (List.mem_cons_of_mem _ member)
    rcases never_lowered_covers held _ never.1 other written inside with ⟨later, reached, above⟩
    exact le_trans above (never.2.1 later reached)
  · intro undisturbed
    apply steps_meet_of_at
    intro before access after whole
    cases access with
    | read node => trivial
    | write node value =>
        intro present found
        rcases guarded before after node value whole with empty | checked
        · rw [empty] at found
          cases found
        · -- What the writer finds is what it has read, or what was written since.
          rcases checked with ⟨first, between, front, apart, seen⟩
          rw [front, run_append] at found
          rcases run_apply_cases (run Access.apply held first) (.read node :: between) with
            same | ⟨other, written, member, last⟩
          · rw [same] at found
            exact seen present found
          · rw [last, Option.mem_some_iff] at found
            rw [← found]
            rw [front, List.append_assoc, List.cons_append] at whole
            apply undisturbed first between after node value whole apart other written
            exact (List.mem_cons.1 member).resolve_left (fun clash => nomatch clash)

end Lowering

end PgmanProxy.Library.CheckThenAct
