import Mathlib.Data.List.Nodup
import Mathlib.Data.List.Perm.Basic

/-!
# First match and order of arrival

"The first element that satisfies a test" is a function of the multiset of
elements exactly when no two different elements satisfy it. In a list without
repetitions, a test or a function that singles out one element finds it once.
-/

namespace PgmanProxy.Library.FirstMatch

set_option autoImplicit false

variable {Item : Type*}

/-- No two different items of the list pass the test. -/
def AtMostOne (test : Item → Bool) (items : List Item) : Prop :=
  ∀ first ∈ items, ∀ second ∈ items, test first = true → test second = true → first = second

theorem find_eq_of_unique (test : Item → Bool) (items : List Item) (item : Item)
    (member : item ∈ items) (passes : test item = true) (unique : AtMostOne test items) :
    items.find? test = some item := by
  cases found : items.find? test with
  | none =>
      have fails := List.find?_eq_none.1 found item member
      exact absurd passes fails
  | some other =>
      have otherMember := List.mem_of_find?_eq_some found
      have otherPasses := List.find?_some found
      rw [unique other otherMember item member otherPasses passes]

theorem at_most_one_perm (test : Item → Bool) (left right : List Item)
    (permuted : left.Perm right) (unique : AtMostOne test right) : AtMostOne test left := by
  intro first firstMember second secondMember
  exact unique first (permuted.mem_iff.1 firstMember) second (permuted.mem_iff.1 secondMember)

theorem find_perm_of_unique (test : Item → Bool) (left right : List Item)
    (permuted : left.Perm right) (unique : AtMostOne test right) :
    left.find? test = right.find? test := by
  cases found : right.find? test with
  | none =>
      rw [List.find?_eq_none] at found ⊢
      intro item member
      exact found item (permuted.mem_iff.1 member)
  | some item =>
      have member := permuted.mem_iff.2 (List.mem_of_find?_eq_some found)
      exact find_eq_of_unique test left item member (List.find?_some found)
        (at_most_one_perm test left right permuted unique)

/-- Any item that passes the test is the first match in some order. -/
theorem find_first_in_some_order (test : Item → Bool) (items : List Item) (item : Item)
    (member : item ∈ items) (passes : test item = true) :
    ∃ order : List Item, order.Perm items ∧ order.find? test = some item := by
  obtain ⟨before, after, rfl⟩ := List.append_of_mem member
  refine ⟨item :: (before ++ after), List.perm_middle.symm, ?_⟩
  rw [List.find?_cons_of_pos passes]

/-! ## Singling out one element -/

theorem filter_length_one [DecidableEq Item] (test : Item → Bool) (items : List Item)
    (item : Item) (distinct : items.Nodup) (member : item ∈ items)
    (only : ∀ other ∈ items, test other = decide (other = item)) :
    (items.filter test).length = 1 := by
  have same : items.filter test = items.filter (fun other => other == item) := by
    apply List.filter_congr
    intro other listed
    rw [only other listed]
    rfl
  rw [same, ← List.count_eq_length_filter]
  exact List.count_eq_one_of_mem distinct member

theorem filter_length_zero (test : Item → Bool) (items : List Item)
    (never : ∀ other ∈ items, test other = false) : (items.filter test).length = 0 := by
  rw [List.length_eq_zero_iff, List.filter_eq_nil_iff]
  intro other listed
  simp [never other listed]

/-- When only one element contributes, the whole list contributes what it does. -/
theorem flat_map_only {Result : Type*} (results : Item → List Result) (items : List Item)
    (item : Item) (distinct : items.Nodup) (member : item ∈ items)
    (silent : ∀ other ∈ items, other ≠ item → results other = []) :
    items.flatMap results = results item := by
  obtain ⟨before, after, rfl⟩ := List.append_of_mem member
  have apart := List.nodup_middle.1 distinct
  have quiet : ∀ part : List Item, part ⊆ before ++ after → part.flatMap results = [] := by
    intro part included
    rw [List.flatMap_eq_nil_iff]
    intro other listed
    have elsewhere := included listed
    apply silent other
    · rcases List.mem_append.1 elsewhere with early | late
      · exact List.mem_append_left _ early
      · exact List.mem_append_right _ (List.mem_cons_of_mem _ late)
    · intro same
      rw [same] at elsewhere
      exact (List.nodup_cons.1 apart).1 elsewhere
  rw [List.flatMap_append, List.flatMap_cons, quiet before (List.subset_append_left _ _),
    quiet after (List.subset_append_right _ _), List.nil_append, List.append_nil]

end PgmanProxy.Library.FirstMatch
