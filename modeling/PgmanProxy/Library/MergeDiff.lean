import Mathlib.Data.List.Basic
import Mathlib.Order.Lattice

/-!
# Differences of two sorted lists

The two-pointer walk over an old and a new sorted list that collects what was
added and what was removed, repetitions counted. The walk balances the two lists
whether they are sorted or not; on sorted lists it cancels all they share.
-/

namespace PgmanProxy.Library.MergeDiff

set_option autoImplicit false

section Lists

variable {Item : Type*} [DecidableEq Item] [LT Item] [DecidableLT Item]

/-- The walk while the old list's head stays `old`; `next` continues behind it. -/
def walkNew (old : Item) (olds : List Item) (next : List Item → List Item × List Item) :
    List Item → List Item × List Item
  | [] => ([], old :: olds)
  | new :: news =>
      if old = new then next news
      else if old < new then ((next (new :: news)).1, old :: (next (new :: news)).2)
      else (new :: (walkNew old olds next news).1, (walkNew old olds next news).2)

/-- The items added to and removed from the first list to reach the second. -/
def mergeDiff : List Item → List Item → List Item × List Item
  | [], news => (news, [])
  | old :: olds, news => walkNew old olds (mergeDiff olds) news

theorem merge_diff_self (items : List Item) : mergeDiff items items = ([], []) := by
  induction items with
  | nil => rfl
  | cons item items ih => rw [mergeDiff, walkNew, if_pos rfl, ih]

theorem merge_diff_empty (olds news : List Item)
    (unchanged : mergeDiff olds news = ([], [])) : olds = news := by
  induction olds generalizing news with
  | nil =>
      have added : news = [] := congrArg Prod.fst unchanged
      rw [added]
  | cons old olds ih =>
      cases news with
      | nil => exact absurd (congrArg Prod.snd unchanged) (List.cons_ne_nil old olds)
      | cons new news =>
          rw [mergeDiff, walkNew] at unchanged
          by_cases same : old = new
          · rw [if_pos same] at unchanged
            rw [same, ih news unchanged]
          · rw [if_neg same] at unchanged
            by_cases below : old < new
            · rw [if_pos below] at unchanged
              exact absurd (congrArg Prod.snd unchanged) (List.cons_ne_nil _ _)
            · rw [if_neg below] at unchanged
              exact absurd (congrArg Prod.fst unchanged) (List.cons_ne_nil _ _)

/-- Nothing added and nothing removed exactly when the lists are equal. -/
theorem merge_diff_empty_iff (olds news : List Item) :
    ((mergeDiff olds news).1 = [] ∧ (mergeDiff olds news).2 = []) ↔ olds = news := by
  constructor
  · rintro ⟨added, removed⟩
    exact merge_diff_empty olds news (Prod.ext added removed)
  · rintro rfl
    rw [merge_diff_self]
    exact ⟨rfl, rfl⟩

/-! ## What the walk collects -/

section Walk

variable (old : Item) (olds : List Item) (next : List Item → List Item × List Item)

theorem walk_new_added (added : ∀ news, (next news).1.Sublist news) (news : List Item) :
    (walkNew old olds next news).1.Sublist news := by
  induction news with
  | nil => exact List.Sublist.refl []
  | cons new news ih =>
      rw [walkNew]
      split
      · exact (added news).cons new
      · split
        · exact added (new :: news)
        · exact ih.cons_cons new

theorem walk_new_removed (removed : ∀ news, (next news).2.Sublist olds) (news : List Item) :
    (walkNew old olds next news).2.Sublist (old :: olds) := by
  induction news with
  | nil => exact List.Sublist.refl _
  | cons new news ih =>
      rw [walkNew]
      split
      · exact (removed news).cons old
      · split
        · exact (removed (new :: news)).cons_cons old
        · exact ih

theorem walk_new_balance
    (balance : ∀ news, (olds ++ (next news).1).Perm (news ++ (next news).2)) (news : List Item) :
    (old :: olds ++ (walkNew old olds next news).1).Perm
      (news ++ (walkNew old olds next news).2) := by
  induction news with
  | nil => simp [walkNew]
  | cons new news ih =>
      rw [walkNew]
      split
      · rename_i same
        rw [same]
        exact (balance news).cons new
      · split
        · -- The old head is removed: it goes over to the other side.
          have carried := (balance (new :: news)).cons old
          exact carried.trans List.perm_middle.symm
        · -- The new head is added, on both sides.
          have carried := ih.cons new
          exact List.perm_middle.trans carried

end Walk

theorem merge_diff_added (olds news : List Item) : (mergeDiff olds news).1.Sublist news := by
  induction olds generalizing news with
  | nil => exact List.Sublist.refl news
  | cons old olds ih => exact walk_new_added old olds _ ih news

theorem merge_diff_removed (olds news : List Item) : (mergeDiff olds news).2.Sublist olds := by
  induction olds generalizing news with
  | nil => exact List.Sublist.refl []
  | cons old olds ih => exact walk_new_removed old olds _ ih news

/-- The old items and the added ones are the new items and the removed ones. -/
theorem merge_diff_balance (olds news : List Item) :
    (olds ++ (mergeDiff olds news).1).Perm (news ++ (mergeDiff olds news).2) := by
  induction olds generalizing news with
  | nil => simp [mergeDiff]
  | cons old olds ih => exact walk_new_balance old olds _ ih news

end Lists

/-! ## On sorted lists -/

section Sorted

variable {Item : Type*} [LinearOrder Item]

theorem walk_new_disjoint (old : Item) (olds : List Item)
    (sortedOlds : (old :: olds).Pairwise (· ≤ ·)) (news : List Item)
    (sortedNews : news.Pairwise (· ≤ ·))
    (rest : ∀ later : List Item, later.Pairwise (· ≤ ·) →
      (mergeDiff olds later).1.Disjoint (mergeDiff olds later).2) :
    (walkNew old olds (mergeDiff olds) news).1.Disjoint
      (walkNew old olds (mergeDiff olds) news).2 := by
  induction news with
  | nil => exact List.disjoint_nil_left _
  | cons new news ih =>
      have later := List.pairwise_cons.1 sortedNews
      rw [walkNew]
      split
      · exact rest news later.2
      · rename_i different
        split
        · rename_i below
          rw [List.disjoint_cons_right]
          refine ⟨?_, rest (new :: news) sortedNews⟩
          intro collected
          have present := (merge_diff_added olds (new :: news)).subset collected
          rcases List.mem_cons.1 present with first | behind
          · exact different first
          · exact absurd (later.1 old behind) (not_le_of_gt below)
        · rename_i above
          have after : new < old := lt_of_le_of_ne (not_lt.1 above) (Ne.symm different)
          rw [List.disjoint_cons_left]
          refine ⟨?_, ih later.2⟩
          intro collected
          have present := (walk_new_removed old olds _ (merge_diff_removed olds) news).subset
            collected
          rcases List.mem_cons.1 present with first | behind
          · exact different first.symm
          · have least := (List.pairwise_cons.1 sortedOlds).1 new behind
            exact absurd least (not_le_of_gt after)

/-- Nothing is both added and removed. -/
theorem merge_diff_disjoint (olds news : List Item) (sortedOlds : olds.Pairwise (· ≤ ·))
    (sortedNews : news.Pairwise (· ≤ ·)) :
    (mergeDiff olds news).1.Disjoint (mergeDiff olds news).2 := by
  induction olds generalizing news with
  | nil => exact List.disjoint_nil_right _
  | cons old olds ih =>
      apply walk_new_disjoint old olds sortedOlds news sortedNews
      intro later sortedLater
      exact ih later (List.pairwise_cons.1 sortedOlds).2 sortedLater

end Sorted

end PgmanProxy.Library.MergeDiff
