import Mathlib.Data.List.Basic

/-!
# The first item of highest rank

A left fold that replaces what it holds only by an item of strictly higher rank.
Its rank is that of the highest item, whatever the order; which item it is depends
on the order as soon as two different items share the highest rank.
-/

namespace PgmanProxy.Library.RankedFold

set_option autoImplicit false

variable {Item : Type*} (rank : Item → Nat)

def worseOf (worst item : Item) : Item := if rank item > rank worst then item else worst

def worst (start : Item) (items : List Item) : Item := items.foldl (worseOf rank) start

theorem worst_cons (start item : Item) (items : List Item) :
    worst rank start (item :: items) = worst rank (worseOf rank start item) items := rfl

theorem worse_of_mem (held item : Item) :
    worseOf rank held item = held ∨ worseOf rank held item = item := by
  unfold worseOf
  split
  · exact .inr rfl
  · exact .inl rfl

theorem rank_le_worse_of (held item : Item) :
    rank held ≤ rank (worseOf rank held item) ∧ rank item ≤ rank (worseOf rank held item) := by
  unfold worseOf
  split
  · omega
  · omega

/-- The fold returns one of the items, or its start. -/
theorem worst_mem (start : Item) (items : List Item) : worst rank start items ∈ start :: items := by
  induction items generalizing start with
  | nil => exact List.mem_cons_self
  | cons item items ih =>
      rw [worst_cons]
      rcases List.mem_cons.1 (ih (worseOf rank start item)) with held | later
      · rw [held]
        rcases worse_of_mem rank start item with same | other
        · rw [same]
          exact List.mem_cons_self
        · rw [other]
          exact List.mem_cons_of_mem start List.mem_cons_self
      · exact List.mem_cons_of_mem start (List.mem_cons_of_mem item later)

/-- Nothing ranks higher than what the fold returns. -/
theorem rank_le_worst (start : Item) (items : List Item) :
    ∀ item ∈ start :: items, rank item ≤ rank (worst rank start items) := by
  induction items generalizing start with
  | nil =>
      intro item member
      rw [List.mem_singleton.1 member]
      exact Nat.le_refl _
  | cons first items ih =>
      intro item member
      have step := rank_le_worse_of rank start first
      have held := ih (worseOf rank start first) _ List.mem_cons_self
      rw [worst_cons]
      rcases List.mem_cons.1 member with same | later
      · rw [same]
        exact Nat.le_trans step.1 held
      · rcases List.mem_cons.1 later with same | later
        · rw [same]
          exact Nat.le_trans step.2 held
        · exact ih _ item (List.mem_cons_of_mem _ later)

theorem rank_worst_le_iff (start : Item) (items : List Item) (bound : Nat) :
    rank (worst rank start items) ≤ bound ↔ ∀ item ∈ start :: items, rank item ≤ bound := by
  constructor
  · intro low item member
    exact Nat.le_trans (rank_le_worst rank start items item member) low
  · intro low
    exact low _ (worst_mem rank start items)

/-- An item that shares its rank with no other and tops the rest is returned. -/
theorem worst_eq_top (start : Item) (items : List Item) (top : Item)
    (present : top ∈ start :: items) (highest : ∀ item ∈ start :: items, rank item ≤ rank top)
    (alone : ∀ item ∈ start :: items, rank item = rank top → item = top) :
    worst rank start items = top := by
  have member := worst_mem rank start items
  apply alone _ member
  exact Nat.le_antisymm (highest _ member) (rank_le_worst rank start items top present)

/-- Once an item of highest rank is held, it stays. -/
theorem worst_held (held : Item) (items : List Item)
    (highest : ∀ item ∈ items, rank item ≤ rank held) : worst rank held items = held := by
  induction items with
  | nil => rfl
  | cons item items ih =>
      rw [List.forall_mem_cons] at highest
      have kept : worseOf rank held item = held := by
        rw [worseOf, if_neg (by omega)]
      rw [worst_cons, kept]
      exact ih highest.2

/-- Of the items of highest rank the first wins. -/
theorem worst_first (start top : Item) (items : List Item) (above : rank start < rank top)
    (highest : ∀ item ∈ items, rank item ≤ rank top) : worst rank start (top :: items) = top := by
  have taken : worseOf rank start top = top := by
    rw [worseOf, if_pos above]
  rw [worst_cons, taken]
  exact worst_held rank top items highest

/-- The first item of the highest rank that occurs is returned. -/
theorem worst_find (start lead : Item) (items : List Item) (top : Nat) (below : rank start < top)
    (highest : ∀ item ∈ items, rank item ≤ top)
    (found : items.find? (fun item => rank item = top) = some lead) :
    worst rank start items = lead := by
  induction items generalizing start with
  | nil => cases found
  | cons item items ih =>
      rw [List.forall_mem_cons] at highest
      by_cases reached : rank item = top
      · rw [List.find?_cons_of_pos (by simp [reached])] at found
        rw [← Option.some.inj found]
        apply worst_first rank start item items
        · omega
        · rw [reached]
          exact highest.2
      · rw [List.find?_cons_of_neg (by simp [reached])] at found
        rw [worst_cons]
        apply ih _ _ highest.2 found
        rcases worse_of_mem rank start item with same | other
        · rw [same]
          exact below
        · rw [other]
          have low := highest.1
          omega

/-- Among items told apart by their ranks the order does not matter. -/
theorem worst_perm (start : Item) (left right : List Item) (perm : left.Perm right)
    (apart : ∀ one ∈ start :: left, ∀ other ∈ start :: left, rank one = rank other → one = other) :
    worst rank start left = worst rank start right := by
  have same : ∀ item, item ∈ start :: right ↔ item ∈ start :: left := by
    intro item
    exact (perm.cons start).symm.mem_iff
  symm
  apply worst_eq_top rank start right
  · exact (same _).2 (worst_mem rank start left)
  · intro item member
    exact rank_le_worst rank start left item ((same item).1 member)
  · intro item member equal
    exact apart item ((same item).1 member) _ (worst_mem rank start left) equal

end PgmanProxy.Library.RankedFold
