import Mathlib.Data.List.Basic
import Mathlib.Data.List.Nodup

/-!
# Reading a sequence page by page

A reader that remembers the last item it saw continues with what stands behind
that item. `past` is that remainder. `follow` asks for page after page and stops
at the first one that announces no more; `follow_complete` says when the pages
together are everything that was left to read.
-/

namespace PgmanProxy.Library.Paging

set_option autoImplicit false

variable {Item Cursor : Type*}

/-- What stands behind the first marked item, nothing when none is marked. -/
def past (marked : Item → Bool) : List Item → List Item
  | [] => []
  | item :: items => if marked item then items else past marked items

/-- Items in front that are not marked do not matter. -/
theorem past_unmarked (marked : Item → Bool) (front rest : List Item)
    (unmarked : ∀ item ∈ front, marked item = false) :
    past marked (front ++ rest) = past marked rest := by
  induction front with
  | nil => rfl
  | cons item front ih =>
      have plain : marked item = false := unmarked item List.mem_cons_self
      have later : ∀ other ∈ front, marked other = false := by
        intro other member
        exact unmarked other (List.mem_cons_of_mem item member)
      rw [List.cons_append, past, plain]
      exact ih later

/-- Behind a mark in front, the rest is untouched. -/
theorem past_found (marked : Item → Bool) (front rest : List Item)
    (found : ∃ item ∈ front, marked item = true) :
    past marked (front ++ rest) = past marked front ++ rest := by
  induction front with
  | nil =>
      obtain ⟨item, member, _⟩ := found
      cases member
  | cons item front ih =>
      by_cases here : marked item = true
      · rw [List.cons_append, past, past, if_pos here, if_pos here]
      · have later : ∃ other ∈ front, marked other = true := by
          obtain ⟨other, member, mark⟩ := found
          rcases List.mem_cons.1 member with rfl | inside
          · exact absurd mark here
          · exact ⟨other, inside, mark⟩
        rw [List.cons_append, past, past, if_neg here, if_neg here]
        exact ih later

theorem past_mark (marked : Item → Bool) (before after : List Item) (mark : Item)
    (unmarked : ∀ item ∈ before, marked item = false) (found : marked mark = true) :
    past marked (before ++ mark :: after) = after := by
  rw [past_unmarked marked before _ unmarked, past, if_pos found]

theorem past_absent (marked : Item → Bool) (items : List Item)
    (unmarked : ∀ item ∈ items, marked item = false) : past marked items = [] := by
  have empty := past_unmarked marked items [] unmarked
  rw [List.append_nil] at empty
  exact empty

theorem past_suffix (marked : Item → Bool) (items : List Item) :
    past marked items <:+ items := by
  induction items with
  | nil => exact List.suffix_rfl
  | cons item items ih =>
      rw [past]
      split
      · exact List.suffix_cons item items
      · exact ih.trans (List.suffix_cons item items)

theorem past_sublist (marked : Item → Bool) (items : List Item) :
    (past marked items).Sublist items :=
  (past_suffix marked items).sublist

/-- A filter that keeps the marked items may be applied before or after. -/
theorem past_filter (marked keep : Item → Bool) (items : List Item)
    (kept : ∀ item ∈ items, marked item = true → keep item = true) :
    (past marked items).filter keep = past marked (items.filter keep) := by
  induction items with
  | nil => rfl
  | cons item items ih =>
      have rest := ih (fun other member => kept other (List.mem_cons_of_mem item member))
      by_cases found : marked item = true
      · have stays : keep item = true := kept item List.mem_cons_self found
        rw [List.filter_cons_of_pos stays, past, past, if_pos found, if_pos found]
      · rw [past, if_neg found, rest]
        by_cases stays : keep item = true
        · rw [List.filter_cons_of_pos stays, past, if_neg found]
        · rw [List.filter_cons_of_neg stays]

/-- Where keys tell the items apart, a list cut short ends with the key of its last item only
when nothing was cut off. -/
theorem take_last_key {Key : Type*} (key : Item → Key) (items : List Item) (count : Nat)
    (distinct : (items.map key).Nodup) (shown last : Item)
    (first : (items.take count).getLast? = some shown) (final : items.getLast? = some last)
    (same : key shown = key last) : items.length ≤ count := by
  by_contra longer
  have rest : items.drop count ≠ [] := by
    rw [Ne, List.drop_eq_nil_iff]
    exact longer
  have split := List.take_append_drop count items
  rw [← split, List.getLast?_append_of_ne_nil _ rest] at final
  rw [← split, List.map_append] at distinct
  have early := List.mem_map_of_mem (f := key) (List.mem_of_getLast? first)
  have late := List.mem_map_of_mem (f := key) (List.mem_of_getLast? final)
  rw [same] at early
  exact (List.nodup_append'.1 distinct).2.2 early late

/-- One page: its items and, when there may be more, the cursor for the next one. -/
structure Page (Item Cursor : Type*) where
  items : List Item
  next : Option Cursor

/-- `turn` counts the pages already read; a page that fails ends the reading. -/
def follow (page : Nat → Cursor → Option (Page Item Cursor)) :
    Nat → Nat → Cursor → Option (List Item)
  | 0, _, _ => none
  | fuel + 1, turn, cursor =>
      match page turn cursor with
      | none => none
      | some ⟨items, none⟩ => some items
      | some ⟨items, some next⟩ => (follow page fuel (turn + 1) next).map (items ++ ·)

/-- `stands turn cursor rest` says that exactly `rest` is left behind the cursor after `turn`
pages. Pages of `limit` items that announce more when they are full, with a cursor that stands
behind them, lead to the end. -/
theorem follow_turns (page : Nat → Cursor → Option (Page Item Cursor))
    (stands : Nat → Cursor → List Item → Prop) (limit : Nat) (positive : 0 < limit)
    (full : ∀ turn cursor rest, stands turn cursor rest → limit ≤ rest.length →
      ∃ next, page turn cursor = some ⟨rest.take limit, some next⟩ ∧
        stands (turn + 1) next (rest.drop limit))
    (short : ∀ turn cursor rest, stands turn cursor rest → rest.length < limit →
      page turn cursor = some ⟨rest, none⟩)
    (fuel turn : Nat) (cursor : Cursor) (rest : List Item) (here : stands turn cursor rest)
    (enough : rest.length < fuel) :
    follow page fuel turn cursor = some rest := by
  induction fuel generalizing turn cursor rest with
  | zero => omega
  | succ fuel ih =>
      rw [follow]
      by_cases filled : limit ≤ rest.length
      · obtain ⟨next, answer, there⟩ := full turn cursor rest here filled
        have fewer : (rest.drop limit).length < fuel := by
          rw [List.length_drop]
          omega
        rw [answer]
        simp only [ih (turn + 1) next (rest.drop limit) there fewer, Option.map_some,
          List.take_append_drop]
      · rw [short turn cursor rest here (by omega)]

/-- The same where the place of a cursor does not depend on the turn. -/
theorem follow_complete (page : Nat → Cursor → Option (Page Item Cursor))
    (stands : Cursor → List Item → Prop) (limit : Nat) (positive : 0 < limit)
    (full : ∀ turn cursor rest, stands cursor rest → limit ≤ rest.length →
      ∃ next, page turn cursor = some ⟨rest.take limit, some next⟩ ∧
        stands next (rest.drop limit))
    (short : ∀ turn cursor rest, stands cursor rest → rest.length < limit →
      page turn cursor = some ⟨rest, none⟩)
    (fuel turn : Nat) (cursor : Cursor) (rest : List Item) (here : stands cursor rest)
    (enough : rest.length < fuel) :
    follow page fuel turn cursor = some rest :=
  follow_turns page (fun _ => stands) limit positive full short fuel turn cursor rest here enough

end PgmanProxy.Library.Paging
