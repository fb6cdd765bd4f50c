import PgmanProxy.Library.TextLines
import PgmanProxy.Runtime.ManagedBlock

/-!
# Where a managed block stands in its file

The marker scan succeeds on two kinds of files: those without a marker of the
block, and those with one opening and, further down, one closing marker. `Block`
is the second kind with its parts. `rewriteBlock` is then described kind by kind.
-/

namespace PgmanProxy.Runtime.BlockLayout

open PgmanProxy.Library.GoStrings PgmanProxy.Library.TextLines
open PgmanProxy.Runtime.ManagedBlock

set_option autoImplicit false

/-- What is compared with the markers. -/
def markerText (part : String) : String :=
  trimRight (fun rune => rune ∈ ['\r', '\n', ' ', '\t']) part

/-- A line without its terminator. -/
def lineText (part : String) : String := trimRight (fun rune => rune ∈ ['\r', '\n']) part

def Unmarked (name : String) (parts : List String) : Prop :=
  ∀ part ∈ parts, markerText part ≠ beginMarker name ∧ markerText part ≠ endMarker name

/-- A file's parts with the block in their middle. -/
structure Block (name : String) (parts : List String) where
  before : List String
  opening : String
  body : List String
  closing : String
  after : List String
  shape : parts = before ++ opening :: (body ++ closing :: after)
  opens : markerText opening = beginMarker name
  closes : markerText closing = endMarker name
  outside : Unmarked name before
  inside : Unmarked name body
  behind : Unmarked name after

theorem file_parts_eq (content : String) : fileParts content = textLines content := by
  have blank : ∀ pieces : List (List Char),
      (pieces.map String.ofList).getLast? = some "" ↔ pieces.getLast? = some [] := by
    intro pieces
    rw [List.getLast?_map]
    cases pieces.getLast? with
    | none => simp
    | some piece => simp
  simp only [fileParts, textLines, blank, ← split_after_lines content.toList]
  split
  · rw [List.map_dropLast]
  · rfl

theorem markers_differ (name : String) : beginMarker name ≠ endMarker name := by
  intro same
  have opening : (beginMarker name).length =
      "# BEGIN pgman-proxy managed: ".length + name.length := String.length_append _ _
  have closing : (endMarker name).length =
      "# END pgman-proxy managed: ".length + name.length := String.length_append _ _
  have words : "# BEGIN pgman-proxy managed: ".length = "# END pgman-proxy managed: ".length := by
    apply Nat.add_right_cancel
    rw [← opening, same, closing]
  exact absurd words (by decide)

/-! ## The marker scan -/

/-- The scan for one marker: where it was seen, given what was seen before. -/
def Once (mark : String) : Nat → Option Nat → List String → Option Nat → Prop
  | _, seen, [], found => found = seen
  | index, seen, part :: parts, found =>
      if markerText part = mark then seen = none ∧ Once mark (index + 1) (some index) parts found
      else Once mark (index + 1) seen parts found

theorem find_markers_ok_iff (name path : String) (index : Nat) (parts : List String)
    (first last opening closing : Option Nat) :
    findMarkers name path index parts first last = .ok (opening, closing) ↔
      Once (beginMarker name) index first parts opening ∧
        Once (endMarker name) index last parts closing := by
  induction parts generalizing index first last with
  | nil =>
      simp only [findMarkers, Once, Except.ok.injEq, Prod.mk.injEq]
      rw [eq_comm, eq_comm (a := last)]
  | cons part parts ih =>
      have scanned : trimRight (fun rune => rune ∈ ['\r', '\n', ' ', '\t']) part =
          markerText part := rfl
      rw [findMarkers, Once, Once]
      simp only [scanned]
      by_cases opens : markerText part = beginMarker name
      · have other : markerText part ≠ endMarker name := by
          rw [opens]
          exact markers_differ name
        rw [if_pos opens, if_pos opens, if_neg other]
        cases first with
        | some seen => simp
        | none => simp [ih]
      · rw [if_neg opens, if_neg opens]
        by_cases closes : markerText part = endMarker name
        · rw [if_pos closes, if_pos closes]
          cases last with
          | some seen => simp
          | none => simp [ih]
        · rw [if_neg closes, if_neg closes, ih]

theorem once_seen_iff (mark : String) (index seen : Nat) (parts : List String)
    (found : Option Nat) :
    Once mark index (some seen) parts found ↔
      found = some seen ∧ ∀ part ∈ parts, markerText part ≠ mark := by
  induction parts generalizing index with
  | nil => simp [Once]
  | cons part parts ih =>
      rw [Once, List.forall_mem_cons]
      by_cases marked : markerText part = mark
      · simp [marked]
      · rw [if_neg marked, ih]
        simp [marked]

theorem once_none_iff (mark : String) (index : Nat) (parts : List String) :
    Once mark index none parts none ↔ ∀ part ∈ parts, markerText part ≠ mark := by
  induction parts generalizing index with
  | nil => simp [Once]
  | cons part parts ih =>
      rw [Once, List.forall_mem_cons]
      by_cases marked : markerText part = mark
      · simp [marked, once_seen_iff]
      · rw [if_neg marked, ih]
        simp [marked]

/-- A marker that is seen once splits the parts around it. -/
theorem once_some_iff (mark : String) (index found : Nat) (parts : List String) :
    Once mark index none parts (some found) ↔
      ∃ before part after, parts = before ++ part :: after ∧ markerText part = mark ∧
        (∀ other ∈ before, markerText other ≠ mark) ∧
        (∀ other ∈ after, markerText other ≠ mark) ∧ found = index + before.length := by
  induction parts generalizing index with
  | nil => simp [Once]
  | cons head parts ih =>
      rw [Once]
      by_cases marked : markerText head = mark
      · rw [if_pos marked, once_seen_iff]
        constructor
        · rintro ⟨-, same, rest⟩
          refine ⟨[], head, parts, rfl, marked, ?_, rest, Option.some.inj same⟩
          intro other member
          cases member
        · rintro ⟨before, part, after, shape, -, clean, rest, place⟩
          cases before with
          | nil =>
              obtain ⟨rfl, rfl⟩ := List.cons.inj shape
              exact ⟨rfl, by rw [place]; rfl, rest⟩
          | cons first before =>
              obtain ⟨rfl, -⟩ := List.cons.inj shape
              exact absurd marked (clean head List.mem_cons_self)
      · rw [if_neg marked, ih]
        constructor
        · rintro ⟨before, part, after, rfl, here, clean, rest, place⟩
          refine ⟨head :: before, part, after, rfl, here, ?_, rest, ?_⟩
          · rw [List.forall_mem_cons]
            exact ⟨marked, clean⟩
          · rw [place, List.length_cons]
            omega
        · rintro ⟨before, part, after, shape, here, clean, rest, place⟩
          cases before with
          | nil =>
              obtain ⟨rfl, -⟩ := List.cons.inj shape
              exact absurd here marked
          | cons first before =>
              obtain ⟨rfl, rfl⟩ := List.cons.inj shape
              rw [List.forall_mem_cons] at clean
              refine ⟨before, part, after, rfl, here, clean.2, rest, ?_⟩
              rw [place, List.length_cons]
              omega

/-! ## The kinds of files -/

theorem unmarked_iff (name path : String) (parts : List String) :
    Unmarked name parts ↔ findMarkers name path 0 parts none none = .ok (none, none) := by
  rw [find_markers_ok_iff, once_none_iff, once_none_iff]
  constructor
  · intro unmarked
    exact ⟨fun part member => (unmarked part member).1, fun part member => (unmarked part member).2⟩
  · rintro ⟨noBegin, noEnd⟩ part member
    exact ⟨noBegin part member, noEnd part member⟩

theorem unmarked_append (name : String) (left right : List String) :
    Unmarked name (left ++ right) ↔ Unmarked name left ∧ Unmarked name right :=
  List.forall_mem_append

theorem block_markers (name path : String) (parts : List String) (block : Block name parts) :
    findMarkers name path 0 parts none none =
      .ok (some block.before.length, some (block.before.length + 1 + block.body.length)) := by
  obtain ⟨before, opening, body, closing, after, shape, opens, closes, outside, inside, behind⟩ :=
    block
  have differ := markers_differ name
  rw [find_markers_ok_iff, once_some_iff, once_some_iff]
  constructor
  · refine ⟨before, opening, body ++ closing :: after, shape, opens, ?_, ?_, by simp⟩
    · exact fun part member => (outside part member).1
    · rw [List.forall_mem_append, List.forall_mem_cons, closes]
      exact ⟨fun part member => (inside part member).1, differ.symm,
        fun part member => (behind part member).1⟩
  · refine ⟨before ++ opening :: body, closing, after, by simp [shape], closes, ?_, ?_, ?_⟩
    · rw [List.forall_mem_append, List.forall_mem_cons, opens]
      exact ⟨fun part member => (outside part member).2, differ,
        fun part member => (inside part member).2⟩
    · exact fun part member => (behind part member).2
    · simp only [List.length_append, List.length_cons]
      omega

/-- An opening marker above a closing one, each alone, make a block. -/
theorem block_of_markers (name path : String) (parts : List String) (first last : Nat)
    (ordered : ¬last < first)
    (found : findMarkers name path 0 parts none none = .ok (some first, some last)) :
    Nonempty (Block name parts) := by
  rw [find_markers_ok_iff, once_some_iff, once_some_iff] at found
  obtain ⟨⟨before, opening, tail, shape, opens, noBegin, noBeginLater, atFirst⟩,
    front, closing, after, sameShape, closes, noEnd, noEndLater, atLast⟩ := found
  rw [shape] at sameShape
  rcases List.append_eq_append_iff.1 sameShape with
    ⟨between, rfl, rest⟩ | ⟨extra, rfl, rest⟩
  · cases between with
    | nil =>
        -- one part would be both markers
        obtain ⟨rfl, -⟩ := List.cons.inj rest
        exact absurd (opens.symm.trans closes) (markers_differ name)
    | cons head body =>
        have same := List.cons.inj rest
        have tailShape : tail = body ++ closing :: after := same.2
        obtain rfl : opening = head := same.1
        subst tailShape
        rw [List.forall_mem_append, List.forall_mem_cons] at noBeginLater noEnd
        exact ⟨⟨before, opening, body, closing, after, shape, opens, closes,
          fun part member => ⟨noBegin part member, noEnd.1 part member⟩,
          fun part member => ⟨noBeginLater.1 part member, noEnd.2.2 part member⟩,
          fun part member => ⟨noBeginLater.2.2 part member, noEndLater part member⟩⟩⟩
  · cases extra with
    | nil =>
        obtain ⟨rfl, -⟩ := List.cons.inj rest
        exact absurd (opens.symm.trans closes) (markers_differ name)
    | cons head body =>
        apply absurd _ ordered
        rw [atFirst, atLast]
        simp

/-- The slices of the parts at the places of the markers. -/
theorem block_slices (name : String) (parts : List String) (block : Block name parts) :
    parts.take block.before.length = block.before ∧
      (parts.drop (block.before.length + 1)).take
        (block.before.length + 1 + block.body.length - block.before.length - 1) = block.body ∧
      parts.drop (block.before.length + 1 + block.body.length + 1) = block.after := by
  obtain ⟨before, opening, body, closing, after, rfl, -⟩ := block
  have count : before.length + 1 + body.length - before.length - 1 = body.length := by omega
  have behind : before.length + 1 + body.length + 1 =
      (before ++ opening :: (body ++ [closing])).length := by
    simp only [List.length_append, List.length_cons, List.length_nil]
    omega
  have upTo : before ++ opening :: (body ++ closing :: after) =
      (before ++ opening :: (body ++ [closing])) ++ after := by simp
  have from_body : before ++ opening :: (body ++ closing :: after) =
      (before ++ [opening]) ++ (body ++ closing :: after) := by simp
  have opened : before.length + 1 = (before ++ [opening]).length := by simp
  dsimp only
  refine ⟨List.take_left, ?_, ?_⟩
  · rw [count, from_body, opened, List.drop_left, List.take_left]
  · rw [behind, upTo, List.drop_left]

section Rewriting

variable {name content : String}

theorem rewrite_unmarked (path : String) (lines : List String)
    (unmarked : Unmarked name (fileParts content)) :
    rewriteBlock path name content lines = .ok (insertBlock name content lines) := by
  rw [rewriteBlock, (unmarked_iff name path _).1 unmarked]

/-- What a block is rewritten to. -/
def Block.rewritten (block : Block name (fileParts content)) (lines : List String) : Rewrite :=
  if lines.length > 0 && block.body.map lineText = lines then .keep
  else
    .replace (if lines.length = 0 then .removed else .updated)
      (String.join block.before ++ renderBlock name lines ++ String.join block.after)

theorem rewrite_present (path : String) (lines : List String)
    (block : Block name (fileParts content)) :
    rewriteBlock path name content lines = .ok (block.rewritten lines) := by
  have found := block_markers name path _ block
  have ordered : ¬block.before.length + 1 + block.body.length < block.before.length := by omega
  obtain ⟨before, body, after⟩ := block_slices name _ block
  simp only [rewriteBlock, found, if_neg ordered, replaceBlock, body, before, after]
  rfl

/-- Any other file is refused. -/
theorem rewrite_malformed (path : String) (lines : List String)
    (marked : ¬Unmarked name (fileParts content))
    (broken : ¬Nonempty (Block name (fileParts content))) :
    ∃ text, rewriteBlock path name content lines = .error text := by
  cases found : findMarkers name path 0 (fileParts content) none none with
  | error text => exact ⟨text, by rw [rewriteBlock, found]⟩
  | ok places =>
      obtain ⟨opening, closing⟩ := places
      cases opening with
      | none =>
          cases closing with
          | none => exact absurd ((unmarked_iff name path _).2 found) marked
          | some last => exact ⟨_, by rw [rewriteBlock, found]⟩
      | some first =>
          cases closing with
          | none => exact ⟨_, by rw [rewriteBlock, found]⟩
          | some last =>
              have crossed : last < first := by
                by_contra ordered
                exact broken (block_of_markers name path _ first last ordered found)
              exact ⟨_, by rw [rewriteBlock, found]; exact if_pos crossed⟩

end Rewriting

end PgmanProxy.Runtime.BlockLayout
