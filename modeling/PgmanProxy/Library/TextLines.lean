import PgmanProxy.Library.GoStrings

/-!
# The lines of a text

A text is cut behind every newline; the last line may lack its own. Cutting and
joining are inverse, and a text whose first half ends in a newline is cut half by
half. The results are proved on runes and restated for strings.
-/

namespace PgmanProxy.Library.TextLines

open PgmanProxy.Library.GoStrings

set_option autoImplicit false

/-- The lines with their terminators. -/
def linesOf : List Char → List (List Char)
  | [] => []
  | rune :: runes =>
      if rune = '\n' then ['\n'] :: linesOf runes
      else
        match linesOf runes with
        | [] => [[rune]]
        | line :: lines => (rune :: line) :: lines

/-- Nothing, or text up to the end of a line. -/
def Ended (runes : List Char) : Prop := runes = [] ∨ runes.getLast? = some '\n'

/-! ## Runes -/

theorem ended_tail (rune : Char) (runes : List Char) (ended : Ended (rune :: runes)) :
    Ended runes := by
  cases runes with
  | nil => exact Or.inl rfl
  | cons next runes =>
      right
      rcases ended with empty | last
      · cases empty
      · rwa [List.getLast?_cons_cons] at last

theorem ended_append (left right : List Char) (ended : Ended right) (leftEnded : Ended left) :
    Ended (left ++ right) := by
  rcases ended with rfl | last
  · rwa [List.append_nil]
  · right
    rw [List.getLast?_append, last]
    rfl

theorem lines_eq_nil (runes : List Char) : linesOf runes = [] ↔ runes = [] := by
  cases runes with
  | nil => simp [linesOf]
  | cons rune runes =>
      refine iff_of_false ?_ (List.cons_ne_nil _ _)
      rw [linesOf]
      split
      · exact List.cons_ne_nil _ _
      · split <;> exact List.cons_ne_nil _ _

theorem lines_flatten (runes : List Char) : (linesOf runes).flatten = runes := by
  induction runes with
  | nil => rfl
  | cons rune runes ih =>
      rw [linesOf]
      by_cases newline : rune = '\n'
      · rw [if_pos newline, List.flatten_cons, ih, newline]
        rfl
      · rw [if_neg newline]
        cases lines : linesOf runes with
        | nil =>
            rw [(lines_eq_nil runes).1 lines]
            rfl
        | cons line rest =>
            rw [lines] at ih
            rw [List.flatten_cons, List.cons_append, ← List.flatten_cons, ih]

theorem lines_append (left right : List Char) (ended : Ended left) :
    linesOf (left ++ right) = linesOf left ++ linesOf right := by
  induction left with
  | nil => rfl
  | cons rune left ih =>
      have split := ih (ended_tail rune left ended)
      rw [List.cons_append, linesOf, linesOf, split]
      by_cases newline : rune = '\n'
      · rw [if_pos newline, if_pos newline, List.cons_append]
      · rw [if_neg newline, if_neg newline]
        cases lines : linesOf left with
        | nil =>
            -- the text would end in `rune`
            rw [(lines_eq_nil left).1 lines] at ended
            rcases ended with empty | last
            · cases empty
            · exact absurd (Option.some.inj last) newline
        | cons line rest => rfl

theorem lines_terminated (line : List Char) (clean : '\n' ∉ line) :
    linesOf (line ++ ['\n']) = [line ++ ['\n']] := by
  induction line with
  | nil => rfl
  | cons rune line ih =>
      rw [List.mem_cons, not_or] at clean
      rw [List.cons_append, linesOf, if_neg (Ne.symm clean.1), ih clean.2]

/-- The first line: up to a newline, or all there is. -/
theorem lines_cons (runes line : List Char) (lines : List (List Char))
    (cut : linesOf runes = line :: lines) :
    (∃ text, '\n' ∉ text ∧ line = text ++ ['\n'] ∧ linesOf lines.flatten = lines) ∨
      (line = runes ∧ lines = []) := by
  induction runes generalizing line with
  | nil => cases cut
  | cons rune runes ih =>
      rw [linesOf] at cut
      by_cases newline : rune = '\n'
      · rw [if_pos newline] at cut
        obtain ⟨rfl, rfl⟩ := List.cons.inj cut
        left
        exact ⟨[], List.not_mem_nil, rfl, by rw [lines_flatten]⟩
      · rw [if_neg newline] at cut
        cases later : linesOf runes with
        | nil =>
            rw [later] at cut
            obtain ⟨rfl, rfl⟩ := List.cons.inj cut
            rw [(lines_eq_nil runes).1 later]
            exact Or.inr ⟨rfl, rfl⟩
        | cons head rest =>
            rw [later] at cut
            obtain ⟨rfl, rfl⟩ := List.cons.inj cut
            rcases ih head later with ⟨text, clean, rfl, inverse⟩ | ⟨rfl, none_left⟩
            · left
              refine ⟨rune :: text, ?_, rfl, inverse⟩
              rw [List.mem_cons, not_or]
              exact ⟨Ne.symm newline, clean⟩
            · exact Or.inr ⟨rfl, none_left⟩

/-- Each half of the lines is cut from its own text, and the first text ends in a newline
if a line follows it. -/
theorem lines_split (runes : List Char) (left right : List (List Char))
    (cut : linesOf runes = left ++ right) :
    linesOf left.flatten = left ∧ linesOf right.flatten = right ∧
      (right ≠ [] → Ended left.flatten) := by
  induction left generalizing runes with
  | nil =>
      rw [List.nil_append] at cut
      refine ⟨rfl, ?_, fun _ => Or.inl rfl⟩
      rw [← cut, lines_flatten]
  | cons line left ih =>
      rcases lines_cons runes line (left ++ right) cut with
        ⟨text, clean, rfl, inverse⟩ | ⟨rfl, none_left⟩
      · obtain ⟨leftCut, rightCut, ends⟩ := ih _ inverse
        have terminated : Ended (text ++ ['\n']) := Or.inr List.getLast?_concat
        refine ⟨?_, rightCut, fun more => ?_⟩
        · rw [List.flatten_cons, lines_append _ _ terminated, lines_terminated text clean, leftCut]
          rfl
        · rw [List.flatten_cons]
          exact ended_append _ _ (ends more) terminated
      · obtain ⟨rfl, rfl⟩ := List.append_eq_nil_iff.1 none_left
        refine ⟨?_, rfl, fun more => absurd rfl more⟩
        rw [List.flatten_singleton]
        exact cut

/-- A line has its newline at its end if it has one. -/
theorem line_inner (runes : List Char) : ∀ line ∈ linesOf runes, '\n' ∉ line.dropLast := by
  induction runes with
  | nil =>
      intro line member
      cases member
  | cons rune runes ih =>
      rw [linesOf]
      by_cases newline : rune = '\n'
      · rw [if_pos newline, List.forall_mem_cons]
        exact ⟨List.not_mem_nil, ih⟩
      · rw [if_neg newline]
        cases lines : linesOf runes with
        | nil =>
            rw [List.forall_mem_singleton]
            exact List.not_mem_nil
        | cons head rest =>
            rw [lines, List.forall_mem_cons] at ih
            dsimp only
            rw [List.forall_mem_cons]
            refine ⟨?_, ih.2⟩
            cases head with
            | nil => exact List.not_mem_nil
            | cons next head =>
                rw [List.dropLast_cons_cons, List.mem_cons, not_or]
                exact ⟨Ne.symm newline, ih.1⟩

/-- A newline at the end of a text that lacks it goes to the last line. -/
theorem lines_newline (runes : List Char) (open_end : ¬Ended runes) :
    ∃ first last, linesOf runes = first ++ [last] ∧
      linesOf (runes ++ ['\n']) = first ++ [last ++ ['\n']] := by
  induction runes with
  | nil => exact absurd (Or.inl rfl) open_end
  | cons rune runes ih =>
      by_cases single : runes = []
      · subst single
        have other : rune ≠ '\n' := by
          rintro rfl
          exact open_end (Or.inr rfl)
        refine ⟨[], [rune], ?_, ?_⟩
        · simp [linesOf, other]
        · simp [linesOf, other]
      · have tail : ¬Ended runes := by
          rintro (empty | last)
          · exact single empty
          · apply open_end
            right
            obtain ⟨next, rest, rfl⟩ := List.exists_cons_of_ne_nil single
            rwa [List.getLast?_cons_cons]
        obtain ⟨first, last, plain, added⟩ := ih tail
        rw [List.cons_append, linesOf, linesOf, plain, added]
        by_cases newline : rune = '\n'
        · exact ⟨['\n'] :: first, last, by rw [if_pos newline]; rfl, by rw [if_pos newline]; rfl⟩
        · rw [if_neg newline, if_neg newline]
          cases first with
          | nil => exact ⟨[], rune :: last, rfl, rfl⟩
          | cons head first => exact ⟨(rune :: head) :: first, last, rfl, rfl⟩

/-- `strings.SplitAfter` at newlines, without an empty last piece. -/
theorem split_after_lines (runes : List Char) :
    (if (splitAfter '\n' runes).getLast? = some [] then (splitAfter '\n' runes).dropLast
      else splitAfter '\n' runes) = linesOf runes := by
  induction runes with
  | nil => rfl
  | cons rune runes ih =>
      rw [splitAfter, linesOf, ← ih]
      by_cases newline : rune = '\n'
      · subst newline
        cases pieces : splitAfter '\n' runes with
        | nil =>
            rw [pieces] at ih
            exact absurd ((lines_eq_nil runes).1 ih.symm) (by rintro rfl; cases pieces)
        | cons piece rest =>
            rw [if_pos rfl, if_pos rfl, List.getLast?_cons_cons, List.dropLast_cons_cons]
            split <;> rfl
      · rw [if_neg newline, if_neg newline]
        cases splitAfter '\n' runes with
        | nil => simp
        | cons piece rest =>
            cases rest with
            | nil => by_cases blank : piece = [] <;> simp [blank]
            | cons second rest =>
                dsimp only
                rw [List.getLast?_cons_cons, List.getLast?_cons_cons, List.dropLast_cons_cons,
                  List.dropLast_cons_cons]
                split <;> rfl

/-! ## Strings -/

def textLines (text : String) : List String := (linesOf text.toList).map String.ofList

def EndedText (text : String) : Prop := Ended text.toList

theorem runes_join (lines : List (List Char)) :
    (String.join (lines.map String.ofList)).toList = lines.flatten := by
  rw [String.toList_join, List.flatMap_map, List.flatMap_def]
  simp

theorem join_text_lines (text : String) : String.join (textLines text) = text := by
  apply String.toList_inj.1
  rw [textLines, runes_join, lines_flatten]

theorem text_lines_append (left right : String) (ended : EndedText left) :
    textLines (left ++ right) = textLines left ++ textLines right := by
  rw [textLines, String.toList_append, lines_append _ _ ended, List.map_append]
  rfl

theorem text_line_inner (text : String) :
    ∀ line ∈ textLines text, '\n' ∉ line.toList.dropLast := by
  intro line member
  obtain ⟨runes, listed, rfl⟩ := List.mem_map.1 member
  rw [String.toList_ofList]
  exact line_inner text.toList runes listed

theorem terminated_ended (line : String) : EndedText (line ++ "\n") := by
  right
  rw [String.toList_append]
  exact List.getLast?_concat

theorem joined_ended (lines : List String) :
    EndedText (String.join (lines.map (fun line => line ++ "\n"))) := by
  induction lines with
  | nil => exact Or.inl rfl
  | cons line lines ih =>
      rw [List.map_cons, String.join_cons, EndedText, String.toList_append]
      exact ended_append _ _ ih (terminated_ended line)

/-- Lines that are written with their newlines are read back as they are. -/
theorem text_lines_joined (lines : List String) (clean : ∀ line ∈ lines, '\n' ∉ line.toList) :
    textLines (String.join (lines.map (fun line => line ++ "\n"))) =
      lines.map (fun line => line ++ "\n") := by
  induction lines with
  | nil => rfl
  | cons line lines ih =>
      rw [List.forall_mem_cons] at clean
      have first : textLines (line ++ "\n") = [line ++ "\n"] := by
        have cut : linesOf (line ++ "\n").toList = [(line ++ "\n").toList] := by
          rw [String.toList_append]
          exact lines_terminated line.toList clean.1
        rw [textLines, cut, List.map_singleton, String.ofList_toList]
      rw [List.map_cons, String.join_cons, text_lines_append _ _ (terminated_ended line), first,
        ih clean.2, List.singleton_append]

/-- Each half of the lines is cut from its own text. -/
theorem text_lines_split (text : String) (left right : List String)
    (cut : textLines text = left ++ right) :
    textLines (String.join left) = left ∧ textLines (String.join right) = right ∧
      (right ≠ [] → EndedText (String.join left)) := by
  obtain ⟨leftRunes, rightRunes, halves, rfl, rfl⟩ := List.map_eq_append_iff.1 cut
  obtain ⟨leftCut, rightCut, ends⟩ := lines_split text.toList leftRunes rightRunes halves
  refine ⟨?_, ?_, fun more => ?_⟩
  · rw [textLines, runes_join, leftCut]
  · rw [textLines, runes_join, rightCut]
  · rw [EndedText, runes_join]
    exact ends (fun none_left => more (by rw [none_left]; rfl))

theorem text_lines_newline (text : String) (open_end : ¬EndedText text) :
    ∃ first last, textLines text = first ++ [last] ∧
      textLines (text ++ "\n") = first ++ [last ++ "\n"] := by
  obtain ⟨first, last, plain, added⟩ := lines_newline text.toList open_end
  refine ⟨first.map String.ofList, String.ofList last, ?_, ?_⟩
  · rw [textLines, plain, List.map_append]
    rfl
  · have runes : (text ++ "\n").toList = text.toList ++ ['\n'] := String.toList_append
    rw [textLines, runes, added, List.map_append, List.map_singleton, String.ofList_append]

/-- Joining with newlines and ending with one is writing each line with its newline. -/
theorem intercalate_newline (lines : List String) (nonempty : lines ≠ []) :
    "\n".intercalate lines ++ "\n" = String.join (lines.map (fun line => line ++ "\n")) := by
  induction lines with
  | nil => exact absurd rfl nonempty
  | cons line lines ih =>
      cases lines with
      | nil => simp [String.join_cons, String.join_nil]
      | cons second lines =>
          rw [List.map_cons, String.join_cons, ← ih (List.cons_ne_nil _ _)]
          apply String.toList_inj.1
          simp [String.toList_intercalate, List.intercalate]

end PgmanProxy.Library.TextLines
