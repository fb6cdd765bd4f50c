import PgmanProxy.Runtime.BlockLayout
import PgmanProxy.Runtime.ReloadGuarantees

/-!
# What applying a managed block guarantees

For lines that are lines, an apply sets the body of the block, keeps the text
around it and has nothing left to do when it is repeated. For other strings, which
the configuration accepts as well, the written body is read back differently.
Texts are sequences of characters here; a byte of the file is one character.
-/

namespace PgmanProxy.Runtime.BlockGuarantees

open PgmanProxy.Library.GoStrings PgmanProxy.Library.TextLines
open PgmanProxy.Runtime.ManagedBlock PgmanProxy.Runtime.BlockLayout
open PgmanProxy.Validation

set_option autoImplicit false

/-- The blocks `applyManagedConf` keeps. -/
def blockNames : List String := ["postgres.conf_extras", "postgres.hba_extras"]

/-- A string that is one line of the block's body. -/
structure Clean (name line : String) : Prop where
  oneLine : '\n' ∉ line.toList
  noReturn : line.toList.getLast? ≠ some '\r'
  noMarker : markerText line ≠ beginMarker name ∧ markerText line ≠ endMarker name

/-- The text before the block, its lines, and the text behind it; a file without a block
is all before it. -/
inductive Shows (name content : String) : String → Option (List String) → String → Prop where
  | unmarked (unmarked : Unmarked name (fileParts content)) : Shows name content content none ""
  | block (block : Block name (fileParts content)) :
      Shows name content (String.join block.before) (some (block.body.map lineText))
        (String.join block.after)

/-- Neither without markers nor with one block: markers repeated, alone or crossed. -/
def Malformed (name content : String) : Prop :=
  ∀ before body after, ¬Shows name content before body after

/-! ## Reading written lines back -/

theorem target_named (postgres : PostgresConfig) (target : Target)
    (listed : target ∈ targets postgres) : target.block ∈ blockNames := by
  rcases List.mem_pair.1 listed with rfl | rfl
  · exact List.mem_cons_self
  · exact List.mem_cons_of_mem _ List.mem_cons_self

theorem trim_newline (cut : Char → Bool) (line : String) (cuts : cut '\n' = true) :
    trimRight cut (line ++ "\n") = trimRight cut line := by
  rw [trimRight, trimRight, String.toList_append]
  exact congrArg String.ofList (List.rdropWhile_concat_pos _ _ _ cuts)

theorem marker_text_newline (line : String) : markerText (line ++ "\n") = markerText line :=
  trim_newline _ line (by decide)

theorem line_text_newline (line : String) : lineText (line ++ "\n") = lineText line :=
  trim_newline _ line (by decide)

theorem marker_lines (name : String) (named : name ∈ blockNames) :
    ('\n' ∉ (beginMarker name).toList ∧ markerText (beginMarker name) = beginMarker name) ∧
      '\n' ∉ (endMarker name).toList ∧ markerText (endMarker name) = endMarker name := by
  rcases List.mem_pair.1 named with rfl | rfl
  · decide
  · decide

/-- A trimmed text does not end in what was cut. -/
theorem trim_last (cut : Char → Bool) (text : String) (rune : Char)
    (last : (trimRight cut text).toList.getLast? = some rune) : cut rune = false := by
  rw [trimRight, String.toList_ofList] at last
  have nonempty : text.toList.rdropWhile cut ≠ [] := by
    intro empty
    rw [empty] at last
    cases last
  rw [List.getLast?_eq_some_getLast nonempty] at last
  have kept := List.rdropWhile_last_not cut text.toList nonempty
  rw [Option.some.inj last] at kept
  exact Bool.eq_false_iff.2 kept

theorem trim_fixed (cut : Char → Bool) (text : String)
    (last : ∀ rune, text.toList.getLast? = some rune → cut rune = false) :
    trimRight cut text = text := by
  have kept : text.toList.rdropWhile cut = text.toList := by
    rw [List.rdropWhile_eq_self_iff]
    intro nonempty cutLast
    rw [last _ (List.getLast?_eq_some_getLast nonempty)] at cutLast
    cases cutLast
  rw [trimRight, kept, String.ofList_toList]

theorem clean_line_text (name line : String) (clean : Clean name line) :
    lineText (line ++ "\n") = line := by
  rw [line_text_newline]
  apply trim_fixed
  intro rune last
  have newline : rune ≠ '\n' := by
    rintro rfl
    exact clean.oneLine (List.mem_of_getLast? last)
  have return_ : rune ≠ '\r' := by
    rintro rfl
    exact clean.noReturn last
  simp [newline, return_]

theorem clean_unmarked (name : String) (lines : List String)
    (clean : ∀ line ∈ lines, Clean name line) :
    Unmarked name (lines.map (fun line => line ++ "\n")) := by
  intro part member
  obtain ⟨line, listed, rfl⟩ := List.mem_map.1 member
  rw [marker_text_newline]
  exact (clean line listed).noMarker

theorem render_block_lines (name : String) (lines : List String) (nonempty : lines ≠ []) :
    renderBlock name lines =
      String.join ((beginMarker name :: (lines ++ [endMarker name])).map
        (fun line => line ++ "\n")) := by
  have positive : lines.length > 0 := List.length_pos_of_ne_nil nonempty
  have bodyText := intercalate_newline lines nonempty
  calc renderBlock name lines
      = beginMarker name ++ "\n" ++ ("\n".intercalate lines ++ "\n") ++
          (endMarker name ++ "\n") := by
        rw [renderBlock, if_pos positive]
        simp only [String.append_assoc]
    _ = _ := by
        rw [bodyText]
        simp [String.join_cons, String.join_append, String.append_assoc]

/-- The parts of a file into which the block was written. -/
theorem written_parts (name left right : String) (lines : List String)
    (named : name ∈ blockNames) (ended : EndedText left) (nonempty : lines ≠ [])
    (clean : ∀ line ∈ lines, Clean name line) :
    fileParts (left ++ renderBlock name lines ++ right) =
      fileParts left ++ (beginMarker name ++ "\n") ::
        (lines.map (fun line => line ++ "\n") ++ (endMarker name ++ "\n") :: fileParts right) := by
  obtain ⟨⟨openLine, -⟩, closeLine, -⟩ := marker_lines name named
  have single : ∀ line ∈ beginMarker name :: (lines ++ [endMarker name]), '\n' ∉ line.toList := by
    rw [List.forall_mem_cons, List.forall_mem_append, List.forall_mem_singleton]
    exact ⟨openLine, fun line member => (clean line member).oneLine, closeLine⟩
  have blockEnded : EndedText (renderBlock name lines) := by
    rw [render_block_lines name lines nonempty]
    exact joined_ended _
  have blockParts := text_lines_joined _ single
  rw [← render_block_lines name lines nonempty] at blockParts
  simp only [file_parts_eq]
  rw [String.append_assoc, text_lines_append _ _ ended, text_lines_append _ _ blockEnded,
    blockParts]
  simp

/-- Clean lines that are written between unmarked texts are shown as they were written. -/
theorem written_shows (name left right : String) (lines : List String)
    (named : name ∈ blockNames) (ended : EndedText left) (nonempty : lines ≠ [])
    (clean : ∀ line ∈ lines, Clean name line) (outside : Unmarked name (fileParts left))
    (behind : Unmarked name (fileParts right)) :
    Shows name (left ++ renderBlock name lines ++ right) left (some lines) right := by
  obtain ⟨⟨-, opens⟩, -, closes⟩ := marker_lines name named
  have shown := Shows.block
    { before := fileParts left
      opening := beginMarker name ++ "\n"
      body := lines.map (fun line => line ++ "\n")
      closing := endMarker name ++ "\n"
      after := fileParts right
      shape := written_parts name left right lines named ended nonempty clean
      opens := by rw [marker_text_newline, opens]
      closes := by rw [marker_text_newline, closes]
      outside := outside
      inside := clean_unmarked name lines clean
      behind := behind }
  have body : (lines.map (fun line => line ++ "\n")).map lineText = lines := by
    have same : ∀ line ∈ lines, (lineText ∘ fun line => line ++ "\n") line = id line :=
      fun line member => clean_line_text name line (clean line member)
    rw [List.map_map, List.map_congr_left same, List.map_id]
  simp only [file_parts_eq, join_text_lines, body] at shown
  exact shown

/-! ## What a rewrite keeps -/

section Texts

variable {name content : String}

/-- The texts around a block are cut into the parts around it. -/
theorem block_texts (block : Block name (fileParts content)) :
    fileParts (String.join block.before) = block.before ∧
      fileParts (String.join block.after) = block.after ∧
        EndedText (String.join block.before) := by
  have shape := block.shape
  simp only [file_parts_eq] at shape ⊢
  obtain ⟨before, -, ends⟩ := text_lines_split content _ _ shape
  have regrouped : textLines content =
      (block.before ++ block.opening :: (block.body ++ [block.closing])) ++ block.after := by
    rw [shape]
    simp
  obtain ⟨-, after, -⟩ := text_lines_split content _ _ regrouped
  exact ⟨before, after, ends (List.cons_ne_nil _ _)⟩

theorem newline_unmarked (openEnd : ¬EndedText content)
    (unmarked : Unmarked name (fileParts content)) :
    Unmarked name (fileParts (content ++ "\n")) := by
  rw [file_parts_eq] at unmarked ⊢
  obtain ⟨first, last, plain, added⟩ := text_lines_newline content openEnd
  rw [plain, unmarked_append] at unmarked
  rw [added, unmarked_append]
  refine ⟨unmarked.1, ?_⟩
  intro part member
  obtain rfl := List.mem_singleton.1 member
  rw [marker_text_newline]
  exact unmarked.2 last (List.mem_singleton.2 rfl)

theorem unmarked_shows (unmarked : Unmarked name (fileParts content)) {before after : String}
    {body : Option (List String)} (shows_ : Shows name content before body after) :
    before = content ∧ body = none ∧ after = "" := by
  cases shows_ with
  | unmarked _ => exact ⟨rfl, rfl, rfl⟩
  | block block =>
      have member : block.opening ∈
          block.before ++ block.opening :: (block.body ++ block.closing :: block.after) :=
        List.mem_append_right _ List.mem_cons_self
      rw [← block.shape] at member
      exact absurd block.opens (unmarked _ member).1

theorem shown_settled (path : String) {before after : String} {lines : List String}
    (nonempty : lines ≠ []) (shows_ : Shows name content before (some lines) after) :
    rewriteBlock path name content lines = .ok .keep := by
  have positive : lines.length > 0 := List.length_pos_of_ne_nil nonempty
  cases shows_ with
  | block block =>
      rw [rewrite_present path _ block, Block.rewritten, if_pos]
      simpa using positive

theorem shown_removed (path : String) {before after : String} {lines : List String}
    (shows_ : Shows name content before (some lines) after) :
    rewriteBlock path name content [] = .ok (.replace .removed (before ++ after)) := by
  cases shows_ with
  | block block =>
      have empty : renderBlock name [] = "" := rfl
      rw [rewrite_present path _ block, Block.rewritten, empty, String.append_empty]
      rfl

theorem planned_shows (path : String) (lines : List String) (rewrite : Rewrite)
    (planned : rewriteBlock path name content lines = .ok rewrite) :
    ∃ before body after, Shows name content before body after := by
  by_contra broken
  have marked : ¬Unmarked name (fileParts content) :=
    fun unmarked => broken ⟨_, _, _, .unmarked unmarked⟩
  have noBlock : ¬Nonempty (Block name (fileParts content)) :=
    fun ⟨block⟩ => broken ⟨_, _, _, .block block⟩
  obtain ⟨text, refused⟩ := rewrite_malformed path lines marked noBlock
  rw [refused] at planned
  cases planned

end Texts

/-- The file's text after a rewrite. -/
def rewrittenText (content : String) : Rewrite → String
  | .keep => content
  | .replace _ next => next

/-- `rewritten` has `lines` for its block and is `content` elsewhere, but for a newline that
ends the last line before an inserted block. -/
def OnlyBlockSet (name : String) (lines : List String) (content rewritten : String) : Prop :=
  ∃ before body after, Shows name content before body after ∧
    (lines = [] → rewritten = before ++ after ∧ Unmarked name (fileParts rewritten)) ∧
    (lines ≠ [] → ∃ lead, Shows name rewritten (before ++ lead) (some lines) after ∧
      (lead = "" ∨ lead = "\n" ∧ body = none ∧ ¬EndedText before))

section Rewriting

variable {name : String} {lines : List String} (named : name ∈ blockNames)
  (clean : ∀ line ∈ lines, Clean name line)

include named clean

theorem inserted_sets (content : String) (unmarked : Unmarked name (fileParts content)) :
    OnlyBlockSet name lines content (rewrittenText content (insertBlock name content lines)) := by
  refine ⟨content, none, "", .unmarked unmarked, ?_, ?_⟩
  · rintro rfl
    exact ⟨String.append_empty.symm, unmarked⟩
  · intro nonempty
    have counted : lines.length ≠ 0 := fun zero => nonempty (List.eq_nil_of_length_eq_zero zero)
    have noParts : Unmarked name (fileParts "") := by
      intro part member
      cases member
    rw [insertBlock, if_neg counted]
    by_cases ended : EndedText content
    · have asked : (content = "" || content.toList.getLast? = some '\n') = true := by
        simpa [EndedText, Ended] using ended
      have shown := written_shows name content "" lines named ended nonempty clean unmarked noParts
      rw [String.append_empty] at shown
      refine ⟨"", ?_, Or.inl rfl⟩
      rw [String.append_empty]
      simpa only [asked, rewrittenText, if_true] using shown
    · have asked : (content = "" || content.toList.getLast? = some '\n') = false := by
        simpa [EndedText, Ended] using ended
      have shown := written_shows name (content ++ "\n") "" lines named (terminated_ended content)
        nonempty clean (newline_unmarked ended unmarked) noParts
      rw [String.append_empty] at shown
      refine ⟨"\n", ?_, Or.inr ⟨rfl, rfl, ended⟩⟩
      simpa only [asked, rewrittenText, Bool.false_eq_true, if_false] using shown

theorem replaced_sets (content : String) (block : Block name (fileParts content)) :
    OnlyBlockSet name lines content (rewrittenText content (block.rewritten lines)) := by
  obtain ⟨beforeParts, afterParts, ended⟩ := block_texts block
  have outside : Unmarked name (fileParts (String.join block.before)) := by
    rw [beforeParts]
    exact block.outside
  have behind : Unmarked name (fileParts (String.join block.after)) := by
    rw [afterParts]
    exact block.behind
  refine ⟨_, _, _, .block block, ?_, ?_⟩
  · rintro rfl
    have emptied : rewrittenText content (block.rewritten []) =
        String.join block.before ++ String.join block.after := by
      have blank : renderBlock name [] = "" := rfl
      rw [Block.rewritten, blank, String.append_empty]
      rfl
    rw [emptied]
    refine ⟨rfl, ?_⟩
    rw [file_parts_eq, text_lines_append _ _ ended, ← file_parts_eq, ← file_parts_eq,
      unmarked_append]
    exact ⟨outside, behind⟩
  · intro nonempty
    have positive : lines.length > 0 := List.length_pos_of_ne_nil nonempty
    refine ⟨"", ?_, Or.inl rfl⟩
    rw [String.append_empty, Block.rewritten]
    by_cases same : block.body.map lineText = lines
    · rw [if_pos (by simpa [same] using positive)]
      have shown := Shows.block block
      rwa [same] at shown
    · rw [if_neg (by simp [same])]
      exact written_shows name _ _ lines named ended nonempty clean outside behind

/-- Every rewrite of clean lines sets the block and keeps the rest. -/
theorem rewrite_sets (path content : String) (rewrite : Rewrite)
    (planned : rewriteBlock path name content lines = .ok rewrite) :
    OnlyBlockSet name lines content (rewrittenText content rewrite) := by
  by_cases unmarked : Unmarked name (fileParts content)
  · rw [rewrite_unmarked path lines unmarked] at planned
    cases planned
    exact inserted_sets named clean content unmarked
  · by_cases present : Nonempty (Block name (fileParts content))
    · obtain ⟨block⟩ := present
      rw [rewrite_present path lines block] at planned
      cases planned
      exact replaced_sets named clean content block
    · obtain ⟨text, refused⟩ := rewrite_malformed path lines unmarked present
      rw [refused] at planned
      cases planned

end Rewriting

theorem only_block_set_settled (path name content rewritten : String) (lines : List String)
    (done : OnlyBlockSet name lines content rewritten) :
    rewriteBlock path name rewritten lines = .ok .keep := by
  obtain ⟨before, body, after, -, emptied, filled⟩ := done
  by_cases nonempty : lines = []
  · subst nonempty
    exact rewrite_unmarked path [] (emptied rfl).2
  · obtain ⟨lead, shown, -⟩ := filled nonempty
    exact shown_settled path nonempty shown

/-! ## Applying a block -/

section Applying

variable (dataDir : String) (writeFault : String → Option String)

theorem apply_ok (files next : Files) (target : Target) (action : BlockAction)
    (done : applyManagedBlock dataDir writeFault files target = (next, .ok action)) :
    ∃ content rewrite, files target.file = .ok content ∧
      rewriteBlock (dataDir ++ "/" ++ target.file) target.block content target.lines =
        .ok rewrite ∧
      next target.file = .ok (rewrittenText content rewrite) ∧
      (rewrite = .keep ∨ writeFault target.file = none) := by
  obtain ⟨content, read, step⟩ := apply_managed_block_cases files next target action done
  rcases step with ⟨kept, same, -⟩ | ⟨text, planned, writable, written⟩
  · refine ⟨content, .keep, read, kept, ?_, Or.inl rfl⟩
    rw [same]
    exact read
  · refine ⟨content, .replace action text, read, planned, ?_, Or.inr writable⟩
    rw [written]
    exact if_pos rfl

theorem apply_keep (files : Files) (target : Target) (content : String)
    (read : files target.file = .ok content)
    (settled : rewriteBlock (dataDir ++ "/" ++ target.file) target.block content target.lines =
      .ok .keep) :
    applyManagedBlock dataDir writeFault files target = (files, .ok .unchanged) := by
  simp only [applyManagedBlock, read, settled]

theorem apply_replace (files : Files) (target : Target) (content next : String)
    (action : BlockAction) (read : files target.file = .ok content)
    (planned : rewriteBlock (dataDir ++ "/" ++ target.file) target.block content target.lines =
      .ok (.replace action next))
    (writable : writeFault target.file = none) :
    applyManagedBlock dataDir writeFault files target =
      (files.write target.file next, .ok action) := by
  simp only [applyManagedBlock, read, planned, writable]

variable {dataDir writeFault}

theorem apply_sets (files next : Files) (target : Target) (action : BlockAction)
    (named : target.block ∈ blockNames) (clean : ∀ line ∈ target.lines, Clean target.block line)
    (done : applyManagedBlock dataDir writeFault files target = (next, .ok action)) :
    ∃ content rewritten, files target.file = .ok content ∧ next target.file = .ok rewritten ∧
      OnlyBlockSet target.block target.lines content rewritten := by
  obtain ⟨content, rewrite, read, planned, written, -⟩ :=
    apply_ok dataDir writeFault files next target action done
  exact ⟨content, _, read, written, rewrite_sets named clean _ content rewrite planned⟩

/-- A repeated apply of clean lines writes nothing, whatever a write would meet. -/
theorem apply_settled (files next : Files) (target : Target) (action : BlockAction)
    (laterFault : String → Option String)
    (named : target.block ∈ blockNames) (clean : ∀ line ∈ target.lines, Clean target.block line)
    (done : applyManagedBlock dataDir writeFault files target = (next, .ok action)) :
    applyManagedBlock dataDir laterFault next target = (next, .ok .unchanged) := by
  obtain ⟨content, rewritten, -, written, sets⟩ :=
    apply_sets files next target action named clean done
  exact apply_keep dataDir laterFault next target rewritten written
    (only_block_set_settled _ _ content rewritten _ sets)

/-- A block that was inserted behind a complete line is taken out without a trace. -/
theorem inserted_then_removed (files next : Files) (target : Target) (action : BlockAction)
    (content : String) (laterFault : String → Option String)
    (named : target.block ∈ blockNames) (clean : ∀ line ∈ target.lines, Clean target.block line)
    (read : files target.file = .ok content)
    (unmarked : Unmarked target.block (fileParts content)) (ended : EndedText content)
    (nonempty : target.lines ≠ []) (writable : laterFault target.file = none)
    (done : applyManagedBlock dataDir writeFault files target = (next, .ok action)) :
    applyManagedBlock dataDir laterFault next { target with lines := [] } =
      (files, .ok .removed) := by
  have others := (apply_managed_block_ok files next target action done).2
  have restored : Files.write next target.file content = files := by
    funext file
    by_cases same : file = target.file
    · rw [same, read]
      exact if_pos rfl
    · exact (if_neg same).trans (others file same)
  obtain ⟨_, rewritten, sameRead, written, before, body, after, shown, -, filled⟩ :=
    apply_sets files next target action named clean done
  rw [read] at sameRead
  cases sameRead
  obtain ⟨rfl, rfl, rfl⟩ := unmarked_shows unmarked shown
  obtain ⟨lead, inserted, atEnd⟩ := filled nonempty
  obtain rfl : lead = "" := by
    rcases atEnd with noLead | ⟨-, -, openEnd⟩
    · exact noLead
    · exact absurd ended openEnd
  have removed := shown_removed (dataDir ++ "/" ++ target.file) inserted
  simp only [String.append_empty] at removed
  rw [apply_replace dataDir laterFault next { target with lines := [] } rewritten before .removed
    written removed writable, restored]

theorem apply_malformed (files : Files) (target : Target) (content : String)
    (read : files target.file = .ok content) (broken : Malformed target.block content) :
    ∃ text, applyManagedBlock dataDir writeFault files target = (files, .error text) := by
  cases planned : rewriteBlock (dataDir ++ "/" ++ target.file) target.block content
      target.lines with
  | error text => exact ⟨text, by simp only [applyManagedBlock, read, planned]⟩
  | ok rewrite =>
      obtain ⟨before, body, after, shown⟩ := planned_shows _ _ rewrite planned
      exact absurd shown (broken before body after)

end Applying

/-- Applying clean lines sets the block and nothing else, once; a block inserted behind a
complete line can be taken out again, and a file with broken markers is left alone. -/
theorem managed_block_exact (dataDir : String) (writeFault : String → Option String)
    (files : Files) (target : Target) (named : target.block ∈ blockNames)
    (clean : ∀ line ∈ target.lines, Clean target.block line) :
    (∀ next action, applyManagedBlock dataDir writeFault files target = (next, .ok action) →
      (∃ content rewritten, files target.file = .ok content ∧ next target.file = .ok rewritten ∧
        OnlyBlockSet target.block target.lines content rewritten) ∧
      (∀ file, file ≠ target.file → next file = files file) ∧
      ∀ laterFault, applyManagedBlock dataDir laterFault next target = (next, .ok .unchanged)) ∧
    (∀ content next action, files target.file = .ok content →
      Unmarked target.block (fileParts content) → EndedText content → target.lines ≠ [] →
      applyManagedBlock dataDir writeFault files target = (next, .ok action) →
      ∀ laterFault, laterFault target.file = none →
        applyManagedBlock dataDir laterFault next { target with lines := [] } =
          (files, .ok .removed)) ∧
    ∀ content, files target.file = .ok content → Malformed target.block content →
      ∃ text, applyManagedBlock dataDir writeFault files target = (files, .error text) := by
  refine ⟨?_, ?_, ?_⟩
  · intro next action done
    exact ⟨apply_sets files next target action named clean done,
      (apply_managed_block_ok files next target action done).2,
      fun laterFault => apply_settled files next target action laterFault named clean done⟩
  · intro content next action read unmarked ended nonempty done laterFault writable
    exact inserted_then_removed files next target action content laterFault named clean read
      unmarked ended nonempty writable done
  · intro content read broken
    exact apply_malformed files target content read broken

def memoryTarget (lines : List String) : Target :=
  ⟨"postgresql.conf", "postgres.conf_extras", lines⟩

def plainFiles : Files := fun _ => .ok "port = 5432\n"

def memoryFiles : Files :=
  plainFiles.write "postgresql.conf"
    ("port = 5432\n# BEGIN pgman-proxy managed: postgres.conf_extras\nwork_mem = 8MB\n" ++
      "# END pgman-proxy managed: postgres.conf_extras\n")

theorem memory_line_clean :
    ∀ line ∈ (memoryTarget ["work_mem = 8MB"]).lines, Clean "postgres.conf_extras" line := by
  rw [memoryTarget, List.forall_mem_singleton]
  exact ⟨by decide, by decide, by decide⟩

theorem memory_block_inserted :
    applyManagedBlock "/data" (fun _ => none) plainFiles (memoryTarget ["work_mem = 8MB"]) =
      (memoryFiles, .ok .inserted) := by
  apply apply_replace "/data" (fun _ => none) plainFiles (memoryTarget ["work_mem = 8MB"])
    "port = 5432\n" _ .inserted rfl _ rfl
  decide

theorem memory_block_exact :
    applyManagedBlock "/data" (fun _ => some "disk full") memoryFiles
        (memoryTarget ["work_mem = 8MB"]) = (memoryFiles, .ok .unchanged) ∧
      applyManagedBlock "/data" (fun _ => none) memoryFiles (memoryTarget []) =
        (plainFiles, .ok .removed) := by
  have guaranteed := managed_block_exact "/data" (fun _ => none) plainFiles
    (memoryTarget ["work_mem = 8MB"]) List.mem_cons_self memory_line_clean
  have inserted := memory_block_inserted
  have unmarked : Unmarked "postgres.conf_extras" (fileParts "port = 5432\n") := by
    rw [Unmarked]
    decide
  exact ⟨(guaranteed.1 _ _ inserted).2.2 _,
    guaranteed.2.1 "port = 5432\n" _ _ rfl unmarked (Or.inr (by decide)) (List.cons_ne_nil _ _)
      inserted _ rfl⟩

/-! ## Lines that are not lines -/

theorem trim_twice (narrow wide : Char → Bool) (text : String)
    (covers : ∀ rune, narrow rune = true → wide rune = true) :
    trimRight wide (trimRight narrow text) = trimRight wide text := by
  have runes : ∀ list : List Char,
      (list.rdropWhile narrow).rdropWhile wide = list.rdropWhile wide := by
    intro list
    induction list using List.reverseRecOn with
    | nil => rfl
    | append_singleton list rune ih =>
        by_cases cut : narrow rune = true
        · rw [List.rdropWhile_concat_pos _ _ _ cut, List.rdropWhile_concat_pos _ _ _ (covers _ cut),
            ih]
        · rw [List.rdropWhile_concat_neg _ _ _ cut]
  rw [trimRight, trimRight, String.toList_ofList, runes, trimRight]

theorem line_text_newline_free (content part : String) (listed : part ∈ textLines content) :
    '\n' ∉ (lineText part).toList := by
  intro newline
  have inner := text_line_inner content part listed
  have start : (lineText part).toList <+: part.toList := by
    rw [lineText, trimRight, String.toList_ofList]
    exact List.rdropWhile_prefix _ _
  rcases List.eq_nil_or_concat part.toList with empty | ⟨front, last, shape⟩
  · rw [empty, List.prefix_nil] at start
    rw [start] at newline
    cases newline
  · rw [List.concat_eq_append] at shape
    rw [shape, List.dropLast_concat] at inner
    rw [shape, List.prefix_concat_iff] at start
    rcases start with whole | shorter
    · -- the trimmed line would still end in the newline
      rw [whole, List.mem_append, List.mem_singleton] at newline
      rcases newline with early | rfl
      · exact inner early
      · have kept := trim_last (fun rune => rune ∈ ['\r', '\n']) part '\n'
          (by rw [← lineText, whole, List.getLast?_concat])
        exact absurd kept (by decide)
    · exact inner (shorter.subset newline)

/-- What is read as a line of a body is one line: no other string is. -/
theorem block_body_clean (name content : String) (block : Block name (fileParts content))
    (part : String) (member : part ∈ block.body) : Clean name (lineText part) := by
  have listed : part ∈ textLines content := by
    have among : part ∈
        block.before ++ block.opening :: (block.body ++ block.closing :: block.after) := by
      simp [member]
    rwa [← block.shape, file_parts_eq] at among
  refine ⟨?_, ?_, ?_⟩
  · exact line_text_newline_free content part listed
  · intro last
    exact absurd (trim_last _ part '\r' last) (by decide)
  · have same : markerText (lineText part) = markerText part := by
      apply trim_twice
      intro rune cut
      simp only [List.mem_cons, List.not_mem_nil, or_false, decide_eq_true_eq] at cut ⊢
      rcases cut with rfl | rfl
      · exact Or.inl rfl
      · exact Or.inr (Or.inl rfl)
    rw [same]
    exact block.inside part member

/-- Lines that are found in place are clean. -/
theorem settled_clean (path name content : String) (lines : List String)
    (settled : rewriteBlock path name content lines = .ok .keep) :
    ∀ line ∈ lines, Clean name line := by
  by_cases unmarked : Unmarked name (fileParts content)
  · rw [rewrite_unmarked path lines unmarked, insertBlock] at settled
    split at settled
    · rename_i none_given
      rw [List.eq_nil_of_length_eq_zero none_given]
      exact fun line member => absurd member List.not_mem_nil
    · cases settled
  · by_cases present : Nonempty (Block name (fileParts content))
    · obtain ⟨block⟩ := present
      rw [rewrite_present path lines block, Block.rewritten] at settled
      split at settled
      · rename_i same
        rw [Bool.and_eq_true, decide_eq_true_eq, decide_eq_true_eq] at same
        intro line member
        rw [← same.2] at member
        obtain ⟨part, listed, rfl⟩ := List.mem_map.1 member
        exact block_body_clean name content block part listed
      · cases settled
    · obtain ⟨text, refused⟩ := rewrite_malformed path lines unmarked present
      rw [refused] at settled
      cases settled

/-- A second apply finds nothing to do. -/
def StaysStable (dataDir : String) (writeFault : String → Option String) (files : Files)
    (target : Target) : Prop :=
  ∀ next action, applyManagedBlock dataDir writeFault files target = (next, .ok action) →
    ∀ laterFault, applyManagedBlock dataDir laterFault next target = (next, .ok .unchanged)

/-- The file is readable, its markers are in order and it can be replaced. -/
def Applicable (writeFault : String → Option String) (files : Files) (target : Target) : Prop :=
  writeFault target.file = none ∧ ∃ content before body after,
    files target.file = .ok content ∧ Shows target.block content before body after

/-- No rule of the configuration looks at the extras. -/
theorem extras_unchecked (std : Stdlib) (config : Config) (hba conf : List String) :
    validate std
        { config with postgres := { config.postgres with hbaExtras := hba, confExtras := conf } } =
      validate std config := rfl

theorem applicable_applies (dataDir : String) (writeFault : String → Option String)
    (files : Files) (target : Target) (applicable : Applicable writeFault files target) :
    ∃ next action, applyManagedBlock dataDir writeFault files target = (next, .ok action) := by
  obtain ⟨writable, content, before, body, after, read, shown⟩ := applicable
  have planned : ∃ rewrite, rewriteBlock (dataDir ++ "/" ++ target.file) target.block content
      target.lines = .ok rewrite := by
    cases shown with
    | unmarked unmarked => exact ⟨_, rewrite_unmarked _ _ unmarked⟩
    | block block => exact ⟨_, rewrite_present _ _ block⟩
  obtain ⟨rewrite, planned⟩ := planned
  cases rewrite with
  | keep =>
      exact ⟨files, .unchanged,
        apply_keep dataDir writeFault files target content read planned⟩
  | replace action next =>
      exact ⟨Files.write files target.file next, action,
        apply_replace dataDir writeFault files target content next action read planned writable⟩

/-- The extras of a configuration stay as they were applied exactly when they are lines, or
the file does not take them. -/
theorem extras_stable_iff (dataDir : String) (writeFault : String → Option String)
    (files : Files) (config : Config) (target : Target)
    (listed : target ∈ targets config.postgres) :
    StaysStable dataDir writeFault files target ↔
      (Applicable writeFault files target → ∀ line ∈ target.lines, Clean target.block line) := by
  have named := target_named config.postgres target listed
  constructor
  · intro stable applicable
    obtain ⟨next, action, done⟩ := applicable_applies dataDir writeFault files target applicable
    -- the second apply succeeds where nothing can be written, so it finds its lines in place
    obtain ⟨content, rewrite, read, planned, -, idle⟩ :=
      apply_ok dataDir (fun _ => some "read-only") next next target .unchanged
        (stable next action done _)
    rcases idle with rfl | writable
    · exact settled_clean _ _ content _ planned
    · cases writable
  · intro cleanOrNot next action done laterFault
    obtain ⟨content, rewrite, read, planned, -, idle⟩ :=
      apply_ok dataDir writeFault files next target action done
    have clean : ∀ line ∈ target.lines, Clean target.block line := by
      rcases idle with rfl | writable
      · exact settled_clean _ _ content _ planned
      · apply cleanOrNot
        obtain ⟨before, body, after, shown⟩ := planned_shows _ _ rewrite planned
        exact ⟨writable, content, before, body, after, read, shown⟩
    exact apply_settled files next target action laterFault named clean done

def extrasConfig (lines : List String) : Config :=
  { ReloadGuarantees.sampleConfig 4222 ["n2:6222"] with
    postgres :=
      { (ReloadGuarantees.sampleConfig 4222 ["n2:6222"]).postgres with
        hbaExtras := []
        confExtras := lines } }

theorem extras_config_accepted (lines : List String) :
    validate ReloadGuarantees.sampleStd (extrasConfig lines) = .ok () := by
  rw [extrasConfig, extras_unchecked]
  decide

theorem memory_extras_stable :
    validate ReloadGuarantees.sampleStd (extrasConfig ["work_mem = 8MB"]) = .ok () ∧
      StaysStable "/data" (fun _ => none) plainFiles (memoryTarget ["work_mem = 8MB"]) :=
  ⟨extras_config_accepted _,
    (extras_stable_iff "/data" (fun _ => none) plainFiles (extrasConfig ["work_mem = 8MB"])
      (memoryTarget ["work_mem = 8MB"]) List.mem_cons_self).2 (fun _ => memory_line_clean)⟩

def twoLines : Target := memoryTarget ["work_mem = 8MB\nport = 5433"]

/-- The files after the first apply of `twoLines`. -/
def twoLineFiles : Files :=
  (applyManagedBlock "/data" (fun _ => none) plainFiles twoLines).1

/-- One string of two lines, as a YAML block scalar gives it: each apply reads two lines
back, takes them for another body and writes the file anew. -/
theorem two_lines_in_one_never_settle :
    validate ReloadGuarantees.sampleStd (extrasConfig ["work_mem = 8MB\nport = 5433"]) = .ok () ∧
      twoLines ∈ targets (extrasConfig ["work_mem = 8MB\nport = 5433"]).postgres ∧
      (applyManagedBlock "/data" (fun _ => none) plainFiles twoLines).2 = .ok .inserted ∧
      (applyManagedBlock "/data" (fun _ => none) twoLineFiles twoLines).2 = .ok .updated ∧
      ¬StaysStable "/data" (fun _ => none) plainFiles twoLines := by
  have inserted : (applyManagedBlock "/data" (fun _ => none) plainFiles twoLines).2 =
      .ok .inserted := by
    decide
  have updated : (applyManagedBlock "/data" (fun _ => none) twoLineFiles twoLines).2 =
      .ok .updated := by
    decide +kernel
  refine ⟨extras_config_accepted _, List.mem_cons_self, inserted, updated, ?_⟩
  intro stable
  have again := stable twoLineFiles .inserted (Prod.ext rfl inserted) (fun _ => none)
  rw [again] at updated
  cases updated

end PgmanProxy.Runtime.BlockGuarantees
