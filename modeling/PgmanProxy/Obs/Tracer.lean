import PgmanProxy.Library.GoStrings

/-!
# W3C trace context

`ParseTraceParent` and `Header`: the part of the tracer that is live while no
exporter is configured.
-/

namespace PgmanProxy.Obs.Tracer

open PgmanProxy.Library.GoStrings

set_option autoImplicit false

structure TraceContext where
  traceID : String
  spanID : String
  flags : String
deriving DecidableEq, Repr

def TraceContext.none : TraceContext := ⟨"", "", ""⟩

def TraceContext.hasTrace (context : TraceContext) : Bool :=
  context.traceID != "" && context.spanID != ""

def TraceContext.header (context : TraceContext) : String :=
  if context.hasTrace then
    let flags := if context.flags = "" then "00" else context.flags
    "00-" ++ context.traceID ++ "-" ++ context.spanID ++ "-" ++ flags
  else ""

def isHexDigit (rune : Char) : Bool :=
  ('0' ≤ rune && rune ≤ '9') || ('a' ≤ rune && rune ≤ 'f') || ('A' ≤ rune && rune ≤ 'F')

def isHex (text : String) (length : Nat) : Bool :=
  text.toList.length = length && text.toList.all isHexDigit

def isAllZero (text : String) : Bool :=
  text.toList.all (fun rune => rune = '0')

def parseTraceParent (value : String) : TraceContext :=
  if value.utf8ByteSize ≠ 55 then .none
  else
    match split '-' value with
    | [version, traceID, spanID, flags] =>
        if version ≠ "00" then .none
        else if !isHex traceID 32 || !isHex spanID 16 || !isHex flags 2 then .none
        else if isAllZero traceID || isAllZero spanID then .none
        else ⟨traceID, spanID, flags⟩
    | _ => .none

/-! ## Headers and contexts -/

def HexText (count : Nat) (text : String) : Prop :=
  text.toList.length = count ∧ ∀ rune ∈ text.toList, isHexDigit rune = true

/-- An id other than the sentinel of zeros. -/
def Nonzero (text : String) : Prop := ∃ rune ∈ text.toList, rune ≠ '0'

structure WellFormed (context : TraceContext) : Prop where
  traceID : HexText 32 context.traceID
  spanID : HexText 16 context.spanID
  flags : HexText 2 context.flags
  traceSet : Nonzero context.traceID
  spanSet : Nonzero context.spanID

/-- The header `00-T-S-F` of a context. -/
def TraceContext.line (context : TraceContext) : String :=
  "00-" ++ context.traceID ++ "-" ++ context.spanID ++ "-" ++ context.flags

theorem is_hex_iff (text : String) (count : Nat) :
    isHex text count = true ↔ HexText count text := by
  simp [isHex, HexText]

theorem not_all_zero_iff (text : String) : isAllZero text = false ↔ Nonzero text := by
  simp [isAllZero, Nonzero]

theorem hex_digit_narrow (rune : Char) (digit : isHexDigit rune = true) : rune.utf8Size = 1 := by
  have small : rune.val ≤ 0x7F := by
    simp only [isHexDigit, Bool.or_eq_true, Bool.and_eq_true, decide_eq_true_eq, Char.le_def]
      at digit
    rcases digit with (⟨_, upper⟩ | ⟨_, upper⟩) | ⟨_, upper⟩
    · exact UInt32.le_trans upper (by decide)
    · exact UInt32.le_trans upper (by decide)
    · exact UInt32.le_trans upper (by decide)
  simp [Char.utf8Size, small]

theorem hex_text_dash (count : Nat) (text : String) (hex : HexText count text) :
    '-' ∉ text.toList := by
  intro present
  exact absurd (hex.2 '-' present) (by decide)

theorem hex_text_bytes (count : Nat) (text : String) (hex : HexText count text) :
    text.utf8ByteSize = count := by
  have narrow : ∀ rune ∈ text.toList, rune.utf8Size = 1 := by
    intro rune present
    exact hex_digit_narrow rune (hex.2 rune present)
  rw [byte_size_narrow text narrow, hex.1]

theorem nonzero_ne_empty (text : String) (set : Nonzero text) : text ≠ "" := by
  rintro rfl
  obtain ⟨rune, present, _⟩ := set
  cases present

section Lines

variable (context : TraceContext)

theorem line_runes : context.line.toList = ['-'].intercalate
    (["00", context.traceID, context.spanID, context.flags].map String.toList) := by
  simp [TraceContext.line, List.intercalate]

theorem line_bytes (wellFormed : WellFormed context) : context.line.utf8ByteSize = 55 := by
  have trace := hex_text_bytes 32 _ wellFormed.traceID
  have span := hex_text_bytes 16 _ wellFormed.spanID
  have flags := hex_text_bytes 2 _ wellFormed.flags
  simp only [TraceContext.line, String.utf8ByteSize_append, trace, span, flags]
  rfl

theorem line_split (wellFormed : WellFormed context) :
    split '-' context.line = ["00", context.traceID, context.spanID, context.flags] := by
  apply split_joined '-' _ _ (List.cons_ne_nil _ _) _ (line_runes context)
  simp only [List.forall_mem_cons]
  exact ⟨by decide, hex_text_dash 32 _ wellFormed.traceID, hex_text_dash 16 _ wellFormed.spanID,
    hex_text_dash 2 _ wellFormed.flags, by simp⟩

theorem parse_line (wellFormed : WellFormed context) : parseTraceParent context.line = context := by
  have trace := (is_hex_iff _ _).2 wellFormed.traceID
  have span := (is_hex_iff _ _).2 wellFormed.spanID
  have flags := (is_hex_iff _ _).2 wellFormed.flags
  have traceSet := (not_all_zero_iff _).2 wellFormed.traceSet
  have spanSet := (not_all_zero_iff _).2 wellFormed.spanSet
  simp [parseTraceParent, line_bytes context wellFormed, line_split context wellFormed, trace,
    span, flags, traceSet, spanSet]

theorem well_formed_has_trace (wellFormed : WellFormed context) : context.hasTrace = true := by
  have trace := nonzero_ne_empty _ wellFormed.traceSet
  have span := nonzero_ne_empty _ wellFormed.spanSet
  simp [TraceContext.hasTrace, trace, span]

theorem header_eq_line (wellFormed : WellFormed context) : context.header = context.line := by
  have set : context.flags ≠ "" := by
    intro empty
    have count := wellFormed.flags.1
    rw [empty] at count
    cases count
  simp [TraceContext.header, well_formed_has_trace context wellFormed, set, TraceContext.line]

end Lines

/-- What the parser makes a trace of is the line of a well-formed context. -/
theorem parsed_trace (value : String) (found : (parseTraceParent value).hasTrace = true) :
    WellFormed (parseTraceParent value) ∧ value = (parseTraceParent value).line := by
  unfold parseTraceParent at found ⊢
  split at found
  · cases found
  rename_i size
  rw [if_neg size]
  split at found
  · rename_i version traceID spanID flags pieces
    split at found
    · cases found
    rename_i current
    rw [if_neg current]
    split at found
    · cases found
    rename_i hex
    rw [if_neg hex]
    split at found
    · cases found
    rename_i set
    rw [if_neg set]
    simp only [Bool.or_eq_true, Bool.not_eq_true', not_or, Bool.not_eq_false] at hex
    simp only [Bool.or_eq_true, not_or, Bool.not_eq_true] at set
    refine ⟨⟨(is_hex_iff _ _).1 hex.1.1, (is_hex_iff _ _).1 hex.1.2, (is_hex_iff _ _).1 hex.2,
      (not_all_zero_iff _).1 set.1, (not_all_zero_iff _).1 set.2⟩, ?_⟩
    apply String.toList_injective
    rw [line_runes, ← split_join '-' value, pieces, not_not.1 current]
  · cases found

/-- A text gives a trace exactly when it is the line of a well-formed context; rendering what
was parsed gives the text back, and parsing what was rendered the context. -/
theorem trace_parent_inverse :
    (∀ value, (parseTraceParent value).hasTrace = true ↔
      ∃ context, WellFormed context ∧
        value = "00-" ++ context.traceID ++ "-" ++ context.spanID ++ "-" ++ context.flags) ∧
      (∀ value, (parseTraceParent value).hasTrace = true →
        (parseTraceParent value).header = value) ∧
      ∀ context, WellFormed context → parseTraceParent context.header = context := by
  refine ⟨?_, ?_, ?_⟩
  · intro value
    constructor
    · intro found
      exact ⟨parseTraceParent value, parsed_trace value found⟩
    · rintro ⟨context, wellFormed, rendered⟩
      have same : value = context.line := rendered
      rw [same, parse_line context wellFormed]
      exact well_formed_has_trace context wellFormed
  · intro value found
    obtain ⟨wellFormed, line⟩ := parsed_trace value found
    rw [header_eq_line _ wellFormed]
    exact line.symm
  · intro context wellFormed
    rw [header_eq_line context wellFormed]
    exact parse_line context wellFormed

end PgmanProxy.Obs.Tracer
