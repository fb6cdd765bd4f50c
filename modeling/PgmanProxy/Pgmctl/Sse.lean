import PgmanProxy.Control.WatchFrames

/-!
# Reading a watch stream

`parseSSE` reads the connection line by line and collects the fields of a frame
until a blank line hands it out. A frame that is under way when the connection ends
is handed out as far as it got. `Tail` connects again and again, each time with the
id of the last frame that had one.
-/

namespace PgmanProxy.Pgmctl.Sse

open PgmanProxy.Library.GoBytes PgmanProxy.Library.GoJson PgmanProxy.Library.GoJsonText
open PgmanProxy.Control.WatchFrames

set_option autoImplicit false

structure Frame where
  event : List UInt8
  id : List UInt8
  data : List UInt8
deriving DecidableEq, Repr

def Frame.empty : Frame := ⟨[], [], []⟩

/-- The frame under way and the frames handed out. -/
structure Parser where
  current : Frame
  out : List Frame
deriving DecidableEq, Repr

def Parser.start : Parser := ⟨Frame.empty, []⟩

def Parser.emit (parser : Parser) : Parser :=
  if parser.current.event ≠ [] ∨ parser.current.data ≠ [] then
    ⟨Frame.empty, parser.out ++ [parser.current]⟩
  else parser

/-- The rest of the line behind `lead`, trimmed, when the line starts with it. -/
def field (lead line : List UInt8) : Option (List UInt8) :=
  if lead.isPrefixOf line then some (trimSpace (line.drop lead.length)) else none

def readLine (parser : Parser) (raw : List UInt8) : Parser :=
  let line := trimLineEnd raw
  if (utf8 ":").isPrefixOf line then parser
  else if line = [] then parser.emit
  else
    match field (utf8 "event:") line, field (utf8 "id:") line, field (utf8 "data:") line with
    | some event, _, _ => { parser with current := { parser.current with event := event } }
    | none, some id, _ => { parser with current := { parser.current with id := id } }
    | none, none, some data => { parser with current := { parser.current with data := data } }
    | none, none, none => parser

/-- How the connection ends: the reader sees `io.EOF` or another error. -/
inductive Ending where
  | eof
  | failed (why : String)
deriving DecidableEq, Repr

/-- `pending` is what `ReadString` has read of the current line. -/
def feed (ending : Ending) (parser : Parser) (pending : List UInt8) :
    List UInt8 → List Frame × Option String
  | [] =>
      let last := if pending = [] then parser else readLine parser pending
      match ending with
      | .eof => (last.emit.out, none)
      | .failed why => (last.out, some ("sse parse: " ++ why))
  | byte :: bytes =>
      if byte = newline then feed ending (readLine parser pending) [] bytes
      else feed ending parser (pending ++ [byte]) bytes

def parseSSE (ending : Ending) (bytes : List UInt8) : List Frame × Option String :=
  feed ending Parser.start [] bytes

example : (parseSSE .eof (utf8 ": hi\n\nevent: a\nid: 1\ndata: \x7b\x7d\n\nevent: b")).1 =
    [⟨utf8 "a", utf8 "1", utf8 "\x7b\x7d"⟩, ⟨utf8 "b", [], []⟩] := by decide

/-! ## Lines -/

theorem feed_line (ending : Ending) (parser : Parser) (pending text rest : List UInt8)
    (single : newline ∉ text) :
    feed ending parser pending (text ++ newline :: rest) =
      feed ending (readLine parser (pending ++ text)) [] rest := by
  induction text generalizing pending with
  | nil => rw [List.nil_append, feed, if_pos rfl, List.append_nil]
  | cons byte text ih =>
      rw [List.mem_cons, not_or] at single
      obtain ⟨other, later⟩ := single
      rw [List.cons_append, feed, if_neg (Ne.symm other), ih (pending ++ [byte]) later,
        List.append_assoc, List.singleton_append]

/-- A line that never ends stays pending. -/
theorem feed_rest (ending : Ending) (parser : Parser) (pending text : List UInt8)
    (single : newline ∉ text) :
    feed ending parser pending text = feed ending parser (pending ++ text) [] := by
  induction text generalizing pending with
  | nil => rw [List.append_nil]
  | cons byte text ih =>
      rw [List.mem_cons, not_or] at single
      obtain ⟨other, later⟩ := single
      rw [feed, if_neg (Ne.symm other), ih (pending ++ [byte]) later, List.append_assoc,
        List.singleton_append]

/-- The three fields a line can set. -/
inductive Part where
  | event
  | id
  | data

def Part.lead : Part → List UInt8
  | .event => utf8 "event:"
  | .id => utf8 "id:"
  | .data => utf8 "data:"

def Part.set (text : List UInt8) (frame : Frame) : Part → Frame
  | .event => { frame with event := text }
  | .id => { frame with id := text }
  | .data => { frame with data := text }

/-- A line that starts with a field's lead and keeps its end sets that field. -/
theorem read_part (parser : Parser) (part : Part) (text : List UInt8)
    (kept : trimLineEnd (part.lead ++ text) = part.lead ++ text) :
    readLine parser (part.lead ++ text) =
      { parser with current := part.set (trimSpace text) parser.current } := by
  unfold readLine
  rw [kept]
  cases part <;> simp [Part.lead, Part.set, field, utf8, String.utf8EncodeChar]

theorem read_blank (parser : Parser) : readLine parser [] = parser.emit := by
  simp [readLine, trimLineEnd, utf8, String.utf8EncodeChar]

theorem read_keepalive (parser : Parser) : readLine parser (utf8 ":keepalive") = parser := by
  have kept : trimLineEnd (utf8 ":keepalive") = utf8 ":keepalive" := by decide
  have comment : (utf8 ":").isPrefixOf (utf8 ":keepalive") = true := by decide
  unfold readLine
  rw [kept]
  simp only [comment, if_true]

theorem part_single (part : Part) : newline ∉ part.lead ++ [0x20] := by
  cases part <;> decide

/-- A line with a field, as the server writes it. -/
theorem read_field (parser : Parser) (part : Part) (text : List UInt8) (line : OnLine text) :
    readLine parser ((part.lead ++ [0x20]) ++ text) =
      { parser with current := part.set text parser.current } := by
  have kept := trim_line_end_trimmed (part.lead ++ [0x20]) text line.filled line.trimmed
  rw [List.append_assoc, List.singleton_append] at kept ⊢
  rw [read_part parser part _ kept, trim_space_blank, line.trimmed]

theorem field_single (part : Part) (text : List UInt8) (line : OnLine text) :
    newline ∉ (part.lead ++ [0x20]) ++ text := by
  rw [List.mem_append, not_or]
  exact ⟨part_single part, line.single⟩

theorem feed_lines (ending : Ending) (parser : Parser) (lines : List (List UInt8))
    (rest : List UInt8) (single : ∀ line ∈ lines, newline ∉ line) :
    feed ending parser [] (joinLines lines ++ rest) =
      feed ending (lines.foldl readLine parser) [] rest := by
  induction lines generalizing parser with
  | nil => rfl
  | cons line lines ih =>
      have later : ∀ other ∈ lines, newline ∉ other := by
        intro other member
        exact single other (List.mem_cons_of_mem line member)
      have split : joinLines (line :: lines) ++ rest =
          line ++ newline :: (joinLines lines ++ rest) := by simp [joinLines]
      rw [split, feed_line _ _ _ _ _ (single line List.mem_cons_self), List.nil_append,
        ih _ later, List.foldl_cons]

theorem event_lead : utf8 "event: " = Part.event.lead ++ [0x20] := by decide

theorem id_lead : utf8 "id: " = Part.id.lead ++ [0x20] := by decide

theorem data_lead : utf8 "data: " = Part.data.lead ++ [0x20] := by decide

/-! ## Frames -/

/-- The frame a write is read as, if it is one. -/
def frameOf : Write → Option Frame
  | .frame name id payload => some ⟨name, id, marshal (.obj payload)⟩
  | .gapMarker topic reason => some ⟨utf8 "gap_marker", [], marshal (gapPayload topic reason)⟩
  | .sseError code message => some ⟨utf8 "error", [], marshal (errorPayload code message)⟩
  | .keepalive => none

theorem emit_named (frame : Frame) (out : List Frame) (named : frame.event ≠ []) :
    (Parser.mk frame out).emit = ⟨Frame.empty, out ++ [frame]⟩ := by
  simp [Parser.emit, named]

theorem emit_empty (out : List Frame) : (Parser.mk Frame.empty out).emit = ⟨Frame.empty, out⟩ := by
  simp [Parser.emit, Frame.empty]

theorem gap_name_on_line : OnLine (utf8 "gap_marker") :=
  ⟨by decide, by decide, by decide⟩

theorem error_name_on_line : OnLine (utf8 "error") :=
  ⟨by decide, by decide, by decide⟩

theorem write_lines_single (write : Write) (formed : write.WellFormed) :
    ∀ line ∈ write.lines, newline ∉ line := by
  cases write with
  | frame name id payload =>
      obtain ⟨named, identified, clean⟩ := formed
      have data := field_single .data _ (object_on_line payload clean)
      simp only [Write.lines, event_lead, id_lead, data_lead, if_neg identified.filled]
      simp only [List.cons_append, List.nil_append, List.forall_mem_cons]
      exact ⟨field_single .event name named, field_single .id id identified, data,
        List.not_mem_nil, by simp⟩
  | gapMarker topic reason =>
      simp only [Write.lines, event_lead, data_lead, List.forall_mem_cons]
      exact ⟨field_single .event _ gap_name_on_line,
        field_single .data _ (gap_on_line topic reason), List.not_mem_nil, by simp⟩
  | sseError code message =>
      simp only [Write.lines, event_lead, data_lead, List.forall_mem_cons]
      exact ⟨field_single .event _ error_name_on_line,
        field_single .data _ (error_on_line code message), List.not_mem_nil, by simp⟩
  | keepalive => decide

/-- The lines of a write, read between two frames, hand out its frame. -/
theorem read_write (write : Write) (out : List Frame) (formed : write.WellFormed) :
    write.lines.foldl readLine ⟨Frame.empty, out⟩ =
      ⟨Frame.empty, out ++ (frameOf write).toList⟩ := by
  cases write with
  | frame name id payload =>
      obtain ⟨named, identified, clean⟩ := formed
      simp only [Write.lines, event_lead, id_lead, data_lead, if_neg identified.filled,
        List.cons_append, List.nil_append, List.foldl_cons, List.foldl_nil]
      rw [read_field _ _ _ named, read_field _ _ _ identified,
        read_field _ _ _ (object_on_line payload clean), read_blank]
      exact emit_named _ out named.filled
  | gapMarker topic reason =>
      simp only [Write.lines, event_lead, data_lead, List.foldl_cons, List.foldl_nil]
      rw [read_field _ _ _ gap_name_on_line, read_field _ _ _ (gap_on_line topic reason),
        read_blank]
      exact emit_named _ out gap_name_on_line.filled
  | sseError code message =>
      simp only [Write.lines, event_lead, data_lead, List.foldl_cons, List.foldl_nil]
      rw [read_field _ _ _ error_name_on_line, read_field _ _ _ (error_on_line code message),
        read_blank]
      exact emit_named _ out error_name_on_line.filled
  | keepalive =>
      simp only [Write.lines, List.foldl_cons, List.foldl_nil]
      rw [read_keepalive, read_blank, emit_empty]
      simp [frameOf]

/-- Whole writes are read as their frames, and the reader is between frames again. -/
theorem feed_writes (ending : Ending) (writes : List Write) (out : List Frame)
    (rest : List UInt8) (formed : ∀ write ∈ writes, write.WellFormed) :
    feed ending ⟨Frame.empty, out⟩ [] (writes.flatMap Write.bytes ++ rest) =
      feed ending ⟨Frame.empty, out ++ writes.filterMap frameOf⟩ [] rest := by
  induction writes generalizing out with
  | nil => simp
  | cons write writes ih =>
      have first := formed write List.mem_cons_self
      have later : ∀ other ∈ writes, other.WellFormed := by
        intro other member
        exact formed other (List.mem_cons_of_mem write member)
      rw [List.flatMap_cons, List.append_assoc, write_bytes_lines,
        feed_lines _ _ _ _ (write_lines_single write first), read_write write out first,
        ih _ later]
      cases frame : frameOf write <;> simp [frame]

/-- What the server wrote, frame by frame, is what the reader hands out. -/
theorem sse_round_trip (writes : List Write) (formed : ∀ write ∈ writes, write.WellFormed) :
    parseSSE .eof (writes.flatMap Write.bytes) = (writes.filterMap frameOf, none) := by
  have whole := feed_writes .eof writes [] [] formed
  rw [List.append_nil] at whole
  rw [parseSSE, Parser.start, whole, feed]
  simp [emit_empty]

theorem sse_round_trip_mixed :
    parseSSE .eof ([Write.frame (utf8 "cluster_event") (utf8 "01a") [("type", .str "a\nb")],
        .keepalive, .gapMarker .events "subscription_closed"].flatMap Write.bytes) =
      ([⟨utf8 "cluster_event", utf8 "01a", utf8 "\x7b\"type\":\"a\\nb\"\x7d"⟩,
        ⟨utf8 "gap_marker", [],
          utf8 "\x7b\"reason\":\"subscription_closed\",\"topic\":\"events\"\x7d"⟩], none) := by
  rw [sse_round_trip]
  · decide
  · intro write member
    simp only [List.mem_cons, List.not_mem_nil, or_false] at member
    rcases member with rfl | rfl | rfl
    · exact ⟨⟨by decide, by decide, by decide⟩, ⟨by decide, by decide, by decide⟩, rfl⟩
    · trivial
    · trivial

/-! ## Reconnecting -/

/-- What `Tail` carries from one connection to the next: the last id it saw, and the frames
it has handed to its caller. -/
structure Tail where
  lastID : List UInt8
  handed : List Frame
deriving DecidableEq, Repr

def pipeFrame (tail : Tail) (frame : Frame) : Tail :=
  ⟨if frame.id ≠ [] then frame.id else tail.lastID, tail.handed ++ [frame]⟩

def pipeFrames (tail : Tail) (frames : List Frame) : Tail := frames.foldl pipeFrame tail

/-- One connection: what was received of it goes through the parser. -/
def connect (tail : Tail) (ending : Ending) (received : List UInt8) : Tail :=
  pipeFrames tail (parseSSE ending received).1

theorem pipe_handed (tail : Tail) (frames : List Frame) :
    (pipeFrames tail frames).handed = tail.handed ++ frames := by
  unfold pipeFrames
  induction frames generalizing tail with
  | nil => rw [List.foldl_nil, List.append_nil]
  | cons frame frames ih =>
      rw [List.foldl_cons, ih, pipeFrame, List.append_assoc, List.singleton_append]

end PgmanProxy.Pgmctl.Sse
