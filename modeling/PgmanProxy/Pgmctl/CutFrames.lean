import Mathlib.Tactic.IntervalCases
import PgmanProxy.Control.WatchHandlers
import PgmanProxy.Pgmctl.Sse

/-!
# A connection cut in the middle of a frame

The connection may break after any byte. The parser hands out what it has of the frame
under way as soon as that has a name or data. So the cut does no harm in front of the
name and behind the last byte of the data, and anywhere between it makes a frame of the
pieces that arrived.
-/

namespace PgmanProxy.Pgmctl.CutFrames

open PgmanProxy.Library.GoBytes PgmanProxy.Library.GoJson PgmanProxy.Library.GoJsonText
open PgmanProxy.Control.WatchFrames PgmanProxy.Control.WatchHandlers PgmanProxy.Pgmctl.Sse

set_option autoImplicit false

/-! ## The last line -/

/-- A field's line, as the server writes it. -/
def fieldLine (part : Part) (text : List UInt8) : List UInt8 := (part.lead ++ [0x20]) ++ text

theorem field_line_length (part : Part) (text : List UInt8) :
    (fieldLine part text).length = part.lead.length + 1 + text.length := by
  rw [fieldLine, List.length_append, List.length_append, List.length_singleton]

theorem field_line_single (part : Part) (text : List UInt8) (line : OnLine text) :
    newline ∉ fieldLine part text := field_single part text line

/-- What the parser does with a line that the connection broke off. -/
def finishLine (parser : Parser) (text : List UInt8) : Parser :=
  if text = [] then parser else readLine parser text

theorem feed_broken_line (parser : Parser) (text : List UInt8) (single : newline ∉ text) :
    feed .eof parser [] text = ((finishLine parser text).emit.out, none) := by
  rw [feed_rest _ _ _ _ single, List.nil_append]
  rfl

/-- The cut falls into the first line, or that line is read and the cut falls behind it. -/
theorem feed_cut_line (parser : Parser) (line rest : List UInt8) (cut : Nat)
    (single : newline ∉ line) :
    feed .eof parser [] ((line ++ newline :: rest).take cut) =
      if cut ≤ line.length then ((finishLine parser (line.take cut)).emit.out, none)
      else feed .eof (readLine parser line) [] (rest.take (cut - (line.length + 1))) := by
  split
  · rename_i inside
    rw [List.take_append_of_le_length inside]
    exact feed_broken_line parser _ (fun present => single (List.mem_of_mem_take present))
  · rename_i behind
    obtain ⟨more, count⟩ : ∃ more, cut = line.length + (more + 1) :=
      ⟨cut - (line.length + 1), by omega⟩
    have left : cut - (line.length + 1) = more := by omega
    rw [left, count, List.take_length_add_append, List.take_succ_cons,
      feed_line _ _ _ _ _ single, List.nil_append]

/-- A line that begins in a byte which ends no line keeps that byte. -/
theorem trim_line_end_head (byte : UInt8) (rest : List UInt8) (solid : byte ≠ 0x0D)
    (inner : byte ≠ newline) :
    ∃ kept, trimLineEnd (byte :: rest) = byte :: kept ∧ kept <+: rest := by
  have inside : trimLineEnd (byte :: rest) <+: byte :: rest := List.rdropWhile_prefix _ _
  have filled : trimLineEnd (byte :: rest) ≠ [] := by
    intro empty
    have all := (List.rdropWhile_eq_nil_iff.1 empty) byte List.mem_cons_self
    simp [solid, inner] at all
  cases trimmed : trimLineEnd (byte :: rest) with
  | nil => exact absurd trimmed filled
  | cons first kept =>
      rw [trimmed, List.cons_prefix_cons] at inside
      obtain ⟨rfl, rest_prefix⟩ := inside
      exact ⟨kept, rfl, rest_prefix⟩

theorem read_id_line (parser : Parser) (raw rest : List UInt8)
    (trimmed : trimLineEnd raw = 0x69 :: rest) :
    (readLine parser raw).current.event = parser.current.event ∧
      (readLine parser raw).current.data = parser.current.data ∧
      (readLine parser raw).out = parser.out := by
  have other : ∀ lead : List UInt8, lead.head? ≠ some 0x69 → lead ≠ [] →
      lead.isPrefixOf (0x69 :: rest) = false := by
    intro lead head filled
    exact not_initial lead rest 0x69 filled head
  have comment := other (utf8 ":") (by decide) (by decide)
  have event := other (utf8 "event:") (by decide) (by decide)
  have data := other (utf8 "data:") (by decide) (by decide)
  unfold readLine
  rw [trimmed]
  simp only [comment, field, event, data, Bool.false_eq_true, if_false, List.cons_ne_nil]
  split <;> simp_all

theorem read_data_line (parser : Parser) (raw rest : List UInt8)
    (trimmed : trimLineEnd raw = 0x64 :: rest) :
    readLine parser raw =
      match field (utf8 "data:") (0x64 :: rest) with
      | some data => { parser with current := { parser.current with data := data } }
      | none => parser := by
  have other : ∀ lead : List UInt8, lead.head? ≠ some 0x64 → lead ≠ [] →
      lead.isPrefixOf (0x64 :: rest) = false := by
    intro lead head filled
    exact not_initial lead rest 0x64 filled head
  have comment := other (utf8 ":") (by decide) (by decide)
  have event := other (utf8 "event:") (by decide) (by decide)
  have id := other (utf8 "id:") (by decide) (by decide)
  unfold readLine
  rw [trimmed]
  simp only [comment, field, event, id, Bool.false_eq_true, if_false, List.cons_ne_nil]
  split <;> simp_all

/-- Whatever arrived of an id line, the name and the data stay as they were. -/
theorem broken_id_line (parser : Parser) (id : List UInt8) (cut : Nat) :
    (finishLine parser ((fieldLine .id id).take cut)).current.event = parser.current.event ∧
      (finishLine parser ((fieldLine .id id).take cut)).current.data = parser.current.data ∧
      (finishLine parser ((fieldLine .id id).take cut)).out = parser.out := by
  cases cut with
  | zero => exact ⟨rfl, rfl, rfl⟩
  | succ cut =>
      have first : (fieldLine .id id).take (cut + 1) =
          0x69 :: ([0x64, 0x3A, 0x20] ++ id).take cut := rfl
      obtain ⟨kept, trimmed, _⟩ := trim_line_end_head 0x69 (([0x64, 0x3A, 0x20] ++ id).take cut)
        (by decide) (by decide)
      rw [first, finishLine, if_neg (List.cons_ne_nil _ _)]
      exact read_id_line parser _ kept trimmed

/-- Behind the lead the line goes on with a blank, which does not count. -/
theorem broken_value_short (json value : List UInt8) (cut : Nat) (short : cut ≤ json.length)
    (filled : 0 < json.length) (inside : value <+: (0x20 :: json).take cut) :
    (trimSpace value).length < json.length := by
  cases value with
  | nil => exact filled
  | cons blank text =>
      have bound := inside.length_le
      have whole := inside.trans (List.take_prefix _ _)
      rw [List.cons_prefix_cons] at whole
      rw [whole.1, trim_space_blank]
      have trimmed := trim_space_length text
      rw [List.length_cons, List.length_take] at bound
      omega

/-- A data line that is not whole yields less than the whole data. -/
theorem broken_data_line (parser : Parser) (json : List UInt8) (cut : Nat)
    (short : cut < (fieldLine .data json).length) (filled : 0 < json.length)
    (unset : parser.current.data = []) :
    (finishLine parser ((fieldLine .data json).take cut)).current.event =
        parser.current.event ∧
      (finishLine parser ((fieldLine .data json).take cut)).current.data.length < json.length ∧
      (finishLine parser ((fieldLine .data json).take cut)).out = parser.out := by
  have size : (fieldLine .data json).length = 6 + json.length := field_line_length .data json
  cases cut with
  | zero =>
      refine ⟨rfl, ?_, rfl⟩
      rw [List.take_zero, finishLine, if_pos rfl, unset]
      exact filled
  | succ cut =>
      have first : (fieldLine .data json).take (cut + 1) =
          0x64 :: ([0x61, 0x74, 0x61, 0x3A, 0x20] ++ json).take cut := rfl
      obtain ⟨kept, trimmed, inside⟩ := trim_line_end_head 0x64
        (([0x61, 0x74, 0x61, 0x3A, 0x20] ++ json).take cut) (by decide) (by decide)
      rw [first, finishLine, if_neg (List.cons_ne_nil _ _), read_data_line parser _ kept trimmed]
      have behind : kept.drop 4 <+: (0x20 :: json).take (cut - 4) := by
        have dropped := inside.drop 4
        rw [List.drop_take] at dropped
        exact dropped
      have value := broken_value_short json (kept.drop 4) (cut - 4) (by omega) filled behind
      unfold field
      split
      · rename_i data found
        split at found
        · cases found
          exact ⟨rfl, value, rfl⟩
        · cases found
      · refine ⟨rfl, ?_, rfl⟩
        rw [unset]
        exact filled

/-- Every beginning of the name is free of white space. -/
def Sturdy (name : List UInt8) : Prop :=
  ∀ part, part ≠ [] → part <+: name → trimSpace part = part

theorem broken_event_lead (out : List Frame) (name : List UInt8) (cut : Nat) (early : cut ≤ 7) :
    (finishLine ⟨Frame.empty, out⟩ ((fieldLine .event name).take cut)).emit.out = out := by
  have inside : (fieldLine .event name).take cut = (utf8 "event: ").take cut :=
    List.take_append_of_le_length early
  rw [inside]
  interval_cases cut <;> rfl

theorem broken_event_name (out : List Frame) (name : List UInt8) (cut : Nat) (late : 7 < cut)
    (within : cut ≤ (fieldLine .event name).length) (named : OnLine name) (sturdy : Sturdy name) :
    (finishLine ⟨Frame.empty, out⟩ ((fieldLine .event name).take cut)).emit.out =
      out ++ [⟨name.take (cut - 7), [], []⟩] := by
  obtain ⟨count, rfl⟩ : ∃ count, cut = 7 + count := ⟨cut - 7, by omega⟩
  have lead : (Part.event.lead ++ [0x20]).length = 7 := rfl
  have split : (fieldLine .event name).take (7 + count) = fieldLine .event (name.take count) := by
    rw [fieldLine, ← lead, List.take_length_add_append, fieldLine]
  have filled : name.take count ≠ [] := by
    intro empty
    rcases List.take_eq_nil_iff.1 empty with zero | nothing
    · omega
    · exact named.filled nothing
  have line : OnLine (name.take count) :=
    ⟨filled, fun present => named.single (List.mem_of_mem_take present),
      sturdy _ filled (List.take_prefix _ _)⟩
  have number : 7 + count - 7 = count := by omega
  have solid : fieldLine .event (name.take count) ≠ [] := by simp [fieldLine]
  rw [split, number, finishLine, if_neg solid, fieldLine, read_field _ .event _ line]
  exact congrArg Parser.out (emit_named _ out filled)

/-! ## One frame -/

theorem frame_bytes (name id : List UInt8) (payload : List (String × Json)) (numbered : id ≠ []) :
    (Write.frame name id payload).bytes = fieldLine .event name ++ newline ::
      (fieldLine .id id ++ newline ::
        (fieldLine .data (marshal (.obj payload)) ++ newline :: [newline])) := by
  simp [Write.bytes, writeFrame, fieldLine, event_lead, id_lead, data_lead, numbered]

theorem emit_out (parser : Parser) (named : parser.current.event ≠ []) :
    parser.emit.out = parser.out ++ [parser.current] := by
  simp [Parser.emit, named]

/-- The data has arrived, and at most the line ends are missing. -/
theorem feed_line_ends (frame : Frame) (out : List Frame) (cut : Nat) (named : frame.event ≠ []) :
    feed .eof ⟨frame, out⟩ [] ([newline].take cut) = (out ++ [frame], none) := by
  cases cut with
  | zero =>
      rw [List.take_zero, feed]
      exact congrArg (Prod.mk · none) (emit_out ⟨frame, out⟩ named)
  | succ cut =>
      rw [List.take_succ_cons, feed, if_pos rfl, read_blank, emit_named _ _ named, List.take_nil,
        feed]
      simp [emit_empty]

section CutFrame

variable (out : List Frame) (name id json : List UInt8) (cut : Nat)

/-- Less than the whole data line gives less than the data. -/
theorem cut_data (named : name ≠ []) (body : OnLine json) :
    ∃ frame, feed .eof ⟨⟨name, id, []⟩, out⟩ []
        ((fieldLine .data json ++ newline :: [newline]).take cut) = (out ++ [frame], none) ∧
      (cut < (fieldLine .data json).length → frame.data ≠ json) ∧
      ((fieldLine .data json).length ≤ cut → frame = ⟨name, id, json⟩) := by
  have read : readLine ⟨⟨name, id, []⟩, out⟩ (fieldLine .data json) = ⟨⟨name, id, json⟩, out⟩ :=
    read_field _ .data _ body
  rw [feed_cut_line _ _ _ _ (field_line_single .data _ body)]
  rcases Nat.lt_trichotomy cut (fieldLine .data json).length with short | level | long
  · obtain ⟨event, data, before⟩ := broken_data_line ⟨⟨name, id, []⟩, out⟩ json cut short
      (List.length_pos_iff.2 body.filled) rfl
    refine ⟨(finishLine ⟨⟨name, id, []⟩, out⟩ ((fieldLine .data json).take cut)).current, ?_,
      fun _ same => ?_, fun reached => by omega⟩
    · rw [if_pos (Nat.le_of_lt short), emit_out _ (by rw [event]; exact named), before]
    · rw [same] at data
      exact Nat.lt_irrefl _ data
  · have filled : fieldLine .data json ≠ [] := by simp [fieldLine]
    refine ⟨⟨name, id, json⟩, ?_, fun short => by omega, fun _ => rfl⟩
    rw [if_pos (Nat.le_of_eq level), level, List.take_length, finishLine, if_neg filled, read]
    exact congrArg (Prod.mk · none) (emit_out ⟨⟨name, id, json⟩, out⟩ named)
  · refine ⟨⟨name, id, json⟩, ?_, fun short => by omega, fun _ => rfl⟩
    rw [if_neg (by omega), read]
    exact feed_line_ends ⟨name, id, json⟩ out _ named

/-- In the id's line the data is still empty. -/
theorem cut_id (named : name ≠ []) (identified : OnLine id) (body : OnLine json) :
    ∃ frame, feed .eof ⟨⟨name, [], []⟩, out⟩ []
        ((fieldLine .id id ++ newline :: (fieldLine .data json ++ newline :: [newline])).take cut) =
          (out ++ [frame], none) ∧
      (cut < (fieldLine .id id).length + 1 + (fieldLine .data json).length → frame.data ≠ json) ∧
      ((fieldLine .id id).length + 1 + (fieldLine .data json).length ≤ cut →
        frame = ⟨name, id, json⟩) := by
  have read : readLine ⟨⟨name, [], []⟩, out⟩ (fieldLine .id id) = ⟨⟨name, id, []⟩, out⟩ :=
    read_field _ .id _ identified
  rw [feed_cut_line _ _ _ _ (field_line_single .id _ identified)]
  by_cases inside : cut ≤ (fieldLine .id id).length
  · obtain ⟨event, data, before⟩ := broken_id_line ⟨⟨name, [], []⟩, out⟩ id cut
    refine ⟨(finishLine ⟨⟨name, [], []⟩, out⟩ ((fieldLine .id id).take cut)).current, ?_,
      fun _ => ?_, fun reached => by omega⟩
    · rw [if_pos inside, emit_out _ (by rw [event]; exact named), before]
    · rw [data]
      exact Ne.symm body.filled
  · obtain ⟨frame, handed, short, whole⟩ :=
      cut_data out name id json (cut - ((fieldLine .id id).length + 1)) named body
    refine ⟨frame, ?_, fun less => short (by omega), fun reached => whole (by omega)⟩
    rw [if_neg inside, read, handed]

end CutFrame

section CutWrite

variable (out : List Frame) (name id : List UInt8) (payload : List (String × Json)) (cut : Nat)

theorem cut_before_name (early : cut ≤ 7) (named : OnLine name) (numbered : id ≠ []) :
    feed .eof ⟨Frame.empty, out⟩ [] ((Write.frame name id payload).bytes.take cut) =
      (out, none) := by
  have first : cut ≤ (fieldLine .event name).length := by
    rw [field_line_length]
    exact Nat.le_trans early (Nat.le_add_right 7 _)
  rw [frame_bytes _ _ _ numbered, feed_cut_line _ _ _ _ (field_line_single .event name named),
    if_pos first, broken_event_lead out name cut early]

/-- What is handed out of a frame that the cut falls into: the frame itself once its data
has arrived, and something else before. -/
theorem cut_inside (late : 7 < cut) (formed : (Write.frame name id payload).WellFormed)
    (sturdy : Sturdy name) :
    ∃ frame, feed .eof ⟨Frame.empty, out⟩ [] ((Write.frame name id payload).bytes.take cut) =
        (out ++ [frame], none) ∧
      (cut + 2 < (Write.frame name id payload).bytes.length →
        frame.data ≠ marshal (.obj payload)) ∧
      ((Write.frame name id payload).bytes.length ≤ cut + 2 →
        frame = ⟨name, id, marshal (.obj payload)⟩) := by
  obtain ⟨named, identified, clean⟩ := formed
  have body := object_on_line payload clean
  have size : (Write.frame name id payload).bytes.length = (fieldLine .event name).length + 1 +
      ((fieldLine .id id).length + 1 + (fieldLine .data (marshal (.obj payload))).length) + 2 := by
    rw [frame_bytes _ _ _ identified.filled]
    simp only [List.length_append, List.length_cons, List.length_nil]
    omega
  have read : readLine ⟨Frame.empty, out⟩ (fieldLine .event name) = ⟨⟨name, [], []⟩, out⟩ :=
    read_field _ .event _ named
  rw [size, frame_bytes _ _ _ identified.filled,
    feed_cut_line _ _ _ _ (field_line_single .event name named)]
  by_cases inside : cut ≤ (fieldLine .event name).length
  · refine ⟨⟨name.take (cut - 7), [], []⟩, ?_, fun _ => Ne.symm body.filled,
      fun reached => by omega⟩
    rw [if_pos inside, broken_event_name out name cut late inside named sturdy]
  · obtain ⟨frame, handed, short, whole⟩ := cut_id out name id (marshal (.obj payload))
      (cut - ((fieldLine .event name).length + 1)) named.filled identified body
    refine ⟨frame, ?_, fun less => short (by omega), fun reached => whole (by omega)⟩
    rw [if_neg inside, read, handed]

end CutWrite

/-! ## A connection -/

/-- Event frames with a plain name, and keepalives. -/
def Streamed : Write → Prop
  | .frame name id payload => (Write.frame name id payload).WellFormed ∧ Sturdy name
  | .keepalive => True
  | _ => False

/-- The cut falls into a frame, behind the lead of its name and in front of the end of its
data. -/
def torn : List Write → Nat → Bool
  | [], _ => false
  | write :: writes, cut =>
      if cut < write.bytes.length then
        isEventFrame write && 7 < cut && cut + 2 < write.bytes.length
      else torn writes (cut - write.bytes.length)

/-- The frames whose data arrived whole. -/
def arrived : List Write → Nat → List Frame
  | [], _ => []
  | write :: writes, cut =>
      if cut + 2 < write.bytes.length then []
      else (frameOf write).toList ++ arrived writes (cut - write.bytes.length)

theorem streamed_formed (write : Write) (streamed : Streamed write) : write.WellFormed := by
  cases write with
  | frame name id payload => exact streamed.1
  | gapMarker topic reason => trivial
  | sseError code message => trivial
  | keepalive => trivial

theorem bytes_long (write : Write) (streamed : Streamed write) : 9 < write.bytes.length := by
  cases write with
  | frame name id payload =>
      rw [frame_bytes _ _ _ streamed.1.2.1.filled]
      simp only [List.length_append, List.length_cons, field_line_length]
      have lead : Part.event.lead.length = 6 := rfl
      omega
  | gapMarker topic reason => exact streamed.elim
  | sseError code message => exact streamed.elim
  | keepalive => decide

theorem arrived_nothing (writes : List Write) (streamed : ∀ write ∈ writes, Streamed write) :
    arrived writes 0 = [] := by
  cases writes with
  | nil => rfl
  | cons write writes =>
      have long := bytes_long write (streamed write List.mem_cons_self)
      rw [arrived, if_pos (by omega)]

theorem frames_cons (write : Write) (writes : List Write) :
    (write :: writes).filterMap frameOf =
      (frameOf write).toList ++ writes.filterMap frameOf := by
  cases frame : frameOf write <;> simp [frame]

theorem arrived_prefix (writes : List Write) (cut : Nat) :
    arrived writes cut <+: writes.filterMap frameOf := by
  induction writes generalizing cut with
  | nil => exact List.nil_prefix
  | cons write writes ih =>
      rw [arrived, frames_cons]
      split
      · exact List.nil_prefix
      · exact (List.prefix_append_right_inj _).2 (ih _)

theorem arrived_all (writes : List Write) (cut : Nat)
    (whole : (writes.flatMap Write.bytes).length ≤ cut) :
    arrived writes cut = writes.filterMap frameOf := by
  induction writes generalizing cut with
  | nil => rfl
  | cons write writes ih =>
      rw [List.flatMap_cons, List.length_append] at whole
      rw [arrived, if_neg (by omega), ih _ (by omega), frames_cons]

/-- A whole write in front is read, and the cut falls behind it. -/
theorem feed_past_write (write : Write) (rest : List UInt8) (out : List Frame) (cut : Nat)
    (formed : write.WellFormed) (behind : write.bytes.length ≤ cut) :
    feed .eof ⟨Frame.empty, out⟩ [] ((write.bytes ++ rest).take cut) =
      feed .eof ⟨Frame.empty, out ++ (frameOf write).toList⟩ []
        (rest.take (cut - write.bytes.length)) := by
  have read := feed_writes .eof [write] out (rest.take (cut - write.bytes.length))
    (by simpa using formed)
  rw [List.flatMap_singleton, frames_cons, List.filterMap_nil, List.append_nil] at read
  rw [List.take_append, List.take_of_length_le behind, read]

theorem cut_keepalive (out : List Frame) (cut : Nat) (inside : cut < writeKeepalive.length) :
    feed .eof ⟨Frame.empty, out⟩ [] (writeKeepalive.take cut) = (out, none) := by
  have few : cut < 12 := inside
  interval_cases cut <;> rfl

/-- A cut that tears no frame loses nothing but what comes behind it. -/
theorem cut_clean (writes : List Write) (out : List Frame) (cut : Nat)
    (streamed : ∀ write ∈ writes, Streamed write) (clean : torn writes cut = false) :
    feed .eof ⟨Frame.empty, out⟩ [] ((writes.flatMap Write.bytes).take cut) =
      (out ++ arrived writes cut, none) := by
  induction writes generalizing out cut with
  | nil => simp [feed, arrived, emit_empty]
  | cons write writes ih =>
      rw [List.forall_mem_cons] at streamed
      obtain ⟨here, later⟩ := streamed
      rw [List.flatMap_cons]
      by_cases inside : cut < write.bytes.length
      · have none_left : cut - write.bytes.length = 0 := by omega
        rw [List.take_append_of_le_length (Nat.le_of_lt inside), arrived, none_left,
          arrived_nothing writes later]
        rw [torn, if_pos inside] at clean
        cases write with
        | frame name id payload =>
            by_cases early : cut ≤ 7
            · have long := bytes_long _ here
              rw [cut_before_name out name id payload cut early here.1.1 here.1.2.1.filled,
                if_pos (by omega), List.append_nil]
            · have reached : ¬ cut + 2 < (Write.frame name id payload).bytes.length := by
                simpa [isEventFrame, Nat.lt_of_not_le early] using clean
              obtain ⟨frame, handed, _, whole⟩ := cut_inside out name id payload cut
                (Nat.lt_of_not_le early) here.1 here.2
              rw [handed, whole (Nat.le_of_not_lt reached), if_neg reached]
              rfl
        | gapMarker topic reason => exact here.elim
        | sseError code message => exact here.elim
        | keepalive =>
            have nothing := cut_keepalive out cut inside
            simp only [Write.bytes, frameOf, Option.toList_none, List.append_nil, ite_self]
            exact nothing
      · have behind := Nat.le_of_not_lt inside
        rw [torn, if_neg inside] at clean
        rw [feed_past_write write _ out cut (streamed_formed write here) behind,
          ih _ _ later clean, arrived, if_neg (by omega), List.append_assoc]

/-- A torn frame is handed out with other data, behind the frames that are whole. -/
theorem cut_torn (writes : List Write) (out : List Frame) (cut : Nat)
    (streamed : ∀ write ∈ writes, Streamed write) (tear : torn writes cut = true) :
    ∃ whole full rest broken, writes.filterMap frameOf = whole ++ full :: rest ∧
      feed .eof ⟨Frame.empty, out⟩ [] ((writes.flatMap Write.bytes).take cut) =
        (out ++ whole ++ [broken], none) ∧
      broken.data ≠ full.data := by
  induction writes generalizing out cut with
  | nil => cases tear
  | cons write writes ih =>
      rw [List.forall_mem_cons] at streamed
      obtain ⟨here, later⟩ := streamed
      rw [List.flatMap_cons]
      by_cases inside : cut < write.bytes.length
      · rw [torn, if_pos inside] at tear
        rw [List.take_append_of_le_length (Nat.le_of_lt inside)]
        cases write with
        | frame name id payload =>
            simp only [isEventFrame, Bool.true_and, Bool.and_eq_true, decide_eq_true_eq] at tear
            obtain ⟨broken, handed, short, _⟩ :=
              cut_inside out name id payload cut tear.1 here.1 here.2
            refine ⟨[], ⟨name, id, marshal (.obj payload)⟩, writes.filterMap frameOf, broken, rfl,
              ?_, short tear.2⟩
            rw [handed, List.append_nil]
        | gapMarker topic reason => exact here.elim
        | sseError code message => exact here.elim
        | keepalive => cases tear
      · have behind := Nat.le_of_not_lt inside
        rw [torn, if_neg inside] at tear
        rw [feed_past_write write _ out cut (streamed_formed write here) behind]
        obtain ⟨whole, full, rest, broken, split, handed, other⟩ :=
          ih (out ++ (frameOf write).toList) _ later tear
        refine ⟨(frameOf write).toList ++ whole, full, rest, broken, ?_, ?_, other⟩
        · rw [List.append_assoc, ← split, frames_cons]
        · rw [handed, List.append_assoc out]

end PgmanProxy.Pgmctl.CutFrames
