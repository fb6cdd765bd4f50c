import PgmanProxy.Library.GoJsonText

/-!
# The frames of a watch stream

The four things a watch handler writes to its response: an event frame with an id
and a JSON payload, a gap marker, a terminal error frame and a keepalive comment.
-/

namespace PgmanProxy.Control.WatchFrames

open PgmanProxy.Library.GoBytes PgmanProxy.Library.GoJson PgmanProxy.Library.GoJsonText

set_option autoImplicit false

inductive WatchTopic where
  | status
  | transitions
  | events
  | node
deriving DecidableEq, Repr

def WatchTopic.text : WatchTopic → String
  | .status => "status"
  | .transitions => "transitions"
  | .events => "events"
  | .node => "node"

inductive Write where
  | frame (name id : List UInt8) (payload : List (String × Json))
  | gapMarker (topic : WatchTopic) (reason : String)
  | sseError (code message : String)
  | keepalive

def gapPayload (topic : WatchTopic) (reason : String) : Json :=
  .obj [("reason", .str reason), ("topic", .str topic.text)]

def errorPayload (code message : String) : Json :=
  .obj [("code", .str code), ("message", .str message)]

/-- An empty id has no line. -/
def writeFrame (name id : List UInt8) (payload : Json) : List UInt8 :=
  utf8 "event: " ++ name ++ [newline] ++
    (if id = [] then [] else utf8 "id: " ++ id ++ [newline]) ++
    utf8 "data: " ++ marshal payload ++ [newline, newline]

def writeGapMarker (topic : WatchTopic) (reason : String) : List UInt8 :=
  utf8 "event: gap_marker\ndata: " ++ marshal (gapPayload topic reason) ++ [newline, newline]

def writeSSEError (code message : String) : List UInt8 :=
  utf8 "event: error\ndata: " ++ marshal (errorPayload code message) ++ [newline, newline]

def writeKeepalive : List UInt8 := utf8 ":keepalive\n\n"

def Write.bytes : Write → List UInt8
  | .frame name id payload => writeFrame name id (.obj payload)
  | .gapMarker topic reason => writeGapMarker topic reason
  | .sseError code message => writeSSEError code message
  | .keepalive => writeKeepalive

/-- Text that survives on a header line: not empty, on one line, and without white space
around it. -/
structure OnLine (text : List UInt8) : Prop where
  filled : text ≠ []
  single : newline ∉ text
  trimmed : trimSpace text = text

/-- The parts of a write that a reader can get back. -/
def Write.WellFormed : Write → Prop
  | .frame name id payload => OnLine name ∧ OnLine id ∧ numerals (.obj payload) = true
  | _ => True

/-! ## Lines -/

/-- The lines of a write, without their ends. -/
def Write.lines : Write → List (List UInt8)
  | .frame name id payload =>
      (utf8 "event: " ++ name) :: (if id = [] then [] else [utf8 "id: " ++ id]) ++
        [utf8 "data: " ++ marshal (.obj payload), []]
  | .gapMarker topic reason =>
      [utf8 "event: " ++ utf8 "gap_marker", utf8 "data: " ++ marshal (gapPayload topic reason), []]
  | .sseError code message =>
      [utf8 "event: " ++ utf8 "error", utf8 "data: " ++ marshal (errorPayload code message), []]
  | .keepalive => [utf8 ":keepalive", []]

theorem write_bytes_lines (write : Write) : write.bytes = joinLines write.lines := by
  cases write with
  | frame name id payload =>
      by_cases unnumbered : id = [] <;>
        simp [Write.bytes, Write.lines, writeFrame, joinLines, unnumbered]
  | gapMarker topic reason =>
      have lead : utf8 "event: gap_marker\ndata: " =
          (utf8 "event: " ++ utf8 "gap_marker") ++ newline :: utf8 "data: " := by decide
      simp [Write.bytes, Write.lines, writeGapMarker, joinLines, lead]
  | sseError code message =>
      have lead : utf8 "event: error\ndata: " =
          (utf8 "event: " ++ utf8 "error") ++ newline :: utf8 "data: " := by decide
      simp [Write.bytes, Write.lines, writeSSEError, joinLines, lead]
  | keepalive => decide

/-- An object's text can stand on a line. -/
theorem object_on_line (members : List (String × Json)) (clean : numerals (.obj members) = true) :
    OnLine (marshal (.obj members)) where
  filled := by
    obtain ⟨middle, braces⟩ := marshal_object members
    rw [braces]
    exact List.cons_ne_nil _ _
  single := marshal_one_line (.obj members) clean
  trimmed := marshal_object_trimmed members

theorem gap_on_line (topic : WatchTopic) (reason : String) :
    OnLine (marshal (gapPayload topic reason)) :=
  object_on_line _ rfl

theorem error_on_line (code message : String) : OnLine (marshal (errorPayload code message)) :=
  object_on_line _ rfl

end PgmanProxy.Control.WatchFrames
