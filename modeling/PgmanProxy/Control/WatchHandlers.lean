import PgmanProxy.Control.WatchFrames
import PgmanProxy.History.Watcher

/-!
# The watch handlers

Both handlers sit in a `select` over the subscription's two channels and the
keepalive ticker. A run of that loop is the sequence of what it selects; an error
or a closed channel ends it with a marker. The append-only topics write one frame
per event. The status topic writes a snapshot first and then a fresh one for each
event that can change the status.
-/

namespace PgmanProxy.Control.WatchHandlers

open PgmanProxy.Control.WatchFrames PgmanProxy.History.Stream PgmanProxy.History.Watcher
open PgmanProxy.Library.GoBytes PgmanProxy.Library.GoJson

set_option autoImplicit false

/-- One turn of the `select`. -/
inductive Selected where
  | event (event : HistoryEvent)
  | keepalive
  | errs (why : String)
  | eventsClosed

def Selected.event? : Selected → Option HistoryEvent
  | .event record => some record
  | _ => none

/-- The turn after which the handler returns. -/
def Selected.ends : Selected → Bool
  | .errs _ => true
  | .eventsClosed => true
  | _ => false

def takenEvents (selected : List Selected) : List HistoryEvent := selected.filterMap Selected.event?

/-- The turns a loop on these channels can take when nothing more is to be had from them:
an end is selected once the channels have one, and until then every event was. -/
structure Settled (channels : Channels) (selected : List Selected) : Prop where
  prefixed : takenEvents selected <+: channels.events
  failing : ∀ why, Selected.errs why ∈ selected → channels.error = some why
  closing : Selected.eventsClosed ∈ selected →
    channels.closed = true ∧ takenEvents selected = channels.events
  ended : channels.closed = true → ∃ turn ∈ selected, turn.ends = true
  drained : channels.closed = false → takenEvents selected = channels.events

/-- A loop that has taken every event of open channels and selected no end is settled. -/
theorem settled_of_taken (channels : Channels) (selected : List Selected)
    (endless : ∀ turn ∈ selected, turn.ends = false) (running : channels.closed = false)
    (all : takenEvents selected = channels.events) : Settled channels selected where
  prefixed := by rw [all]
  failing := fun why member => absurd (endless _ member) (by simp [Selected.ends])
  closing := fun member => absurd (endless _ member) (by simp [Selected.ends])
  ended := fun closed => absurd closed (by simp [running])
  drained := fun _ => all

/-- An end cannot be selected from channels that are open. -/
theorem settled_endless (channels : Channels) (selected : List Selected)
    (settled : Settled channels selected) (untroubled : channels.error = none)
    (running : channels.closed = false) : ∀ turn ∈ selected, turn.ends = false := by
  intro turn member
  cases turn with
  | event event => rfl
  | keepalive => rfl
  | errs why =>
      have failed := settled.failing why member
      rw [untroubled] at failed
      cases failed
  | eventsClosed =>
      have closed := (settled.closing member).1
      rw [running] at closed
      cases closed

/-! ## The append-only topics -/

section Payload

-- time.Time's RFC 3339 text
variable (formatTime : Int → String)

def optional (name text : String) : List (String × Json) :=
  if text = "" then [] else [(name, .str text)]

def eventPayload (event : HistoryEvent) : List (String × Json) :=
  [("apiVersion", .str event.apiVersion), ("kind", .str event.kind), ("id", .str event.id),
    ("time", .str (formatTime event.time)), ("category", .str event.category),
    ("type", .str event.type), ("cluster_id", .str event.clusterID)] ++
    optional "node_id" event.nodeID ++
    (if event.details = [] then [] else [("details", .obj event.details)]) ++
    optional "trace_id" event.traceID ++ optional "span_id" event.spanID

def eventFrame (frameName : String) (event : HistoryEvent) : Write :=
  .frame (utf8 frameName) (utf8 event.id) (eventPayload formatTime event)

/-- The loop of `handleWatchHistoryStream`. -/
def streamLoop (topic : WatchTopic) (frameName : String) : List Selected → List Write
  | [] => []
  | .event event :: selected =>
      eventFrame formatTime frameName event :: streamLoop topic frameName selected
  | .keepalive :: selected => .keepalive :: streamLoop topic frameName selected
  | .errs why :: _ => [.sseError "subscription_failed" why]
  | .eventsClosed :: _ => [.gapMarker topic "subscription_closed"]

def isMarker : Write → Bool
  | .gapMarker _ _ => true
  | .sseError _ _ => true
  | _ => false

def isEventFrame : Write → Bool
  | .frame _ _ _ => true
  | _ => false

/-- A loop that selects an end writes a marker, and only then. -/
theorem stream_marker_iff (topic : WatchTopic) (frameName : String) (selected : List Selected) :
    (∃ write ∈ streamLoop formatTime topic frameName selected, isMarker write = true) ↔
      ∃ turn ∈ selected, turn.ends = true := by
  induction selected with
  | nil => simp [streamLoop]
  | cons turn selected ih =>
      cases turn with
      | event event => simpa [streamLoop, eventFrame, isMarker, Selected.ends] using ih
      | keepalive => simpa [streamLoop, isMarker, Selected.ends] using ih
      | errs why => simp [streamLoop, isMarker, Selected.ends]
      | eventsClosed => simp [streamLoop, isMarker, Selected.ends]

/-- A loop without an end writes a frame for each event it selects. -/
theorem stream_event_frames (topic : WatchTopic) (frameName : String) (selected : List Selected)
    (endless : ∀ turn ∈ selected, turn.ends = false) :
    (streamLoop formatTime topic frameName selected).filter isEventFrame =
      (takenEvents selected).map (eventFrame formatTime frameName) := by
  induction selected with
  | nil => rfl
  | cons turn selected ih =>
      rw [List.forall_mem_cons] at endless
      obtain ⟨goes, later⟩ := endless
      have rest := ih later
      cases turn with
      | event event =>
          rw [streamLoop, List.filter_cons_of_pos rfl, rest]
          rfl
      | keepalive =>
          rw [streamLoop, List.filter_cons_of_neg (by simp [isEventFrame]), rest]
          rfl
      | errs why => cases goes
      | eventsClosed => cases goes

end Payload

/-- The header, when there is one, replaces the cursor. -/
def resumeOptions (lastEventID : List UInt8) (opts : WatchOptions) : WatchOptions :=
  if lastEventID = [] then opts else { opts with cursor := lastEventID }

def transitionsOptions : WatchOptions := ⟨[], 0, some .event, ["state_transition"], []⟩

/-- Blank filters and a `since` that is not positive are left out. -/
def eventsOptions (types nodes : List String) (since : Int) : WatchOptions where
  cursor := []
  since := if 0 < since then since else 0
  category := none
  types := (types.map Library.GoStrings.trimSpace).filter (· ≠ "")
  nodes := (nodes.map Library.GoStrings.trimSpace).filter (· ≠ "")

def nodeOptions (nodeID : String) : WatchOptions := ⟨[], 0, none, [], [nodeID]⟩

/-- The append-only streams, with the parameters of their requests. -/
inductive AppendStream where
  | transitions
  | events (types nodes : List String) (since : Int)
  | node (nodeID : String)

def AppendStream.topic : AppendStream → WatchTopic
  | .transitions => .transitions
  | .events _ _ _ => .events
  | .node _ => .node

def AppendStream.frameName : AppendStream → String
  | .transitions => "state_transition"
  | .events _ _ _ => "cluster_event"
  | .node _ => "cluster_event"

def AppendStream.options : AppendStream → WatchOptions
  | .transitions => transitionsOptions
  | .events types nodes since => eventsOptions types nodes since
  | .node nodeID => nodeOptions nodeID

/-! ## The status topic -/

def isStatusChangeEvent (evType : String) : Bool :=
  evType ∈ ["state_transition", "leader_changed", "primary_changed", "proxy.leader_changed",
    "fenced_node", "unfenced_node"]

def statusOptions (lastEventID : List UInt8) : WatchOptions :=
  ⟨lastEventID, 0, some .event, [], []⟩

section Status

variable {Snapshot : Type} (payload : Snapshot → List (String × Json))

def statusFrame (frameID : String) (snapshot : Snapshot) : Write :=
  .frame (utf8 "status_update") (utf8 frameID) (payload snapshot)

/-- The loop of `handleWatchStatus`; each turn comes with what a status fetch made in it
would give. A failed fetch ends the stream. -/
def statusLoop : List (Selected × Except String Snapshot) → List Write
  | [] => []
  | (.event event, fetched) :: turns =>
      if isStatusChangeEvent event.type then
        match fetched with
        | .error why => [.sseError "status_fetch_failed" why]
        | .ok snapshot => statusFrame payload event.id snapshot :: statusLoop turns
      else statusLoop turns
  | (.keepalive, _) :: turns => .keepalive :: statusLoop turns
  | (.errs why, _) :: _ => [.sseError "subscription_failed" why]
  | (.eventsClosed, _) :: _ => [.gapMarker .status "subscription_closed"]

/-- Turns after which the loop goes on. -/
def Continues (turns : List (Selected × Except String Snapshot)) : Prop :=
  ∀ turn ∈ turns, turn.1.ends = false ∧ ∃ snapshot, turn.2 = .ok snapshot

theorem status_loop_append (turns more : List (Selected × Except String Snapshot))
    (continues : Continues turns) :
    statusLoop payload (turns ++ more) = statusLoop payload turns ++ statusLoop payload more := by
  induction turns with
  | nil => rfl
  | cons turn turns ih =>
      obtain ⟨selected, fetched⟩ := turn
      rw [Continues, List.forall_mem_cons] at continues
      obtain ⟨⟨goes, snapshot, read⟩, later⟩ := continues
      simp only at goes read
      have rest := ih later
      cases selected with
      | event event =>
          rw [List.cons_append, read, statusLoop, statusLoop, rest]
          split <;> rfl
      | keepalive =>
          rw [List.cons_append, statusLoop, statusLoop, rest]
          rfl
      | errs why => cases goes
      | eventsClosed => cases goes

/-- The snapshot frame has the request's id. -/
def handleWatchStatus (reqID : String) (first : Except String Snapshot)
    (turns : List (Selected × Except String Snapshot)) : List Write :=
  match first with
  | .error why => [.sseError "status_fetch_failed" why]
  | .ok snapshot => statusFrame payload reqID snapshot :: statusLoop payload turns

end Status

end PgmanProxy.Control.WatchHandlers
