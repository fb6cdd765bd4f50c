import PgmanProxy.Library.Runs
import PgmanProxy.Pgmctl.CutFrames

/-!
# The append-only watches across broken connections

The server writes one frame for each matching record, numbered with the record's id,
and the client sends the last number it saw when it connects again. As long as no
connection is cut inside a frame, each one goes on where the one before it ended. A
frame that is torn is handed to the caller as it is, and a later connection does not
repair it.
-/

namespace PgmanProxy.Pgmctl.AppendTail

open PgmanProxy.Control.WatchFrames PgmanProxy.Control.WatchHandlers
open PgmanProxy.History.Queries PgmanProxy.History.Stream PgmanProxy.History.Watcher
open PgmanProxy.Library.GoBytes PgmanProxy.Library.GoJson PgmanProxy.Library.GoJsonText
open PgmanProxy.Library.Paging PgmanProxy.Library.Runs
open PgmanProxy.Pgmctl.CutFrames PgmanProxy.Pgmctl.Sse

set_option autoImplicit false

/-- A history whose records all have an id and details that can be written to a line. -/
structure PlainLog extends Log where
  plain : ∀ event ∈ records.filterMap Record.event,
    OnLine (utf8 event.id) ∧ numerals (.obj event.details) = true

/-- One connection: when the server subscribes and how much of the history is stored by
then, the turns of the handler's loop, and after how many bytes it is cut. -/
structure Connection where
  now : Int
  stored : Nat
  turns : List Selected
  received : Nat

section Tailing

variable (equalFold : String → String → Bool) (formatTime : Int → String)
variable (log : PlainLog) (clusterID : String) (stream : AppendStream)

def subscription (lastID : List UInt8) (connection : Connection) : Subscription where
  streamError := none
  consumerError := none
  messagesError := none
  messages := (resumeOptions lastID stream.options).delivered connection.now clusterID
    (log.records.take connection.stored) (log.records.drop connection.stored)
  iteration := .waiting

/-- The handler has subscribed with the number that the client sent, and its loop takes
what the subscription delivers, with keepalives anywhere between. -/
def Serving (tail : Tail) (connection : Connection) : Prop :=
  Settled (watch equalFold true clusterID (resumeOptions tail.lastID stream.options)
    (subscription log clusterID stream tail.lastID connection)) connection.turns

def writes (connection : Connection) : List Write :=
  streamLoop formatTime stream.topic stream.frameName connection.turns

/-- The client's side of one connection. -/
def follow (tail : Tail) (connection : Connection) : Tail :=
  connect tail .eof
    (((writes formatTime stream connection).flatMap Write.bytes).take connection.received)

/-- The frame that carries an event with its full data. -/
def carrying (event : HistoryEvent) : Frame :=
  ⟨utf8 stream.frameName, utf8 event.id, marshal (.obj (eventPayload formatTime event))⟩

/-- The events that follow the starting point: what stands in the history behind the number
of the first request, and without a number what the stream's window selects. -/
def following (seed : List UInt8) (first : Connection) : List HistoryEvent :=
  remaining equalFold (resumeOptions seed stream.options).asQuery (seed = [])
    ((resumeOptions seed stream.options).delivered first.now clusterID
      (log.records.take first.stored) (log.records.drop first.stored))

/-- The caller has been handed the first of these events, each once, in order and whole, and
all of them when nothing of this connection is missing. -/
def Delivers (events : List HistoryEvent) (tail : Tail) (connection : Connection) : Prop :=
  (follow formatTime stream tail connection).handed <+: events.map (carrying formatTime stream) ∧
    (((writes formatTime stream connection).flatMap Write.bytes).length ≤ connection.received →
      (follow formatTime stream tail connection).handed =
        events.map (carrying formatTime stream))

/-! ## What the server writes -/

theorem frame_name_cases :
    stream.frameName = "state_transition" ∨ stream.frameName = "cluster_event" := by
  cases stream with
  | transitions => exact Or.inl rfl
  | events types nodes since => exact Or.inr rfl
  | node nodeID => exact Or.inr rfl

theorem frame_name_on_line : OnLine (utf8 stream.frameName) := by
  rcases frame_name_cases stream with name | name <;> rw [name] <;>
    exact ⟨by decide, by decide, by decide⟩

theorem frame_name_sturdy : Sturdy (utf8 stream.frameName) := by
  have beginnings : ∀ part ∈ (utf8 stream.frameName).inits, part ≠ [] →
      trimSpace part = part := by
    rcases frame_name_cases stream with name | name <;> rw [name] <;> decide
  intro part filled beginning
  exact beginnings part ((List.mem_inits _ _).2 beginning) filled

theorem optional_numerals (name text : String) : memberNumerals (optional name text) = true := by
  unfold Control.WatchHandlers.optional
  split <;> rfl

theorem payload_numerals (event : HistoryEvent)
    (clean : numerals (.obj event.details) = true) :
    numerals (.obj (eventPayload formatTime event)) = true := by
  have details : memberNumerals
      (if event.details = [] then [] else [("details", .obj event.details)]) = true := by
    split
    · rfl
    · rw [memberNumerals, clean]
      rfl
  rw [numerals, eventPayload, member_numerals_append, member_numerals_append,
    member_numerals_append, member_numerals_append, optional_numerals, optional_numerals,
    optional_numerals, details]
  rfl

/-- The loop writes event frames and keepalives as long as nothing ends it. -/
theorem stream_streamed (topic : WatchTopic) (selected : List Selected)
    (endless : ∀ turn ∈ selected, turn.ends = false)
    (plain : ∀ event ∈ takenEvents selected,
      OnLine (utf8 event.id) ∧ numerals (.obj event.details) = true) :
    ∀ write ∈ streamLoop formatTime topic stream.frameName selected, Streamed write := by
  induction selected with
  | nil =>
      intro write member
      cases member
  | cons turn selected ih =>
      rw [List.forall_mem_cons] at endless
      obtain ⟨goes, later⟩ := endless
      cases turn with
      | event event =>
          have taken : takenEvents (Selected.event event :: selected) =
              event :: takenEvents selected := rfl
          rw [taken, List.forall_mem_cons] at plain
          obtain ⟨⟨line, clean⟩, rest⟩ := plain
          rw [streamLoop, List.forall_mem_cons]
          exact ⟨⟨⟨frame_name_on_line stream, line, payload_numerals formatTime event clean⟩,
            frame_name_sturdy stream⟩, ih later rest⟩
      | keepalive =>
          rw [streamLoop, List.forall_mem_cons]
          exact ⟨trivial, ih later plain⟩
      | errs why => cases goes
      | eventsClosed => cases goes

theorem stream_frames (topic : WatchTopic) (selected : List Selected)
    (endless : ∀ turn ∈ selected, turn.ends = false) :
    (streamLoop formatTime topic stream.frameName selected).filterMap frameOf =
      (takenEvents selected).map (carrying formatTime stream) := by
  induction selected with
  | nil => rfl
  | cons turn selected ih =>
      rw [List.forall_mem_cons] at endless
      obtain ⟨goes, later⟩ := endless
      have rest := ih later
      cases turn with
      | event event =>
          rw [streamLoop, frames_cons, rest]
          rfl
      | keepalive =>
          rw [streamLoop, frames_cons, rest]
          rfl
      | errs why => cases goes
      | eventsClosed => cases goes

/-! ## Where a connection takes up -/

theorem stream_uncursored : stream.options.cursor = [] := by
  cases stream <;> rfl

/-- What the watch brings is what is left behind the number it was opened with. -/
theorem serving_channels (tail : Tail) (connection : Connection) (cluster : clusterID ≠ "") :
    watch equalFold true clusterID (resumeOptions tail.lastID stream.options)
        (subscription log clusterID stream tail.lastID connection) =
      ⟨following equalFold log clusterID stream tail.lastID connection, none, false⟩ := by
  have started : decide ((resumeOptions tail.lastID stream.options).cursor = []) =
      decide (tail.lastID = []) := by
    unfold resumeOptions
    split
    · rename_i fresh
      simp [fresh, stream_uncursored]
    · rfl
  rw [subscription, watch_waiting equalFold clusterID cluster, started]
  rfl

/-- The handler's loop takes all of it and never ends by itself. -/
theorem serving_iff (tail : Tail) (connection : Connection) (cluster : clusterID ≠ "") :
    Serving equalFold log clusterID stream tail connection ↔
      (∀ turn ∈ connection.turns, turn.ends = false) ∧
        takenEvents connection.turns =
          following equalFold log clusterID stream tail.lastID connection := by
  rw [Serving, serving_channels equalFold log clusterID stream tail connection cluster]
  constructor
  · intro serving
    exact ⟨settled_endless _ _ serving rfl rfl, serving.drained rfl⟩
  · rintro ⟨endless, taken⟩
    exact settled_of_taken _ _ endless rfl taken

theorem following_admitted (seed : List UInt8) (first : Connection) :
    following equalFold log clusterID stream seed first =
      remaining equalFold (resumeOptions seed stream.options).asQuery (seed = [])
        ((((resumeOptions seed stream.options).policy first.now).backlog
            (log.records.take first.stored) ++ log.records.drop first.stored).filter
          (fun record => admits (resumeOptions seed stream.options).category record.category)) := by
  simp only [following, WatchOptions.delivered]
  congr 2
  funext record
  exact seen_iff_admits clusterID _ record

/-- Wherever the first connection starts, it reads the matching records to their end. -/
theorem following_suffix (seed : List UInt8) (first : Connection) :
    following equalFold log clusterID stream seed first <:+
      matching equalFold stream.options.asQuery log.records := by
  rw [matching_eq equalFold _ clusterID]
  have held : ∀ policy : DeliverPolicy,
      policy.backlog (log.records.take first.stored) ++ log.records.drop first.stored <:+
        log.records := by
    intro policy
    obtain ⟨front, split⟩ := backlog_suffix policy (log.records.take first.stored)
    exact ⟨front, by rw [← List.append_assoc, split, List.take_append_drop]⟩
  unfold following resumeOptions
  by_cases fresh : seed = []
  · rw [if_pos fresh]
    simp only [fresh, decide_true]
    have inside := (held (stream.options.policy first.now)).filter
      (seen clusterID stream.options.category)
    have decoded := (inside.filterMap Record.event).filter
      (fun event => !stream.options.asQuery.late event)
    exact decoded.filter (selects equalFold stream.options.asQuery)
  · rw [if_neg fresh]
    have all : WatchOptions.policy first.now { stream.options with cursor := seed } = .all := by
      simp [WatchOptions.policy, fresh]
    simp only [WatchOptions.delivered, all, DeliverPolicy.backlog, List.take_append_drop, fresh,
      decide_false]
    exact (past_suffix _ _).filter (selects equalFold stream.options.asQuery)

theorem matching_plain (event : HistoryEvent)
    (member : event ∈ matching equalFold stream.options.asQuery log.records) :
    OnLine (utf8 event.id) ∧ numerals (.obj event.details) = true := by
  have decoded := (timely_sublist _ _).subset (List.mem_of_mem_filter member)
  exact log.plain event ((List.Sublist.filterMap _ List.filter_sublist).subset decoded)

/-- A connection opened with the number of an event takes up right behind it. -/
theorem following_resumed (connection : Connection) (before rest : List HistoryEvent)
    (last : HistoryEvent)
    (split : matching equalFold stream.options.asQuery log.records = before ++ last :: rest) :
    following equalFold log clusterID stream (utf8 last.id) connection = rest := by
  have member : last ∈ matching equalFold stream.options.asQuery log.records := by
    rw [split]
    simp
  have numbered := (matching_plain equalFold log stream last member).1.filled
  have behind := remaining_stands equalFold log.toLog clusterID stream.options.asQuery
    (utf8 last.id) rest (Or.inr ⟨before, last, split, rfl⟩)
  have all : WatchOptions.policy connection.now
      { stream.options with cursor := utf8 last.id } = .all := by
    simp [WatchOptions.policy, numbered]
  unfold following resumeOptions
  rw [if_neg numbered, WatchOptions.delivered, all]
  simp only [DeliverPolicy.backlog, List.take_append_drop]
  exact behind

/-! ## One connection -/

/-- The loop goes on, and `rest` is what it takes. -/
structure Takes (connection : Connection) (rest : List HistoryEvent) : Prop where
  endless : ∀ turn ∈ connection.turns, turn.ends = false
  taken : takenEvents connection.turns = rest
  plain : ∀ event ∈ rest, OnLine (utf8 event.id) ∧ numerals (.obj event.details) = true

section Step

variable (tail : Tail) (connection : Connection) (before rest : List HistoryEvent)

theorem writes_frames (takes : Takes connection rest) :
    (writes formatTime stream connection).filterMap frameOf =
      rest.map (carrying formatTime stream) := by
  rw [writes, stream_frames _ _ _ _ takes.endless, takes.taken]

theorem writes_streamed (takes : Takes connection rest) :
    ∀ write ∈ writes formatTime stream connection, Streamed write := by
  apply stream_streamed formatTime stream _ _ takes.endless
  rw [takes.taken]
  exact takes.plain

/-- A connection that tears no frame hands out the next events. -/
theorem follow_untorn (takes : Takes connection rest)
    (clean : torn (writes formatTime stream connection) connection.received = false) :
    ∃ more left, rest = more ++ left ∧
      arrived (writes formatTime stream connection) connection.received =
        more.map (carrying formatTime stream) ∧
      follow formatTime stream tail connection =
        pipeFrames tail (more.map (carrying formatTime stream)) := by
  have streamed := writes_streamed formatTime stream connection rest takes
  have read := cut_clean _ [] connection.received streamed clean
  have front := arrived_prefix (writes formatTime stream connection) connection.received
  rw [writes_frames formatTime stream connection rest takes, List.prefix_iff_eq_take,
    ← List.map_take] at front
  refine ⟨_, _, (List.take_append_drop _ rest).symm, front, ?_⟩
  rw [follow, connect, parseSSE, Parser.start, read, List.nil_append, ← front]

theorem delivers_iff (takes : Takes connection rest)
    (handed : tail.handed = before.map (carrying formatTime stream)) :
    Delivers formatTime stream (before ++ rest) tail connection ↔
      torn (writes formatTime stream connection) connection.received = false := by
  constructor
  · rintro ⟨start, _⟩
    by_contra tear
    rw [Bool.not_eq_false] at tear
    obtain ⟨whole, full, later, broken, split, read, other⟩ := cut_torn _ [] connection.received
      (writes_streamed formatTime stream connection rest takes) tear
    rw [writes_frames formatTime stream connection rest takes] at split
    rw [follow, connect, parseSSE, Parser.start, read, pipe_handed, handed, List.map_append, split,
      List.nil_append, ← List.append_assoc, ← List.append_assoc] at start
    rw [List.prefix_append_right_inj, List.cons_prefix_cons] at start
    exact other (congrArg Frame.data start.1)
  · intro clean
    obtain ⟨more, left, split, came, followed⟩ :=
      follow_untorn formatTime stream tail connection rest takes clean
    rw [Delivers, followed, pipe_handed, handed]
    constructor
    · rw [split, ← List.append_assoc, List.map_append, List.map_append]
      exact List.prefix_append _ _
    · intro whole
      rw [← came, arrived_all _ _ whole, writes_frames formatTime stream connection rest takes,
        List.map_append]

end Step

/-! ## Connection after connection -/

/-- The caller has the events up to `last`, and the next connection asks for what is behind
it. -/
def Position (events : List HistoryEvent) (tail : Tail) : Prop :=
  ∃ front last rest, events = front ++ last :: rest ∧
    tail.handed = (front ++ [last]).map (carrying formatTime stream) ∧
    tail.lastID = utf8 last.id

theorem pipe_last (tail : Tail) (frames : List Frame) (last : Frame) (numbered : last.id ≠ []) :
    (pipeFrames tail (frames ++ [last])).lastID = last.id := by
  rw [pipeFrames, List.foldl_append, List.foldl_cons, List.foldl_nil, pipeFrame, if_pos numbered]

section Events

variable (events : List HistoryEvent)

/-- Frames that arrived move the position behind the last of them. -/
theorem position_behind (tail : Tail) (before more left : List HistoryEvent) (filled : more ≠ [])
    (split : events = before ++ (more ++ left))
    (plain : ∀ event ∈ more, OnLine (utf8 event.id))
    (handed : tail.handed = before.map (carrying formatTime stream)) :
    Position formatTime stream events
      (pipeFrames tail (more.map (carrying formatTime stream))) := by
  rcases List.eq_nil_or_concat' more with empty | ⟨init, last, rfl⟩
  · exact absurd empty filled
  · have numbered : utf8 last.id ≠ [] := (plain last (by simp)).filled
    refine ⟨before ++ init, last, left, ?_, ?_, ?_⟩
    · rw [split]
      simp
    · rw [pipe_handed, handed, ← List.map_append, List.append_assoc]
    · rw [List.map_append]
      exact pipe_last tail _ (carrying formatTime stream last) numbered

variable (ending : events <:+ matching equalFold stream.options.asQuery log.records)

include ending

theorem events_plain (event : HistoryEvent) (member : event ∈ events) :
    OnLine (utf8 event.id) ∧ numerals (.obj event.details) = true :=
  matching_plain equalFold log stream event (ending.subset member)

/-- A connection opened at a position takes the events behind it. -/
theorem position_takes (cluster : clusterID ≠ "") (tail : Tail) (connection : Connection)
    (front rest : List HistoryEvent) (last : HistoryEvent) (split : events = front ++ last :: rest)
    (number : tail.lastID = utf8 last.id)
    (serving : Serving equalFold log clusterID stream tail connection) :
    Takes connection rest := by
  obtain ⟨endless, taken⟩ :=
    (serving_iff equalFold log clusterID stream tail connection cluster).1 serving
  obtain ⟨earlier, whole⟩ := ending
  refine ⟨endless, ?_, ?_⟩
  · rw [taken, number]
    apply following_resumed equalFold log clusterID stream connection (earlier ++ front)
    rw [← whole, split, List.append_assoc]
  · intro event member
    apply events_plain equalFold log stream events ⟨earlier, whole⟩
    rw [split]
    simp [member]

theorem position_delivers_iff (cluster : clusterID ≠ "") (tail : Tail) (connection : Connection)
    (position : Position formatTime stream events tail)
    (serving : Serving equalFold log clusterID stream tail connection) :
    Delivers formatTime stream events tail connection ↔
      torn (writes formatTime stream connection) connection.received = false := by
  obtain ⟨front, last, rest, split, handed, number⟩ := position
  have takes := position_takes equalFold log clusterID stream events ending cluster tail connection
    front rest last split number serving
  have iff := delivers_iff formatTime stream tail connection (front ++ [last]) rest takes handed
  rw [List.append_assoc, List.singleton_append, ← split] at iff
  exact iff

theorem position_kept (cluster : clusterID ≠ "") (tail : Tail) (connection : Connection)
    (position : Position formatTime stream events tail)
    (serving : Serving equalFold log clusterID stream tail connection)
    (clean : torn (writes formatTime stream connection) connection.received = false) :
    Position formatTime stream events (follow formatTime stream tail connection) := by
  have here := position
  obtain ⟨front, last, rest, split, handed, number⟩ := position
  have takes := position_takes equalFold log clusterID stream events ending cluster tail connection
    front rest last split number serving
  obtain ⟨more, left, parts, _, followed⟩ :=
    follow_untorn formatTime stream tail connection rest takes clean
  rw [followed]
  by_cases filled : more = []
  · rw [filled]
    exact here
  · apply position_behind formatTime stream events tail (front ++ [last]) more left filled
    · rw [split, parts, List.append_assoc, List.singleton_append]
    · intro event member
      apply (takes.plain event _).1
      rw [parts]
      exact List.mem_append_left _ member
    · exact handed

end Events

end Tailing

/-- The events reach the caller exactly once and whole, on every connection, exactly when no
connection is cut inside a frame. -/
theorem append_watch_exactly_once_iff (equalFold : String → String → Bool)
    (formatTime : Int → String) (log : PlainLog) (clusterID : String) (stream : AppendStream)
    (cluster : clusterID ≠ "") (seed : List UInt8) (first : Connection)
    (connections : List Connection)
    (serving : StepsMeet (follow formatTime stream) (Serving equalFold log clusterID stream)
      ⟨seed, []⟩ (first :: connections))
    (complete : arrived (writes formatTime stream first) first.received ≠ []) :
    StepsMeet (follow formatTime stream)
        (Delivers formatTime stream (following equalFold log clusterID stream seed first))
        ⟨seed, []⟩ (first :: connections) ↔
      ∀ connection ∈ first :: connections,
        torn (writes formatTime stream connection) connection.received = false := by
  obtain ⟨opened, reopened⟩ := serving
  have ending := following_suffix equalFold log clusterID stream seed first
  obtain ⟨endless, taken⟩ :=
    (serving_iff equalFold log clusterID stream ⟨seed, []⟩ first cluster).1 opened
  have takes : Takes first (following equalFold log clusterID stream seed first) :=
    ⟨endless, taken, events_plain equalFold log stream _ ending⟩
  have firstIff := delivers_iff formatTime stream ⟨seed, []⟩ first [] _ takes rfl
  rw [List.nil_append] at firstIff
  rw [List.forall_mem_cons]
  -- Once the first connection is clean there is a position to go on from.
  have later : torn (writes formatTime stream first) first.received = false →
      (StepsMeet (follow formatTime stream)
          (Delivers formatTime stream (following equalFold log clusterID stream seed first))
          (follow formatTime stream ⟨seed, []⟩ first) connections ↔
        ∀ connection ∈ connections,
          torn (writes formatTime stream connection) connection.received = false) := by
    intro clean
    obtain ⟨more, left, parts, came, followed⟩ :=
      follow_untorn formatTime stream ⟨seed, []⟩ first _ takes clean
    have filled : more ≠ [] := by
      rintro rfl
      exact complete came
    have position : Position formatTime stream
        (following equalFold log clusterID stream seed first)
        (follow formatTime stream ⟨seed, []⟩ first) := by
      rw [followed]
      apply position_behind formatTime stream _ ⟨seed, []⟩ [] more left filled parts
      · intro event member
        apply (takes.plain event _).1
        rw [parts]
        exact List.mem_append_left _ member
      · rfl
    rw [steps_meet_congr_invariant (follow formatTime stream) _ _
      (fun _ connection => torn (writes formatTime stream connection) connection.received = false)
      (Position formatTime stream (following equalFold log clusterID stream seed first))
      (fun tail connection => position_delivers_iff equalFold formatTime log clusterID stream _
        ending cluster tail connection)
      (fun tail connection => position_kept equalFold formatTime log clusterID stream _ ending
        cluster tail connection) _ position connections reopened]
    exact ⟨forall_of_steps_meet _ _ _ _, steps_meet_of_forall _ _ _ _⟩
  constructor
  · rintro ⟨delivered, rest⟩
    have clean := firstIff.1 delivered
    exact ⟨clean, (later clean).1 rest⟩
  · rintro ⟨clean, rest⟩
    exact ⟨firstIff.2 clean, (later clean).2 rest⟩

def transition (id : String) : HistoryEvent :=
  ⟨"v1", "", id, 0, "event", "state_transition", "prod", "", [], "", ""⟩

def twoTransitions : PlainLog where
  records := [⟨.event, "state_transition", 1, some (transition "01a")⟩,
    ⟨.event, "state_transition", 2, some (transition "01b")⟩]
  distinct := by decide
  named := by decide
  plain := by
    intro event member
    have cases : event = transition "01a" ∨ event = transition "01b" := by simpa using member
    rcases cases with rfl | rfl <;> exact ⟨⟨by decide, by decide, by decide⟩, rfl⟩

/-- Both transitions are published on the first connection, with a keepalive between. -/
def firstConnection (received : Nat) : Connection :=
  ⟨0, 0, [.event (transition "01a"), .keepalive, .event (transition "01b")], received⟩

def secondConnection (turns : List Selected) : Connection := ⟨5, 2, turns, 1000⟩

theorem first_serving (received : Nat) :
    Serving (fun left right => left = right) twoTransitions "prod" .transitions ⟨[], []⟩
      (firstConnection received) := by
  rw [serving_iff _ _ _ _ _ _ (by decide), following_admitted]
  exact ⟨by simp [firstConnection, Selected.ends], rfl⟩

theorem second_serving (tail : Tail) (behind : List HistoryEvent)
    (number : tail.lastID = utf8 "01a" ∧ behind = [transition "01b"] ∨
      tail.lastID = utf8 "01b" ∧ behind = []) :
    Serving (fun left right => left = right) twoTransitions "prod" .transitions tail
      (secondConnection (behind.map .event)) := by
  rw [serving_iff _ _ _ _ _ _ (by decide), following_admitted]
  rcases number with ⟨number, rfl⟩ | ⟨number, rfl⟩
  · rw [number]
    exact ⟨by simp [secondConnection, Selected.ends], rfl⟩
  · rw [number]
    exact ⟨by simp [secondConnection], rfl⟩

/-- The first connection is cut in the keepalive. -/
theorem append_watch_exactly_once_keepalive :
    StepsMeet (follow (fun _ => "") .transitions)
      (Delivers (fun _ => "") .transitions
        (following (fun left right => left = right) twoTransitions "prod" .transitions []
          (firstConnection 160)))
      ⟨[], []⟩ [firstConnection 160, secondConnection [.event (transition "01b")]] := by
  have sent : (follow (fun _ => "") .transitions ⟨[], []⟩ (firstConnection 160)).lastID =
      utf8 "01a" := by decide +kernel
  refine (append_watch_exactly_once_iff (fun left right => left = right) (fun _ => "")
    twoTransitions "prod" .transitions (by decide) [] (firstConnection 160)
    [secondConnection [.event (transition "01b")]]
    ⟨first_serving 160, ?_, trivial⟩ (by decide +kernel)).2 (by decide +kernel)
  exact second_serving _ [transition "01b"] (Or.inl ⟨sent, rfl⟩)

/-- The first connection is cut right behind the id of the second frame. The frame is handed
out without its data, and the second connection asks for what is behind it. -/
theorem torn_frame_loses_its_data :
    StepsMeet (follow (fun _ => "") .transitions)
        (Serving (fun left right => left = right) twoTransitions "prod" .transitions) ⟨[], []⟩
        [firstConnection 198, secondConnection []] ∧
      arrived (writes (fun _ => "") .transitions (firstConnection 198)) 198 ≠ [] ∧
      (run (follow (fun _ => "") .transitions) ⟨[], []⟩
          [firstConnection 198, secondConnection []]).handed =
        [carrying (fun _ => "") .transitions (transition "01a"),
          ⟨utf8 "state_transition", utf8 "01b", []⟩] ∧
      ¬ StepsMeet (follow (fun _ => "") .transitions)
        (Delivers (fun _ => "") .transitions
          (following (fun left right => left = right) twoTransitions "prod" .transitions []
            (firstConnection 198)))
        ⟨[], []⟩ [firstConnection 198, secondConnection []] := by
  have handed : follow (fun _ => "") .transitions ⟨[], []⟩ (firstConnection 198) =
      ⟨utf8 "01b", [carrying (fun _ => "") .transitions (transition "01a"),
        ⟨utf8 "state_transition", utf8 "01b", []⟩]⟩ := by decide +kernel
  have events : following (fun left right => left = right) twoTransitions "prod" .transitions []
      (firstConnection 198) = [transition "01a", transition "01b"] := by
    rw [following_admitted]
    rfl
  refine ⟨⟨first_serving 198, ?_, trivial⟩, by decide +kernel, ?_, ?_⟩
  · rw [handed]
    exact second_serving _ [] (Or.inr ⟨rfl, rfl⟩)
  · rw [Library.Runs.run, List.foldl_cons, handed]
    rfl
  · rintro ⟨⟨start, _⟩, _⟩
    rw [events, handed, List.map_cons, List.map_singleton, List.cons_prefix_cons,
      List.cons_prefix_cons] at start
    have data := congrArg Frame.data start.2.1
    exact absurd data.symm (object_on_line _ rfl).filled

end PgmanProxy.Pgmctl.AppendTail
