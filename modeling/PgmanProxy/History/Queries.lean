import Mathlib.Data.List.Nodup
import PgmanProxy.History.Stream
import PgmanProxy.Library.GoBytes
import PgmanProxy.Library.Paging

/-!
# Querying the history, page by page

`Run` reads the stream from its start in batches, skips up to and including the
record its cursor names, applies the remaining filters and stops at the limit.
`run_page` says what one call returns in terms of the records alone, whatever the
batches were. A client that follows `next_cursor` with the same filters therefore
reads every matching record once.
-/

namespace PgmanProxy.History.Queries

open PgmanProxy.History.Stream PgmanProxy.Library.GoBytes PgmanProxy.Library.Paging

set_option autoImplicit false

/-- `history.Query`. No upper bound on the time is the zero `Until`. The cursor comes from
the client and may be any bytes. -/
structure Query where
  since : Int
  untilTime : Option Int
  category : Option Category
  types : List String
  nodes : List String
  limit : Int
  cursor : List UInt8

structure Result where
  apiVersion : String
  kind : String
  events : List HistoryEvent
  nextCursor : List UInt8
  truncated : Bool

/-- The limit after the default. -/
def Query.bound (query : Query) : Nat :=
  if query.limit ≤ 0 then 1000 else query.limit.toNat

def Query.batchSize (query : Query) : Nat := min query.bound 256

def Query.policy (now : Int) (query : Query) : DeliverPolicy :=
  if query.cursor ≠ [] then .all
  else if 0 < query.since then .byStartTime (now - query.since)
  else .all

/-- The messages the query's consumer is given, of what the stream holds. -/
def Query.delivered (now : Int) (clusterID : String) (query : Query) (records : List Record) :
    List Record :=
  ((query.policy now).backlog records).filter (seen clusterID query.category)

/-- The event is after the query's `Until`. -/
def Query.late (query : Query) (event : HistoryEvent) : Bool :=
  match query.untilTime with
  | none => false
  | some cutoff => cutoff < event.time

/-- What one `Fetch` of the consumer gives. -/
inductive Fetched where
  | messages (batch : List Record)
  | deadlineExceeded
  | failed (why : String)

/-- What JetStream answers during one query: the errors of opening the stream and the
consumer, and the fetches in turn. After the last one listed nothing is left. -/
structure JetStream where
  streamError : Option String
  consumerError : Option String
  fetches : List Fetched

def nodeMatches (filter : List String) (id : String) : Bool :=
  filter.isEmpty || filter.any (fun wanted => wanted = id)

section Filters

-- strings.EqualFold
variable (equalFold : String → String → Bool)

def typeMatches (filter : List String) (evType : String) : Bool :=
  filter.isEmpty || filter.any (fun wanted => equalFold evType wanted)

structure Progress where
  cursorSeen : Bool
  events : List HistoryEvent

/-- The inner loop, over the messages of one batch. -/
def readBatch (query : Query) : List Record → Progress → Progress
  | [], progress => progress
  | message :: batch, progress =>
      match message.event with
      | none => readBatch query batch progress
      | some event =>
          if query.late event then readBatch query batch progress
          else if !progress.cursorSeen then
            readBatch query batch { progress with cursorSeen := utf8 event.id = query.cursor }
          else if !typeMatches equalFold query.types event.type then
            readBatch query batch progress
          else if !nodeMatches query.nodes event.nodeID then readBatch query batch progress
          else
            let events := progress.events ++ [event]
            if query.bound ≤ events.length then { progress with events := events }
            else readBatch query batch { progress with events := events }

def fetchLoop (query : Query) : List Fetched → Progress → Except String Progress
  | [], progress => .ok progress
  | fetched :: fetches, progress =>
      if progress.events.length < query.bound then
        match fetched with
        | .failed why => .error ("history fetch: " ++ why)
        | .deadlineExceeded => .ok progress
        | .messages batch =>
            if batch.isEmpty then .ok progress
            else fetchLoop query fetches (readBatch equalFold query batch progress)
      else .ok progress

def lastID (events : List HistoryEvent) : List UInt8 :=
  match events.getLast? with
  | none => []
  | some event => utf8 event.id

def resultOf (query : Query) (events : List HistoryEvent) : Result where
  apiVersion := "pgman-proxy/v1"
  kind := "HistoryQueryResult"
  events := events
  nextCursor := lastID events
  truncated := events.length = query.bound

/-- `Run`; the partial result next to an error is not kept, nobody reads it. -/
def run (js : Option JetStream) (clusterID : String) (query : Query) : Except String Result :=
  match js with
  | none => .error "history: nil JetStream context"
  | some js =>
      if clusterID = "" then .error "history: empty clusterID"
      else
        match js.streamError, js.consumerError with
        | some why, _ => .error ("open history stream: " ++ why)
        | none, some why => .error ("history ordered consumer: " ++ why)
        | none, none =>
            (fetchLoop equalFold query js.fetches ⟨query.cursor = [], []⟩).map
              (fun progress => resultOf query progress.events)

/-! ## What a query selects -/

def selects (query : Query) (event : HistoryEvent) : Bool :=
  typeMatches equalFold query.types event.type && nodeMatches query.nodes event.nodeID

/-- The decodable records that are not after `Until`. -/
def timely (query : Query) (records : List Record) : List HistoryEvent :=
  (records.filterMap Record.event).filter (fun event => !query.late event)

/-- The events still to be returned, before or after the cursor's record was met. -/
def remaining (query : Query) (cursorSeen : Bool) (records : List Record) : List HistoryEvent :=
  let behind := if cursorSeen then timely query records
    else past (fun event => utf8 event.id = query.cursor) (timely query records)
  behind.filter (selects equalFold query)

/-- The records that match every filter of the query, in stream order. -/
def matching (query : Query) (records : List Record) : List HistoryEvent :=
  (timely query (records.filter (fun record => admits query.category record.category))).filter
    (selects equalFold query)

/-! ## One call -/

section Scanning

variable (query : Query) (message : Record) (event : HistoryEvent) (records : List Record)

theorem remaining_undecodable (cursorSeen : Bool) (undecodable : message.event = none) :
    remaining equalFold query cursorSeen (message :: records) =
      remaining equalFold query cursorSeen records := by
  simp [remaining, timely, undecodable]

theorem remaining_late (cursorSeen : Bool) (decoded : message.event = some event)
    (late : query.late event = true) :
    remaining equalFold query cursorSeen (message :: records) =
      remaining equalFold query cursorSeen records := by
  simp [remaining, timely, decoded, late]

theorem remaining_before (decoded : message.event = some event)
    (inTime : query.late event = false) :
    remaining equalFold query false (message :: records) =
      remaining equalFold query (utf8 event.id = query.cursor) records := by
  by_cases mark : utf8 event.id = query.cursor <;>
    simp [remaining, timely, decoded, inTime, past, mark]

theorem remaining_behind (decoded : message.event = some event)
    (inTime : query.late event = false) :
    remaining equalFold query true (message :: records) =
      if selects equalFold query event then event :: remaining equalFold query true records
      else remaining equalFold query true records := by
  by_cases chosen : selects equalFold query event = true <;>
    simp [remaining, timely, decoded, inTime, chosen]

/-- One message behind the cursor: it is returned when the filters select it, and the
loop ends when that fills the page. -/
theorem read_behind (progress : Progress) (decoded : message.event = some event)
    (inTime : query.late event = false) (behind : progress.cursorSeen = true) :
    readBatch equalFold query (message :: records) progress =
      if selects equalFold query event then
        if query.bound ≤ (progress.events ++ [event]).length then
          ⟨true, progress.events ++ [event]⟩
        else readBatch equalFold query records ⟨true, progress.events ++ [event]⟩
      else readBatch equalFold query records progress := by
  rw [readBatch]
  cases typed : typeMatches equalFold query.types event.type <;>
    cases placed : nodeMatches query.nodes event.nodeID <;>
    simp [decoded, inTime, behind, selects, typed, placed]

theorem read_before (progress : Progress) (decoded : message.event = some event)
    (inTime : query.late event = false) (before : progress.cursorSeen = false) :
    readBatch equalFold query (message :: records) progress =
      readBatch equalFold query records ⟨utf8 event.id = query.cursor, progress.events⟩ := by
  rw [readBatch]
  simp [decoded, inTime, before]

end Scanning

/-- What one message does to the loop: it goes on from some progress with room left, or
the message fills the page. -/
theorem read_message (query : Query) (message : Record) (progress : Progress)
    (room : progress.events.length < query.bound) :
    (∃ next : Progress, next.events.length < query.bound ∧ ∀ records,
      readBatch equalFold query (message :: records) progress =
          readBatch equalFold query records next ∧
        progress.events ++ remaining equalFold query progress.cursorSeen (message :: records) =
          next.events ++ remaining equalFold query next.cursorSeen records) ∨
    (∃ events, events.length = query.bound ∧ ∀ records,
      readBatch equalFold query (message :: records) progress = ⟨true, events⟩ ∧
        progress.events ++ remaining equalFold query progress.cursorSeen (message :: records) =
          events ++ remaining equalFold query true records) := by
  cases decoded : message.event with
  | none =>
      refine Or.inl ⟨progress, room, fun records => ⟨?_, ?_⟩⟩
      · rw [readBatch, decoded]
      · rw [remaining_undecodable _ _ _ _ _ decoded]
  | some event =>
      cases late : query.late event with
      | true =>
          refine Or.inl ⟨progress, room, fun records => ⟨?_, ?_⟩⟩
          · simp only [readBatch, decoded, late, if_true]
          · rw [remaining_late _ _ _ _ _ _ decoded late]
      | false =>
          cases behind : progress.cursorSeen with
          | false =>
              refine Or.inl ⟨⟨utf8 event.id = query.cursor, progress.events⟩, room,
                fun records => ⟨?_, ?_⟩⟩
              · exact read_before _ _ _ _ _ _ decoded late behind
              · rw [remaining_before _ _ _ _ _ decoded late]
          | true =>
              by_cases chosen : selects equalFold query event = true
              · by_cases filled : query.bound ≤ (progress.events ++ [event]).length
                · refine Or.inr ⟨progress.events ++ [event], ?_, fun records => ⟨?_, ?_⟩⟩
                  · rw [List.length_append, List.length_singleton] at filled ⊢
                    omega
                  · rw [read_behind _ _ _ _ _ _ decoded late behind, if_pos chosen, if_pos filled]
                  · rw [remaining_behind _ _ _ _ _ decoded late, if_pos chosen,
                      List.append_assoc, List.singleton_append]
                · refine Or.inl ⟨⟨true, progress.events ++ [event]⟩, Nat.lt_of_not_le filled,
                    fun records => ⟨?_, ?_⟩⟩
                  · rw [read_behind _ _ _ _ _ _ decoded late behind, if_pos chosen, if_neg filled]
                  · rw [remaining_behind _ _ _ _ _ decoded late, if_pos chosen,
                      List.append_assoc, List.singleton_append]
              · refine Or.inl ⟨progress, room, fun records => ⟨?_, ?_⟩⟩
                · rw [read_behind _ _ _ _ _ _ decoded late behind, if_neg chosen]
                · rw [remaining_behind _ _ _ _ _ decoded late, if_neg chosen, behind]

/-- Reading a batch returns what remains in it, up to the limit. -/
theorem read_batch_events (query : Query) (records : List Record) (progress : Progress)
    (room : progress.events.length < query.bound) :
    (readBatch equalFold query records progress).events =
      (progress.events ++ remaining equalFold query progress.cursorSeen records).take
        query.bound := by
  induction records generalizing progress with
  | nil =>
      have nothing : remaining equalFold query progress.cursorSeen [] = [] := by
        cases progress.cursorSeen <;> rfl
      rw [nothing, List.append_nil, List.take_of_length_le (Nat.le_of_lt room)]
      rfl
  | cons message records ih =>
      rcases read_message equalFold query message progress room with
        ⟨next, nextRoom, goes⟩ | ⟨events, filled, stops⟩
      · rw [(goes records).1, (goes records).2]
        exact ih next nextRoom
      · rw [(stops records).1, (stops records).2, ← filled, List.take_left]

/-- A loop that filled its page stays where it is. -/
theorem read_batch_append (query : Query) (left right : List Record) (progress : Progress)
    (room : progress.events.length < query.bound) :
    readBatch equalFold query (left ++ right) progress =
      if (readBatch equalFold query left progress).events.length < query.bound then
        readBatch equalFold query right (readBatch equalFold query left progress)
      else readBatch equalFold query left progress := by
  induction left generalizing progress with
  | nil => rw [List.nil_append, readBatch, if_pos room]
  | cons message left ih =>
      rw [List.cons_append]
      rcases read_message equalFold query message progress room with
        ⟨next, nextRoom, goes⟩ | ⟨events, filled, stops⟩
      · rw [(goes _).1, (goes _).1]
        exact ih next nextRoom
      · rw [(stops _).1, (stops _).1, if_neg (by simp [filled])]

/-- The consumer hands out the messages in order, in batches that are empty only when
none is left. -/
structure Serves (js : JetStream) (batchSize : Nat) (messages : List Record) : Prop where
  stream : js.streamError = none
  consumer : js.consumerError = none
  batches : ∃ batches : List (List Record), js.fetches = batches.map Fetched.messages ∧
    (∀ batch ∈ batches, batch ≠ [] ∧ batch.length ≤ batchSize) ∧ batches.flatten = messages

/-- A consumer that hands out one message at a time. -/
def oneByOne (messages : List Record) : JetStream where
  streamError := none
  consumerError := none
  fetches := messages.map (fun message => .messages [message])

theorem one_by_one_serves (messages : List Record) (batchSize : Nat) (positive : 0 < batchSize) :
    Serves (oneByOne messages) batchSize messages := by
  refine ⟨rfl, rfl, messages.map (fun message => [message]), ?_, ?_, ?_⟩
  · rw [List.map_map]
    rfl
  · intro batch member
    obtain ⟨message, _, rfl⟩ := List.mem_map.1 member
    exact ⟨List.cons_ne_nil _ _, positive⟩
  · induction messages with
    | nil => rfl
    | cons message messages ih => rw [List.map_cons, List.flatten_cons, ih, List.singleton_append]

/-- The batches do not matter. -/
theorem fetch_loop_reads (query : Query) (batches : List (List Record)) (progress : Progress)
    (filled : ∀ batch ∈ batches, batch ≠ []) (room : progress.events.length < query.bound) :
    fetchLoop equalFold query (batches.map Fetched.messages) progress =
      .ok (readBatch equalFold query batches.flatten progress) := by
  induction batches generalizing progress with
  | nil => rfl
  | cons batch batches ih =>
      have some_message : batch.isEmpty = false := by
        simpa using filled batch List.mem_cons_self
      have later : ∀ other ∈ batches, other ≠ [] := by
        intro other member
        exact filled other (List.mem_cons_of_mem batch member)
      rw [List.map_cons, fetchLoop, if_pos room, List.flatten_cons,
        read_batch_append _ _ _ _ _ room]
      simp only [some_message, Bool.false_eq_true, if_false]
      by_cases more : (readBatch equalFold query batch progress).events.length < query.bound
      · rw [if_pos more]
        exact ih _ later more
      · rw [if_neg more]
        cases batches with
        | nil => rfl
        | cons next batches => rw [List.map_cons, fetchLoop, if_neg more]

theorem bound_positive (query : Query) : 0 < query.bound := by
  unfold Query.bound
  split <;> omega

/-- One page of a query is what remains behind its cursor, up to the limit. -/
theorem run_page (js : JetStream) (clusterID : String) (query : Query) (messages : List Record)
    (named : clusterID ≠ "") (serves : Serves js query.batchSize messages) :
    run equalFold (some js) clusterID query =
      .ok (resultOf query
        ((remaining equalFold query (query.cursor = []) messages).take query.bound)) := by
  obtain ⟨batches, fetched, sizes, whole⟩ := serves.batches
  have room : ([] : List HistoryEvent).length < query.bound := bound_positive query
  have read := fetch_loop_reads equalFold query batches ⟨query.cursor = [], []⟩
    (fun batch member => (sizes batch member).1) room
  unfold run
  simp only [if_neg named, serves.stream, serves.consumer]
  rw [fetched, read, whole, Except.map, read_batch_events _ _ _ _ room, List.nil_append]

/-! ## Following the cursor -/

def pageOf : Except String Result → Option (Page HistoryEvent (List UInt8))
  | .error _ => none
  | .ok result =>
      some ⟨result.events, if result.truncated then some result.nextCursor else none⟩

/-- A client that starts without a cursor and follows `next_cursor` with the same filters
until `truncated` is false. -/
def followPages (js : Nat → JetStream) (clusterID : String) (query : Query) (fuel : Nat) :
    Option (List HistoryEvent) :=
  follow (fun turn cursor =>
    pageOf (run equalFold (some (js turn)) clusterID { query with cursor := cursor })) fuel 0 []

/-- The cursor stands right in front of `rest` among the matching records. -/
def StandsBefore (events : List HistoryEvent) (cursor : List UInt8)
    (rest : List HistoryEvent) : Prop :=
  (cursor = [] ∧ rest = events) ∨
    ∃ before last, events = before ++ last :: rest ∧ cursor = utf8 last.id

theorem event_ids_map (records : List Record) :
    eventIDs records = (records.filterMap Record.event).map HistoryEvent.id := by
  rw [List.map_filterMap]
  rfl

theorem timely_sublist (query : Query) (records : List Record) :
    (timely query records).Sublist (records.filterMap Record.event) :=
  List.filter_sublist

theorem seen_sublist (clusterID : String) (filter : Option Category) (records : List Record) :
    ((records.filter (seen clusterID filter)).filterMap Record.event).Sublist
      (records.filterMap Record.event) :=
  List.Sublist.filterMap _ List.filter_sublist

theorem matching_eq (query : Query) (clusterID : String) (records : List Record) :
    matching equalFold query records =
      (timely query (records.filter (seen clusterID query.category))).filter
        (selects equalFold query) := by
  have same : (fun record : Record => admits query.category record.category) =
      seen clusterID query.category := by
    funext record
    exact (seen_iff_admits clusterID query.category record).symm
  rw [matching, same]

section Resuming

variable (log : Log) (clusterID : String) (query : Query)

theorem timely_ids_distinct :
    ((timely query (log.records.filter (seen clusterID query.category))).map
      HistoryEvent.id).Nodup := by
  have distinct := log.distinct
  rw [event_ids_map] at distinct
  exact distinct.sublist (((timely_sublist query _).trans (seen_sublist clusterID _ _)).map _)

theorem timely_named (event : HistoryEvent)
    (member : event ∈ timely query (log.records.filter (seen clusterID query.category))) :
    event.id ≠ "" := by
  intro empty
  have named := log.named
  rw [event_ids_map] at named
  have present := ((timely_sublist query _).trans (seen_sublist clusterID _ _)).subset member
  apply named
  rw [← empty]
  exact List.mem_map_of_mem present

/-- Behind the cursor of a page that ended in front of `rest`, exactly `rest` remains. -/
theorem remaining_stands (cursor : List UInt8) (rest : List HistoryEvent)
    (stands : StandsBefore (matching equalFold query log.records) cursor rest) :
    remaining equalFold { query with cursor := cursor } (cursor = [])
      (log.records.filter (seen clusterID query.category)) = rest := by
  rw [matching_eq equalFold query clusterID] at stands
  rcases stands with ⟨rfl, all⟩ | ⟨before, last, split, rfl⟩
  · rw [all]
    rfl
  · have distinct := timely_ids_distinct log clusterID query
    have chosen : last ∈ (timely query (log.records.filter (seen clusterID query.category))).filter
        (selects equalFold query) := by
      rw [split]
      simp
    obtain ⟨member, selected⟩ := List.mem_filter.1 chosen
    have unnamed : decide (utf8 last.id = []) = false := by
      simpa [utf8_nil_iff] using timely_named log clusterID query last member
    -- The only event with the cursor's id is the last one of the page before.
    have only : ∀ event ∈ timely query (log.records.filter (seen clusterID query.category)),
        decide (utf8 event.id = utf8 last.id) = true → selects equalFold query event = true := by
      intro event present same
      have equal := List.inj_on_of_nodup_map distinct present member
        (utf8_injective _ _ (of_decide_eq_true same))
      rw [equal]
      exact selected
    have pageIDs : (before.map HistoryEvent.id ++ last.id :: rest.map HistoryEvent.id).Nodup := by
      have kept := distinct.sublist ((List.filter_sublist (p := selects equalFold query)).map
        HistoryEvent.id)
      rw [split, List.map_append, List.map_cons] at kept
      exact kept
    have earlier : ∀ event ∈ before, decide (utf8 event.id = utf8 last.id) = false := by
      intro event present
      rw [decide_eq_false_iff_not]
      intro same
      have ahead := List.nodup_append.1 pageIDs
      exact ahead.2.2 _ (List.mem_map_of_mem present) _ List.mem_cons_self
        (utf8_injective _ _ same)
    calc remaining equalFold { query with cursor := utf8 last.id } (utf8 last.id = [])
          (log.records.filter (seen clusterID query.category))
        = (past (fun event => utf8 event.id = utf8 last.id)
            (timely query (log.records.filter (seen clusterID query.category)))).filter
              (selects equalFold query) := by
          unfold remaining
          rw [unnamed]
          rfl
      _ = past (fun event => utf8 event.id = utf8 last.id) (before ++ last :: rest) := by
          rw [past_filter _ _ _ only, split]
      _ = rest := past_mark _ before rest last earlier (by simp)

end Resuming

theorem last_id_take (rest : List HistoryEvent) (bound : Nat) (positive : 0 < bound)
    (enough : bound ≤ rest.length) :
    ∃ before last, rest = before ++ last :: rest.drop bound ∧
      lastID (rest.take bound) = utf8 last.id := by
  obtain ⟨size, rfl⟩ : ∃ size, bound = size + 1 := ⟨bound - 1, by omega⟩
  have inside : size < rest.length := by omega
  refine ⟨rest.take size, rest[size], ?_, ?_⟩
  · rw [← List.drop_eq_getElem_cons inside, List.take_append_drop]
  · rw [lastID, List.take_succ_eq_append_getElem inside, List.getLast?_concat]

theorem unwindowed_policy (query : Query) (now : Int) (unwindowed : query.since = 0) :
    query.policy now = .all := by
  unfold Query.policy
  rw [unwindowed]
  split <;> rfl

end Filters

/-! ## A small stream -/

def sampleEvent (id type nodeID : String) (time : Int) : HistoryEvent where
  apiVersion := "pgman-proxy/v1"
  kind := "HistoryEvent"
  id := id
  time := time
  category := "event"
  type := type
  clusterID := "prod"
  nodeID := nodeID
  details := []
  traceID := ""
  spanID := ""

def sampleRecord (id type nodeID : String) (time : Int) : Record :=
  ⟨.event, type, time, some (sampleEvent id type nodeID time)⟩

/-- Three transitions, with an undecodable record between them. -/
def sampleLog : Log where
  records := [sampleRecord "01a" "state_transition" "node-a" 1,
    ⟨.event, "state_transition", 2, none⟩,
    sampleRecord "01b" "state_transition" "node-b" 3,
    sampleRecord "01c" "state_transition" "node-a" 4]
  distinct := by decide
  named := by decide

def sampleQuery : Query where
  since := 0
  untilTime := none
  category := some .event
  types := []
  nodes := []
  limit := 1
  cursor := []

def sampleJetStream : JetStream where
  streamError := none
  consumerError := none
  fetches := sampleLog.records.map (fun record => .messages [record])

theorem sample_served (cursor : List UInt8) :
    Serves sampleJetStream sampleQuery.batchSize
      (Query.delivered 9 "prod" { sampleQuery with cursor := cursor } sampleLog.records) := by
  have all := unwindowed_policy { sampleQuery with cursor := cursor } 9 rfl
  have visible : sampleLog.records.filter (seen "prod" (some .event)) = sampleLog.records := by
    apply List.filter_eq_self.2
    intro record member
    rw [seen_iff_admits]
    revert record
    decide
  have whole : Query.delivered 9 "prod" { sampleQuery with cursor := cursor } sampleLog.records =
      sampleLog.records := by
    rw [Query.delivered, all]
    exact visible
  rw [whole]
  exact one_by_one_serves sampleLog.records _ (by decide)

/-! ## Completeness -/

/-- Following the cursor from the start reads exactly the matching records, each once and
in stream order, whatever the filters, the limit and the batches of each page. -/
theorem pagination_complete (equalFold : String → String → Bool) (js : Nat → JetStream)
    (log : Log) (clusterID : String) (now : Int) (query : Query) (named : clusterID ≠ "")
    (unwindowed : query.since = 0)
    (serves : ∀ turn cursor, Serves (js turn) query.batchSize
      (Query.delivered now clusterID { query with cursor := cursor } log.records))
    (fuel : Nat) (enough : (matching equalFold query log.records).length < fuel) :
    followPages equalFold js clusterID query fuel = some (matching equalFold query log.records) ∧
      ((matching equalFold query log.records).map HistoryEvent.id).Nodup := by
  -- What one page holds when its cursor stands in front of `rest`.
  have page : ∀ turn cursor rest, StandsBefore (matching equalFold query log.records) cursor rest →
      run equalFold (some (js turn)) clusterID { query with cursor := cursor } =
        .ok (resultOf query (rest.take query.bound)) := by
    intro turn cursor rest stands
    have all := unwindowed_policy { query with cursor := cursor } now unwindowed
    have served := serves turn cursor
    rw [Query.delivered, all] at served
    rw [run_page equalFold (js turn) clusterID { query with cursor := cursor } _ named served]
    simp only [DeliverPolicy.backlog]
    rw [remaining_stands equalFold log clusterID query cursor rest stands]
    rfl
  constructor
  · refine follow_complete _ (StandsBefore (matching equalFold query log.records)) query.bound
      (bound_positive query) ?_ ?_ fuel 0 [] _ (Or.inl ⟨rfl, rfl⟩) enough
    · intro turn cursor rest stands filled
      obtain ⟨before, last, split, ended⟩ :=
        last_id_take rest query.bound (bound_positive query) filled
      refine ⟨utf8 last.id, ?_, ?_⟩
      · rw [page turn cursor rest stands]
        simp [pageOf, resultOf, ended, filled]
      · rcases stands with ⟨_, whole⟩ | ⟨front, mark, whole, _⟩
        · exact Or.inr ⟨before, last, by rw [← whole, ← split], rfl⟩
        · refine Or.inr ⟨front ++ mark :: before, last, ?_, rfl⟩
          rw [whole, List.append_assoc, List.cons_append, ← split]
    · intro turn cursor rest stands short
      rw [page turn cursor rest stands, List.take_of_length_le (Nat.le_of_lt short)]
      simp [pageOf, resultOf, Nat.ne_of_lt short]
  · rw [matching_eq equalFold query clusterID]
    exact (timely_ids_distinct log clusterID query).sublist (List.filter_sublist.map _)

/-- One record to a page. -/
theorem pagination_complete_sample :
    (followPages (fun left right => left = right) (fun _ => sampleJetStream) "prod" sampleQuery
        4).map (fun events => events.map HistoryEvent.id) = some ["01a", "01b", "01c"] := by
  have read := pagination_complete (fun left right => left = right) (fun _ => sampleJetStream)
    sampleLog "prod" 9 sampleQuery (by decide) rfl (fun _ cursor => sample_served cursor) 4
    (by decide)
  rw [read.1]
  decide

end PgmanProxy.History.Queries
