import PgmanProxy.Pgmctl.HistoryCommands

/-!
# Reading on with `--cursor`

An answer that was cut short tells the operator a cursor, and the same command with
`--cursor` goes on behind it. The first command starts at the beginning of the window, the
later ones at the record of the cursor. The records do not change while the operator reads.
-/

namespace PgmanProxy.Pgmctl.HistoryPaging

open PgmanProxy.Library.GoBytes (utf8 utf8_nil_iff)
open PgmanProxy.Library.GoJson PgmanProxy.Library.GoUrl PgmanProxy.Library.Paging
open PgmanProxy.History.Queries PgmanProxy.History.Stream
open PgmanProxy.Control.HistoryQuery PgmanProxy.Pgmctl.HistoryCommands

set_option autoImplicit false

section Reading

variable (equalFold : String → String → Bool)
  (parseDuration parseTime : String → Except String Int) (durationString : Int → String)
  (clusterID category : String) (flags : EventsFlags)

/-- One command with a cursor, and what JetStream answers the server meanwhile. The page is the
handler's: the envelope around it, which the client decodes, and the 16 MiB the client reads of a
response are left out. -/
def eventsPage (js : JetStream) (cursor : String) : Option (Page HistoryEvent String) :=
  match handleHistoryQuery parseDuration parseTime (some (run equalFold (some js) clusterID))
      (addressQuery (historyPath durationString category { flags with cursor := cursor })) with
  | .error _ => none
  | .ok result =>
      some ⟨result.events,
        if result.truncated then some ((textOf result.nextCursor).getD "") else none⟩

/-- The operator repeats the command as long as the answer was truncated. -/
def readOn (js : Nat → String → JetStream) (fuel : Nat) : Option (List HistoryEvent) :=
  follow (fun turn cursor => eventsPage equalFold parseDuration parseTime durationString clusterID
    category flags (js turn cursor) cursor) fuel 0 ""

end Reading

/-- The records of the window that a query without a cursor opens. -/
def windowed (now : Int) (query : Query) (records : List Record) : List Record :=
  records.dropWhile (fun record => record.storedAt < now - query.since)

theorem meant_cursor (parseTime : String → Except String Int) (category : String)
    (flags : EventsFlags) (query : Query) (cursor : String)
    (meant : meantQuery parseTime category flags = .ok query) :
    meantQuery parseTime category { flags with cursor := cursor } =
      .ok { query with cursor := utf8 cursor } := by
  unfold meantQuery at meant ⊢
  have chosen : chosenCategory category { flags with cursor := cursor } =
      chosenCategory category flags := rfl
  rw [chosen]
  cases untilRead : untilOf parseTime flags.untilText with
  | error why =>
      rw [untilRead] at meant
      cases meant
  | ok untilTime =>
      cases categoryRead : categoryOf (chosenCategory category flags) with
      | error why =>
          rw [untilRead, categoryRead] at meant
          cases meant
      | ok found =>
          rw [untilRead, categoryRead] at meant
          cases meant
          rfl

theorem matching_append (equalFold : String → String → Bool) (query : Query)
    (left right : List Record) :
    matching equalFold query (left ++ right) =
      matching equalFold query left ++ matching equalFold query right := by
  simp only [matching, timely, List.filter_append, List.filterMap_append]

section Pages

variable (equalFold : String → String → Bool) (log : Log) (clusterID : String) (query : Query)

/-- The first page begins with the window. -/
theorem first_page (js : JetStream) (now : Int) (named : clusterID ≠ "") (window : 0 < query.since)
    (serves : Serves js query.batchSize
      (Query.delivered now clusterID { query with cursor := [] } log.records)) :
    run equalFold (some js) clusterID { query with cursor := [] } =
      .ok (resultOf query
        ((matching equalFold query (windowed now query log.records)).take query.bound)) := by
  have policy : Query.policy now { query with cursor := [] } =
      .byStartTime (now - query.since) := by
    simp [Query.policy, window]
  rw [Query.delivered, policy] at serves
  rw [run_page equalFold js clusterID { query with cursor := [] } _ named serves,
    matching_eq equalFold query clusterID]
  rfl

/-- A later page begins behind its cursor's record, wherever the window has moved to. -/
theorem later_page (js : JetStream) (now start : Int) (named : clusterID ≠ "")
    (before rest : List HistoryEvent) (last : HistoryEvent)
    (split : matching equalFold query (windowed start query log.records) = before ++ last :: rest)
    (serves : Serves js query.batchSize
      (Query.delivered now clusterID { query with cursor := utf8 last.id } log.records)) :
    run equalFold (some js) clusterID { query with cursor := utf8 last.id } =
      .ok (resultOf query (rest.take query.bound)) := by
  have whole := List.takeWhile_append_dropWhile (l := log.records)
    (p := fun record => decide (record.storedAt < start - query.since))
  have stands : StandsBefore (matching equalFold query log.records) (utf8 last.id) rest := by
    rw [← whole, matching_append]
    exact .inr ⟨_ ++ before, last, by rw [List.append_assoc, ← split]; rfl, rfl⟩
  have listed : last.id ≠ "" := by
    have inside : last ∈ matching equalFold query log.records := by
      rw [← whole, matching_append]
      apply List.mem_append_right
      change last ∈ matching equalFold query (windowed start query log.records)
      rw [split]
      simp
    rw [matching_eq equalFold query clusterID] at inside
    exact timely_named log clusterID query last (List.mem_filter.1 inside).1
  have policy : Query.policy now { query with cursor := utf8 last.id } = .all := by
    rw [Query.policy, if_pos]
    simpa [utf8_nil_iff] using listed
  rw [Query.delivered, policy] at serves
  rw [run_page equalFold js clusterID { query with cursor := utf8 last.id } _ named serves]
  simp only [DeliverPolicy.backlog]
  rw [remaining_stands equalFold log clusterID query (utf8 last.id) rest stands]
  rfl

end Pages

section Complete

variable (equalFold : String → String → Bool)
  (parseDuration parseTime : String → Except String Int) (durationString : Int → String)
  (clusterID category : String) (flags : EventsFlags) (query : Query)

/-- `rest` is what the operator has still to read: everything at first, and then what stands
behind the cursor. -/
def Unread (events : List HistoryEvent) (turn : Nat) (cursor : String)
    (rest : List HistoryEvent) : Prop :=
  (turn = 0 ∧ cursor = "" ∧ rest = events) ∨
    ∃ before last, events = before ++ last :: rest ∧ cursor = last.id

/-- The page that the operator gets of these events. -/
def pageFor (events : List HistoryEvent) : Page HistoryEvent String :=
  ⟨events,
    if events.length = query.bound then some ((textOf (lastID events)).getD "") else none⟩

theorem events_page (readBack : ReadBack parseDuration durationString)
    (window : flags.since < int64Bound) (limit : flags.limit < int64Bound)
    (meant : meantQuery parseTime category flags = .ok query) (js : JetStream) (cursor : String)
    (events : List HistoryEvent)
    (ran : run equalFold (some js) clusterID { query with cursor := utf8 cursor } =
      .ok (resultOf query events)) :
    eventsPage equalFold parseDuration parseTime durationString clusterID category flags js
      cursor = some (pageFor query events) := by
  have received := request_received parseDuration parseTime durationString readBack category
    { flags with cursor := cursor } window limit
  rw [meant_cursor parseTime category flags query cursor meant] at received
  simp only [eventsPage, handleHistoryQuery, received, ran, resultOf, pageFor, decide_eq_true_eq]

theorem page_full (rest : List HistoryEvent) (enough : query.bound ≤ rest.length) :
    ∃ before last, rest = before ++ last :: rest.drop query.bound ∧
      pageFor query (rest.take query.bound) = ⟨rest.take query.bound, some last.id⟩ := by
  rcases last_id_take rest query.bound (bound_positive query) enough with
    ⟨before, last, split, ended⟩
  refine ⟨before, last, split, ?_⟩
  rw [pageFor, if_pos (by rw [List.length_take]; omega), ended, text_of_utf8]
  rfl

theorem page_short (rest : List HistoryEvent) (few : rest.length < query.bound) :
    pageFor query (rest.take query.bound) = ⟨rest, none⟩ := by
  rw [List.take_of_length_le (by omega), pageFor, if_neg (by omega)]

/-- An operator who repeats the command with the cursor of the last answer, until an answer is
not truncated, reads every record of the window of the first command that the flags select,
each once and in stream order. -/
theorem reading_on_complete (readBack : ReadBack parseDuration durationString)
    (js : Nat → String → JetStream) (now : Nat → Int) (log : Log) (named : clusterID ≠ "")
    (window : flags.since < int64Bound) (limit : flags.limit < int64Bound)
    (meant : meantQuery parseTime category flags = .ok query)
    (serves : ∀ turn cursor, Serves (js turn cursor) query.batchSize
      (Query.delivered (now turn) clusterID { query with cursor := utf8 cursor } log.records))
    (fuel : Nat)
    (enough : (matching equalFold query (windowed (now 0) query log.records)).length < fuel) :
    readOn equalFold parseDuration parseTime durationString clusterID category flags js fuel =
      some (matching equalFold query (windowed (now 0) query log.records)) ∧
    ((matching equalFold query (windowed (now 0) query log.records)).map
      HistoryEvent.id).Nodup := by
  have answered := events_page equalFold parseDuration parseTime durationString clusterID category
    flags query readBack window limit meant
  have page : ∀ turn cursor rest,
      Unread (matching equalFold query (windowed (now 0) query log.records)) turn cursor rest →
      eventsPage equalFold parseDuration parseTime durationString clusterID category flags
        (js turn cursor) cursor = some (pageFor query (rest.take query.bound)) := by
    rintro turn cursor rest (⟨first, fresh, whole⟩ | ⟨before, last, split, marked⟩)
    · have served := serves turn cursor
      rw [first, fresh] at served ⊢
      rw [whole]
      exact answered _ "" _ (first_page equalFold log clusterID query (js 0 "") (now 0) named
        (meant_bounded parseTime category flags query meant).1 served)
    · have served := serves turn cursor
      rw [marked] at served ⊢
      exact answered _ last.id _ (later_page equalFold log clusterID query (js turn last.id)
        (now turn) (now 0) named before rest last split served)
  constructor
  · refine follow_turns _
      (Unread (matching equalFold query (windowed (now 0) query log.records))) query.bound
      (bound_positive query) ?_ ?_ fuel 0 "" _ (.inl ⟨rfl, rfl, rfl⟩) enough
    · intro turn cursor rest unread filled
      rcases page_full query rest filled with ⟨before, last, split, full⟩
      refine ⟨last.id, (page turn cursor rest unread).trans (congrArg some full), ?_⟩
      rcases unread with ⟨-, -, whole⟩ | ⟨front, mark, whole, -⟩
      · exact .inr ⟨before, last, by rw [← whole, ← split], rfl⟩
      · refine .inr ⟨front ++ mark :: before, last, ?_, rfl⟩
        rw [whole, List.append_assoc, List.cons_append, ← split]
    · intro turn cursor rest unread few
      exact (page turn cursor rest unread).trans (congrArg some (page_short query rest few))
  · have inside : (windowed (now 0) query log.records).Sublist log.records :=
      (List.dropWhile_suffix _).sublist
    have distinct := log.distinct
    rw [event_ids_map] at distinct
    have kept : (matching equalFold query (windowed (now 0) query log.records)).Sublist
        (log.records.filterMap Record.event) :=
      List.filter_sublist.trans (List.filter_sublist.trans
        ((List.filter_sublist.trans inside).filterMap _))
    exact distinct.sublist (kept.map _)

end Complete

/-- One record to an answer, from a window that leaves out the oldest one. -/
def pagedFlags : EventsFlags where
  since := 7
  untilText := ""
  types := []
  nodes := []
  limit := 1
  cursor := ""
  category := ""

def pagedQuery : Query := ⟨7, none, some .event, [], [], 1, []⟩

def pagedJetStream (cursor : String) : JetStream :=
  oneByOne (Query.delivered 9 "prod" { pagedQuery with cursor := utf8 cursor } sampleLog.records)

theorem paged_reading_complete :
    (readOn (fun left right => left = right) parseNanos parseNanos nanosText "prod" "event"
      pagedFlags (fun _ => pagedJetStream) 4).map (List.map HistoryEvent.id) =
      some ["01b", "01c"] := by
  have read := reading_on_complete (fun left right => left = right) parseNanos parseNanos
    nanosText "prod" "event" pagedFlags pagedQuery nanos_read_back
    (fun _ => pagedJetStream) (fun _ => 9) sampleLog (by decide) (by decide) (by decide) rfl
    (fun _ _ => one_by_one_serves _ _ (by decide)) 4 (by decide)
  rw [read.1]
  decide

end PgmanProxy.Pgmctl.HistoryPaging
