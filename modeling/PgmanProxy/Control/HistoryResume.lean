import PgmanProxy.Control.WatchHandlers

/-!
# Coming back with a cursor

A reader that was given a record comes back with its id. The stream has gone on and
may have dropped records from its head. The query and the watch both look for the id
among what their consumer delivers and return nothing up to that point, so a cursor
that is not there to be found leaves them with nothing at all. `remaining_resumed`
says so for both.
-/

namespace PgmanProxy.Control.HistoryResume

open PgmanProxy.Control.WatchFrames PgmanProxy.Control.WatchHandlers
open PgmanProxy.History.Queries PgmanProxy.History.Stream PgmanProxy.History.Watcher
open PgmanProxy.Library.GoBytes PgmanProxy.Library.Paging

set_option autoImplicit false

/-- A reader was given the record `mark` and comes back when `after` was published on top
of it; `evicted` records are gone from the head of the stream by then, and `later` is
published while a watch is open. -/
structure Resumption where
  before : List Record
  mark : Record
  given : HistoryEvent
  decoded : mark.event = some given
  after : List Record
  evicted : Nat
  later : List Record
  distinct : (eventIDs (before ++ mark :: (after ++ later))).Nodup
  named : given.id ≠ ""

namespace Resumption

/-- What the stream holds when the reader comes back. -/
def held (resumption : Resumption) : List Record :=
  (resumption.before ++ resumption.mark :: resumption.after).drop resumption.evicted

/-- What it holds of the records published after the cursor's. -/
def unread (resumption : Resumption) : List Record :=
  resumption.after.drop (resumption.evicted - (resumption.before.length + 1))

/-- The cursor's record is still there and the query's consumer and time bound let it
through. -/
def Shows (resumption : Resumption) (query : Query) : Prop :=
  resumption.evicted ≤ resumption.before.length ∧
    admits query.category resumption.mark.category = true ∧ query.late resumption.given = false

instance (resumption : Resumption) (query : Query) : Decidable (resumption.Shows query) :=
  inferInstanceAs (Decidable (_ ∧ _ ∧ _))

theorem held_marked (resumption : Resumption)
    (kept : resumption.evicted ≤ resumption.before.length) :
    resumption.held =
        resumption.before.drop resumption.evicted ++ resumption.mark :: resumption.unread ∧
      resumption.unread = resumption.after := by
  have whole : resumption.unread = resumption.after := by
    have zero : resumption.evicted - (resumption.before.length + 1) = 0 := by omega
    rw [unread, zero, List.drop_zero]
  rw [whole]
  exact ⟨List.drop_append_of_le_length kept, rfl⟩

theorem held_unmarked (resumption : Resumption)
    (gone : ¬ resumption.evicted ≤ resumption.before.length) :
    resumption.held = resumption.unread := by
  obtain ⟨extra, count⟩ : ∃ extra, resumption.evicted = resumption.before.length + 1 + extra :=
    ⟨resumption.evicted - (resumption.before.length + 1), by omega⟩
  have rest : resumption.evicted - (resumption.before.length + 1) = extra := by omega
  rw [held, unread, rest, count, ← List.drop_drop, ← List.drop_drop, List.drop_left]
  rfl

end Resumption

theorem event_ids_append (left right : List Record) :
    eventIDs (left ++ right) = eventIDs left ++ eventIDs right :=
  List.filterMap_append

/-- No decodable record has the id. -/
def Lacks (cursor : List UInt8) (records : List Record) : Prop :=
  ∀ id ∈ eventIDs records, utf8 id ≠ cursor

theorem lacks_sublist (cursor : List UInt8) (left right : List Record)
    (inside : left.Sublist right) (lacks : Lacks cursor right) : Lacks cursor left :=
  fun id present => lacks id ((inside.filterMap _).subset present)

theorem timely_append (query : Query) (left right : List Record) :
    timely query (left ++ right) = timely query left ++ timely query right := by
  simp [timely]

/-- Records without the cursor's id have no event that could be taken for the mark. -/
theorem timely_unmarked (query : Query) (keep : Record → Bool) (records : List Record)
    (lacks : Lacks query.cursor records) :
    ∀ event ∈ timely query (records.filter keep),
      decide (utf8 event.id = query.cursor) = false := by
  intro event member
  have present := (timely_sublist query _).subset member
  have inside : (records.filter keep).Sublist records := List.filter_sublist
  have id : event.id ∈ eventIDs records := by
    rw [event_ids_map]
    exact List.mem_map_of_mem ((inside.filterMap _).subset present)
  rw [decide_eq_false_iff_not]
  exact lacks event.id id

section Reading

variable (equalFold : String → String → Bool) (clusterID : String) (query : Query)
variable (resumption : Resumption)

/-- What is read behind a cursor that the records do not have: nothing. -/
theorem remaining_absent (records : List Record) (absent : Lacks query.cursor records) :
    remaining equalFold query false (records.filter (seen clusterID query.category)) = [] := by
  have unmarked := timely_unmarked query (seen clusterID query.category) records absent
  simp only [remaining, Bool.false_eq_true, if_false]
  rw [past_absent _ _ unmarked, List.filter_nil]

/-- What is read behind a cursor whose record stands in the stream: what follows it, if
the consumer and the time bound let the record itself through, and nothing otherwise. -/
theorem remaining_marked (before rest : List Record)
    (same : query.cursor = utf8 resumption.given.id)
    (ahead : Lacks query.cursor before) (behind : Lacks query.cursor rest) :
    remaining equalFold query false
        ((before ++ resumption.mark :: rest).filter (seen clusterID query.category)) =
      if admits query.category resumption.mark.category = true ∧
          query.late resumption.given = false then matching equalFold query rest else [] := by
  have earlier := timely_unmarked query (seen clusterID query.category) before ahead
  have afterwards := timely_unmarked query (seen clusterID query.category) rest behind
  have marked : decide (utf8 resumption.given.id = query.cursor) = true := by simp [same]
  have visible := seen_iff_admits clusterID query.category resumption.mark
  simp only [remaining, Bool.false_eq_true, if_false]
  rw [List.filter_append, timely_append]
  split
  · rename_i shown
    have own : timely query ((resumption.mark :: rest).filter (seen clusterID query.category)) =
        resumption.given :: timely query (rest.filter (seen clusterID query.category)) := by
      rw [List.filter_cons_of_pos (by rw [visible]; exact shown.1)]
      simp [timely, resumption.decoded, shown.2]
    rw [own, past_mark _ _ _ _ earlier marked, matching_eq equalFold query clusterID]
  · rename_i hidden
    have own : timely query ((resumption.mark :: rest).filter (seen clusterID query.category)) =
        timely query (rest.filter (seen clusterID query.category)) := by
      by_cases admitted : admits query.category resumption.mark.category = true
      · have late : query.late resumption.given = true := by
          rw [← Bool.not_eq_false]
          exact fun inTime => hidden ⟨admitted, inTime⟩
        rw [List.filter_cons_of_pos (by rw [visible]; exact admitted)]
        simp [timely, resumption.decoded, late]
      · rw [List.filter_cons_of_neg (by rw [visible]; exact admitted)]
    rw [own, past_absent, List.filter_nil]
    intro event member
    rcases List.mem_append.1 member with front | back
    · exact earlier event front
    · exact afterwards event back

/-- The query or watch reads on behind the cursor when the cursor's record shows, and
reads nothing otherwise. -/
theorem remaining_resumed (published : List Record)
    (inside : published.Sublist resumption.later)
    (same : query.cursor = utf8 resumption.given.id) :
    remaining equalFold query false
        ((resumption.held ++ published).filter (seen clusterID query.category)) =
      if resumption.Shows query then
        matching equalFold query (resumption.unread ++ published) else [] := by
  have ids := resumption.distinct
  rw [event_ids_append, List.nodup_append] at ids
  obtain ⟨_, tail, apart⟩ := ids
  have head : eventIDs (resumption.mark :: (resumption.after ++ resumption.later)) =
      resumption.given.id :: eventIDs (resumption.after ++ resumption.later) := by
    simp [eventIDs, resumption.decoded]
  rw [head] at tail apart
  have ahead : Lacks query.cursor resumption.before := by
    intro id present equal
    rw [same] at equal
    exact apart _ present _ List.mem_cons_self (utf8_injective _ _ equal)
  have behind : Lacks query.cursor (resumption.after ++ resumption.later) := by
    intro id present equal
    rw [same] at equal
    rw [utf8_injective _ _ equal] at present
    exact (List.nodup_cons.1 tail).1 present
  have restInside : (resumption.unread ++ published).Sublist
      (resumption.after ++ resumption.later) :=
    (List.drop_sublist _ _).append inside
  have rest := lacks_sublist _ _ _ restInside behind
  by_cases kept : resumption.evicted ≤ resumption.before.length
  · have front := lacks_sublist _ _ _ (List.drop_sublist resumption.evicted _) ahead
    rw [(resumption.held_marked kept).1, List.append_assoc, List.cons_append,
      remaining_marked _ _ _ _ _ _ same front rest]
    simp only [Resumption.Shows, kept, true_and]
  · rw [resumption.held_unmarked kept, remaining_absent _ _ _ _ rest, if_neg]
    exact fun shows => kept shows.1

end Reading

/-! ## What the caller gets -/

section Answers

variable (equalFold : String → String → Bool) (formatTime : Int → String)

/-- A query resumed at the cursor: an error, or the first page of the matching records that
are held and were published after it, marked as truncated when it is full. -/
def QueryResumes (query : Query) (resumption : Resumption) (answer : Except String Result) :
    Prop :=
  (∃ why, answer = .error why) ∨
    ∃ page, answer = .ok page ∧
      page.events = (matching equalFold query resumption.unread).take query.bound ∧
      page.truncated = decide (query.bound ≤ (matching equalFold query resumption.unread).length)

/-- The subscription reports that it cannot go on. -/
def fails (subscription : Subscription) : Bool :=
  subscription.streamError.isSome || subscription.consumerError.isSome ||
    subscription.messagesError.isSome ||
    match subscription.iteration with
    | .waiting => false
    | _ => true

/-- A watch resumed at the cursor: an error or gap marker, or a frame for each matching
record that was held or came later. -/
def WatchResumes (frameName : String) (opts : WatchOptions) (resumption : Resumption)
    (writes : List Write) : Prop :=
  (∃ write ∈ writes, isMarker write = true) ∨
    writes.filter isEventFrame =
      (matching equalFold opts.asQuery (resumption.unread ++ resumption.later)).map
        (eventFrame formatTime frameName)

theorem query_resumes_iff (js : JetStream) (clusterID : String) (now : Int) (query : Query)
    (resumption : Resumption) (cluster : clusterID ≠ "")
    (same : query.cursor = utf8 resumption.given.id)
    (serves : Serves js query.batchSize (query.delivered now clusterID resumption.held)) :
    QueryResumes equalFold query resumption (run equalFold (some js) clusterID query) ↔
      resumption.Shows query ∨ matching equalFold query resumption.unread = [] := by
  have cursor : query.cursor ≠ [] := by
    rw [same, Ne, utf8_nil_iff]
    exact resumption.named
  have policy : query.policy now = .all := by simp [Query.policy, cursor]
  have start : decide (query.cursor = []) = false := by simp [cursor]
  have read := remaining_resumed equalFold clusterID query resumption []
    (List.nil_sublist _) same
  rw [List.append_nil, List.append_nil] at read
  have answer := run_page equalFold js clusterID query _ cluster serves
  rw [Query.delivered, policy, start] at answer
  simp only [DeliverPolicy.backlog] at answer
  rw [read] at answer
  rw [answer]
  have positive := bound_positive query
  by_cases shows : resumption.Shows query
  · rw [if_pos shows]
    simp only [shows, true_or, iff_true]
    refine Or.inr ⟨_, rfl, rfl, ?_⟩
    simp only [resultOf, List.length_take]
    rw [decide_eq_decide]
    omega
  · rw [if_neg shows, List.take_nil]
    simp only [shows, false_or]
    constructor
    · rintro (⟨why, failed⟩ | ⟨page, returned, events, _⟩)
      · cases failed
      · cases returned
        rcases List.take_eq_nil_iff.1 events.symm with zero | nothing
        · omega
        · exact nothing
    · intro nothing
      rw [QueryResumes, nothing, List.take_nil]
      refine Or.inr ⟨_, rfl, rfl, ?_⟩
      simp only [resultOf, List.length_nil]
      rw [decide_eq_decide]
      omega

theorem run_failing (opts : WatchOptions) (subscription : Subscription)
    (failing : fails subscription = true) : (run equalFold opts subscription).closed = true := by
  rcases subscription with ⟨_ | stream, _ | consumer, _ | iterator, messages, _ | _ | why⟩ <;>
    first | rfl | cases failing

theorem run_waiting (opts : WatchOptions) (subscription : Subscription)
    (working : fails subscription = false) :
    run equalFold opts subscription =
      ⟨forward equalFold opts (opts.cursor = []) subscription.messages, none, false⟩ := by
  rcases subscription with ⟨_ | stream, _ | consumer, _ | iterator, messages, _ | _ | why⟩ <;>
    first | rfl | cases working

theorem watch_resumes_iff (clusterID : String) (now : Int) (opts : WatchOptions)
    (subscription : Subscription) (selected : List Selected) (topic : WatchTopic)
    (frameName : String) (resumption : Resumption) (cluster : clusterID ≠ "")
    (same : opts.cursor = utf8 resumption.given.id)
    (given : subscription.messages =
      opts.delivered now clusterID resumption.held resumption.later)
    (settled : Settled (watch equalFold true clusterID opts subscription) selected) :
    WatchResumes equalFold formatTime frameName opts resumption
        (streamLoop formatTime topic frameName selected) ↔
      fails subscription = true ∨ resumption.Shows opts.asQuery ∨
        matching equalFold opts.asQuery (resumption.unread ++ resumption.later) = [] := by
  have channels : watch equalFold true clusterID opts subscription =
      run equalFold opts subscription := by simp [watch, cluster]
  rw [channels] at settled
  unfold WatchResumes
  rw [stream_marker_iff]
  cases working : fails subscription with
  | true =>
      have ended := settled.ended (run_failing equalFold opts subscription working)
      exact ⟨fun _ => Or.inl rfl, fun _ => Or.inl ended⟩
  | false =>
      have cursor : opts.cursor ≠ [] := by
        rw [same, Ne, utf8_nil_iff]
        exact resumption.named
      have policy : opts.policy now = .all := by simp [WatchOptions.policy, cursor]
      have start : decide (opts.cursor = []) = false := by simp [cursor]
      have read := remaining_resumed equalFold clusterID opts.asQuery resumption
        resumption.later (List.Sublist.refl _) same
      have events : forward equalFold opts (opts.cursor = []) subscription.messages =
          if resumption.Shows opts.asQuery then
            matching equalFold opts.asQuery (resumption.unread ++ resumption.later) else [] := by
        rw [given, WatchOptions.delivered, policy, start, forward_remaining]
        exact read
      rw [run_waiting equalFold opts subscription working, events] at settled
      have endless := settled_endless _ selected settled rfl rfl
      have unmarked : ¬ ∃ turn ∈ selected, turn.ends = true := by
        rintro ⟨turn, member, ends⟩
        rw [endless turn member] at ends
        cases ends
      rw [stream_event_frames formatTime topic frameName selected endless, settled.drained rfl]
      simp only [unmarked, false_or, Bool.false_eq_true]
      by_cases shows : resumption.Shows opts.asQuery
      · rw [if_pos shows]
        simp only [shows, true_or]
      · rw [if_neg shows, List.map_nil]
        simp only [shows, false_or]
        rw [eq_comm, List.map_eq_nil_iff]

end Answers

/-- Nothing is lost without a word exactly when the cursor's record is still there for the
consumer to find, or there is nothing to read behind it, or the watch's subscription
fails. -/
theorem resume_loses_nothing_iff (equalFold : String → String → Bool) (formatTime : Int → String)
    (resumption : Resumption) (clusterID : String) (now : Int) (cluster : clusterID ≠ "")
    (js : JetStream) (query : Query) (queried : query.cursor = utf8 resumption.given.id)
    (serves : Serves js query.batchSize (query.delivered now clusterID resumption.held))
    (opts : WatchOptions) (watched : opts.cursor = utf8 resumption.given.id)
    (subscription : Subscription)
    (given : subscription.messages =
      opts.delivered now clusterID resumption.held resumption.later)
    (selected : List Selected)
    (settled : Settled (watch equalFold true clusterID opts subscription) selected)
    (topic : WatchTopic) (frameName : String) :
    (QueryResumes equalFold query resumption (run equalFold (some js) clusterID query) ∧
        WatchResumes equalFold formatTime frameName opts resumption
          (streamLoop formatTime topic frameName selected)) ↔
      (resumption.Shows query ∨ matching equalFold query resumption.unread = []) ∧
        (fails subscription = true ∨ resumption.Shows opts.asQuery ∨
          matching equalFold opts.asQuery (resumption.unread ++ resumption.later) = []) :=
  and_congr (query_resumes_iff equalFold js clusterID now query resumption cluster queried serves)
    (watch_resumes_iff equalFold formatTime clusterID now opts subscription selected topic
      frameName resumption cluster watched given settled)

/-- The reader was given `01a`; `01b` came since, and `evicted` records are gone. -/
def returning (evicted : Nat) : Resumption where
  before := []
  mark := sampleRecord "01a" "state_transition" "node-a" 1
  given := sampleEvent "01a" "state_transition" "node-a" 1
  decoded := rfl
  after := [sampleRecord "01b" "state_transition" "node-b" 3]
  evicted := evicted
  later := []
  distinct := by decide
  named := by decide

def returningQuery : Query := ⟨0, none, some .event, [], [], 10, utf8 "01a"⟩

def returningJetStream (evicted : Nat) : JetStream where
  streamError := none
  consumerError := none
  fetches := [.messages (returning evicted).held]

def returningSubscription (evicted : Nat) : Subscription where
  streamError := none
  consumerError := none
  messagesError := none
  messages := (returning evicted).held
  iteration := .waiting

theorem returning_visible (evicted : Nat) :
    (returning evicted).held.filter (seen "prod" (some .event)) = (returning evicted).held := by
  have category : ∀ record ∈ (returning 0).held, admits (some .event) record.category = true := by
    decide
  apply List.filter_eq_self.2
  intro record member
  rw [seen_iff_admits]
  exact category record (List.mem_of_mem_drop member)

theorem returning_served (evicted : Nat) (few : evicted < 2) :
    Serves (returningJetStream evicted) returningQuery.batchSize
      (returningQuery.delivered 9 "prod" (returning evicted).held) := by
  have sizes : ∀ count < 2, (returning count).held ≠ [] ∧ (returning count).held.length ≤ 10 := by
    decide
  refine ⟨rfl, rfl, [(returning evicted).held], rfl, ?_, ?_⟩
  · intro batch member
    rw [List.mem_singleton.1 member]
    exact sizes evicted few
  · rw [List.flatten_singleton]
    exact (returning_visible evicted).symm

theorem returning_delivered (evicted : Nat) :
    (returningSubscription evicted).messages =
      (statusOptions (utf8 "01a")).delivered 9 "prod" (returning evicted).held
        (returning evicted).later := by
  have all := returning_visible evicted
  rw [← List.append_nil (returning evicted).held] at all
  exact (all.trans (List.append_nil _)).symm

/-- The record of the cursor is still there: both read on. -/
theorem resume_loses_nothing_found :
    QueryResumes (fun left right => left = right) returningQuery (returning 0)
        (run (fun left right => left = right) (some (returningJetStream 0)) "prod" returningQuery) ∧
      WatchResumes (fun left right => left = right) (fun _ => "") "cluster_event"
        (statusOptions (utf8 "01a")) (returning 0) (streamLoop (fun _ => "") .events "cluster_event"
          [.keepalive, .event (sampleEvent "01b" "state_transition" "node-b" 3)]) := by
  refine (resume_loses_nothing_iff (fun left right => left = right) (fun _ => "") (returning 0)
    "prod" 9 (by decide) (returningJetStream 0) returningQuery rfl (returning_served 0 (by decide))
    (statusOptions (utf8 "01a")) rfl (returningSubscription 0) (returning_delivered 0)
    [.keepalive, .event (sampleEvent "01b" "state_transition" "node-b" 3)] ?_ .events
    "cluster_event").2 ⟨Or.inl (by decide), Or.inr (Or.inl (by decide))⟩
  exact settled_of_taken _ _ (by simp [Selected.ends]) rfl rfl

/-- The record of the cursor was evicted: the query answers with an empty last page, the
watch waits for ever, and `01b` is never seen. -/
theorem evicted_cursor_loses_records :
    ¬ QueryResumes (fun left right => left = right) returningQuery (returning 1)
        (run (fun left right => left = right) (some (returningJetStream 1)) "prod" returningQuery) ∧
      Settled (watch (fun left right => left = right) true "prod" (statusOptions (utf8 "01a"))
        (returningSubscription 1)) [.keepalive] ∧
      ¬ WatchResumes (fun left right => left = right) (fun _ => "") "cluster_event"
        (statusOptions (utf8 "01a")) (returning 1)
        (streamLoop (fun _ => "") .events "cluster_event" [.keepalive]) := by
  have settled : Settled (watch (fun left right => left = right) true "prod"
      (statusOptions (utf8 "01a")) (returningSubscription 1)) [.keepalive] :=
    settled_of_taken _ _ (by simp [Selected.ends]) rfl rfl
  refine ⟨?_, settled, ?_⟩
  · rw [query_resumes_iff _ _ _ 9 _ _ (by decide) rfl (returning_served 1 (by decide))]
    decide
  · rw [watch_resumes_iff _ _ "prod" 9 _ (returningSubscription 1) _ _ _ _ (by decide) rfl
      (returning_delivered 1) settled]
    decide

end PgmanProxy.Control.HistoryResume
