import PgmanProxy.Control.WatchHandlers
import PgmanProxy.Library.Runs
import PgmanProxy.Pgmctl.Sse

/-!
# The status watch across reconnects

The server numbers the frames of a status watch: the snapshot with the request's id,
every later frame with the id of the event behind it. The client sends the last
number it saw when it connects again, and the server looks for that number in the
history. Whether a connection follows the status is therefore settled by the number
it is opened with: it must be empty or stand in the history ahead of the first
change.
-/

namespace PgmanProxy.Pgmctl.StatusTail

open PgmanProxy.Control.WatchFrames PgmanProxy.Control.WatchHandlers
open PgmanProxy.History.Queries PgmanProxy.History.Stream PgmanProxy.History.Watcher
open PgmanProxy.Library.GoBytes PgmanProxy.Library.GoJson PgmanProxy.Library.Paging
open PgmanProxy.Library.Runs PgmanProxy.Pgmctl.Sse

set_option autoImplicit false

/-- One connection: what the history holds when the watch subscribes and what is published
until the connection ends, the turns of the handler's loop, and how much of what the
handler writes reaches the client. -/
structure Connection (Snapshot : Type) where
  reqID : String
  first : Except String Snapshot
  held : List Record
  later : List Record
  distinct : (eventIDs (held ++ later)).Nodup
  turns : List (Selected × Except String Snapshot)
  received : Nat
  ending : Ending

/-- The decodable records of the event category. -/
def eventsOf (records : List Record) : List HistoryEvent :=
  (records.filter (fun record => admits (some .event) record.category)).filterMap Record.event

/-- The status-changing events among them. -/
def changes (records : List Record) : List HistoryEvent :=
  (eventsOf records).filter (fun event => isStatusChangeEvent event.type)

def quietly (event : HistoryEvent) : Bool := !isStatusChangeEvent event.type

def statusSubscription (clusterID : String) (now : Int) (lastID : List UInt8)
    (held later : List Record) : Subscription where
  streamError := none
  consumerError := none
  messagesError := none
  messages := (statusOptions lastID).delivered now clusterID held later
  iteration := .waiting

section Tailing

variable {Snapshot : Type} (payload : Snapshot → List (String × Json))
variable (equalFold : String → String → Bool) (clusterID : String) (now : Int)

/-- The client's side of one connection. -/
def follow (tail : Tail) (connection : Connection Snapshot) : Tail :=
  connect tail connection.ending
    (((handleWatchStatus payload connection.reqID connection.first connection.turns).flatMap
      Write.bytes).take connection.received)

/-- The connection is subscribed with the number the client sent and stays open: the loop
has handled what the subscription delivered, and its status fetches succeed. -/
def Serving (tail : Tail) (connection : Connection Snapshot) : Prop :=
  Settled (watch equalFold true clusterID (statusOptions tail.lastID)
      (statusSubscription clusterID now tail.lastID connection.held connection.later))
    (connection.turns.map Prod.fst) ∧
  ∀ turn ∈ connection.turns, ∃ snapshot, turn.2 = .ok snapshot

def Subscribes (connection : Connection Snapshot) : Prop :=
  ∃ snapshot, connection.first = .ok snapshot

/-- Every status-changing event published while the connection is subscribed has its
`status_update` frame on the connection, behind the snapshot. -/
def Follows (connection : Connection Snapshot) : Prop :=
  ∀ event ∈ changes connection.later, ∃ body,
    Write.frame (utf8 "status_update") (utf8 event.id) body ∈
      statusLoop payload connection.turns

/-- The number the client sends is empty, or that of a record which stands in the history
ahead of the first status-changing event of this connection, if there is one. -/
def Known (lastID : List UInt8) (connection : Connection Snapshot) : Prop :=
  lastID = [] ∨
    (∃ event ∈ eventsOf connection.held ++ (eventsOf connection.later).takeWhile quietly,
      utf8 event.id = lastID) ∨
    changes connection.later = []

/-! ## What the subscription delivers -/

theorem events_of_append (left right : List Record) :
    eventsOf (left ++ right) = eventsOf left ++ eventsOf right := by
  simp [eventsOf]

theorem events_of_seen (records : List Record) :
    (records.filter (seen clusterID (some .event))).filterMap Record.event = eventsOf records := by
  have same : seen clusterID (some .event) =
      fun record => admits (some .event) record.category := by
    funext record
    exact seen_iff_admits clusterID (some .event) record
  rw [same, eventsOf]

/-- The status watch has no filter besides its category. -/
theorem remaining_status (lastID : List UInt8) (cursorSeen : Bool) (records : List Record) :
    remaining equalFold (statusOptions lastID).asQuery cursorSeen records =
      if cursorSeen then records.filterMap Record.event
      else past (fun event => utf8 event.id = lastID) (records.filterMap Record.event) := by
  have all : selects equalFold (statusOptions lastID).asQuery = fun _ => true := by
    funext event
    rfl
  have inTime : timely (statusOptions lastID).asQuery records =
      records.filterMap Record.event := by
    simp [timely, Query.late, statusOptions, WatchOptions.asQuery]
  rw [remaining, all, inTime, List.filter_true]
  rfl

/-- Without a number only what is new, with one what stands behind it. -/
theorem status_channels (lastID : List UInt8) (held later : List Record)
    (cluster : clusterID ≠ "") :
    watch equalFold true clusterID (statusOptions lastID)
        (statusSubscription clusterID now lastID held later) =
      ⟨if lastID = [] then eventsOf later
        else past (fun event => utf8 event.id = lastID) (eventsOf held ++ eventsOf later),
        none, false⟩ := by
  rw [statusSubscription, watch_waiting equalFold clusterID cluster, remaining_status]
  by_cases fresh : lastID = []
  · have policy : (statusOptions lastID).policy now = .new := by
      simp [WatchOptions.policy, statusOptions, fresh]
    have start : decide ((statusOptions lastID).cursor = []) = true := by
      simp [statusOptions, fresh]
    rw [WatchOptions.delivered, policy, start]
    simp only [DeliverPolicy.backlog, List.nil_append, if_true, fresh]
    rw [← events_of_seen clusterID later]
    rfl
  · have policy : (statusOptions lastID).policy now = .all := by
      simp [WatchOptions.policy, statusOptions, fresh]
    have start : decide ((statusOptions lastID).cursor = []) = false := by
      simp [statusOptions, fresh]
    rw [WatchOptions.delivered, policy, start]
    simp only [DeliverPolicy.backlog, Bool.false_eq_true, if_false, fresh]
    rw [← events_of_append, ← events_of_seen clusterID (held ++ later)]
    rfl

/-! ## What the loop writes -/

/-- On a connection that stays open, the events with a frame are the status-changing ones
that the loop takes. -/
theorem status_frame_iff (id : List UInt8) (turns : List (Selected × Except String Snapshot))
    (endless : ∀ turn ∈ turns.map Prod.fst, turn.ends = false)
    (fetched : ∀ turn ∈ turns, ∃ snapshot, turn.2 = .ok snapshot) :
    (∃ body, Write.frame (utf8 "status_update") id body ∈ statusLoop payload turns) ↔
      ∃ event ∈ takenEvents (turns.map Prod.fst),
        isStatusChangeEvent event.type = true ∧ utf8 event.id = id := by
  induction turns with
  | nil => simp [statusLoop, takenEvents]
  | cons turn turns ih =>
      rw [List.map_cons, List.forall_mem_cons] at endless
      rw [List.forall_mem_cons] at fetched
      obtain ⟨goes, laterEndless⟩ := endless
      obtain ⟨⟨snapshot, read⟩, laterFetched⟩ := fetched
      have rest := ih laterEndless laterFetched
      obtain ⟨selected, fetch⟩ := turn
      simp only at read goes
      cases selected with
      | event event =>
          have taken : takenEvents (((Selected.event event, fetch) :: turns).map Prod.fst) =
              event :: takenEvents (turns.map Prod.fst) := rfl
          rw [taken, read, statusLoop]
          by_cases change : isStatusChangeEvent event.type = true
          · simp only [change, if_true, statusFrame, List.mem_cons, Write.frame.injEq, true_and,
              exists_eq_or_imp, exists_or, rest]
            constructor
            · rintro (⟨body, same, _⟩ | inside)
              · exact Or.inl same.symm
              · exact Or.inr inside
            · rintro (same | inside)
              · exact Or.inl ⟨payload snapshot, same.symm, rfl⟩
              · exact Or.inr inside
          · simp only [change, List.mem_cons, exists_eq_or_imp, Bool.false_eq_true, if_false,
              false_and, false_or]
            exact rest
      | keepalive =>
          have taken : takenEvents (((Selected.keepalive, fetch) :: turns).map Prod.fst) =
              takenEvents (turns.map Prod.fst) := rfl
          rw [statusLoop, taken, ← rest]
          simp
      | errs why => cases goes
      | eventsClosed => cases goes

/-! ## Which connections follow the status -/

theorem events_of_distinct (records : List Record) (distinct : (eventIDs records).Nodup) :
    ((eventsOf records).map HistoryEvent.id).Nodup := by
  rw [event_ids_map] at distinct
  have inside : (eventsOf records).Sublist (records.filterMap Record.event) :=
    List.Sublist.filterMap _ List.filter_sublist
  exact distinct.sublist (inside.map _)

theorem changes_from_first (records : List Record) (event : HistoryEvent)
    (member : event ∈ changes records) : event ∈ (eventsOf records).dropWhile quietly := by
  obtain ⟨present, change⟩ := List.mem_filter.1 member
  rw [← List.takeWhile_append_dropWhile (p := quietly) (l := eventsOf records)] at present
  rcases List.mem_append.1 present with front | rest
  · have quiet := List.mem_takeWhile_imp front
    rw [quietly, change] at quiet
    cases quiet
  · exact rest

/-- What is left behind the quiet events in front starts with the first change. -/
theorem first_change (records : List Record) :
    changes records = [] ∨ ∃ first rest, (eventsOf records).dropWhile quietly = first :: rest ∧
      first ∈ changes records := by
  cases left : (eventsOf records).dropWhile quietly with
  | nil =>
      refine Or.inl (List.eq_nil_iff_forall_not_mem.2 ?_)
      intro event member
      have inside := changes_from_first _ event member
      rw [left] at inside
      cases inside
  | cons first rest =>
      have filled : (eventsOf records).dropWhile quietly ≠ [] := by
        rw [left]
        exact List.cons_ne_nil _ _
      have change : quietly first = false := by
        simpa [left] using List.head_dropWhile_not quietly filled
      refine Or.inr ⟨first, rest, rfl, List.mem_filter.2 ⟨?_, by simpa [quietly] using change⟩⟩
      apply List.dropWhile_subset quietly
      rw [left]
      exact List.mem_cons_self

/-- The first change itself is lost to a reader that is still looking for its mark when
the change arrives. -/
theorem first_change_lost (lastID : List UInt8) (first : HistoryEvent) (rest : List HistoryEvent)
    (distinct : ((first :: rest).map HistoryEvent.id).Nodup) (taken : HistoryEvent)
    (member : taken ∈ past (fun event => utf8 event.id = lastID) (first :: rest)) :
    utf8 taken.id ≠ utf8 first.id := by
  have inside : taken ∈ rest := by
    rw [past] at member
    split at member
    · exact member
    · exact (past_sublist _ rest).subset member
  intro same
  rw [List.map_cons, List.nodup_cons] at distinct
  apply distinct.1
  rw [← utf8_injective _ _ same]
  exact List.mem_map_of_mem inside

theorem delivered_changes_iff (lastID : List UInt8) (connection : Connection Snapshot) :
    (∀ event ∈ changes connection.later, ∃ taken ∈ (if lastID = [] then eventsOf connection.later
        else past (fun event => utf8 event.id = lastID)
          (eventsOf connection.held ++ eventsOf connection.later)),
        isStatusChangeEvent taken.type = true ∧ utf8 taken.id = utf8 event.id) ↔
      Known lastID connection := by
  by_cases fresh : lastID = []
  · -- without a number everything published later is delivered
    rw [if_pos fresh]
    refine ⟨fun _ => Or.inl fresh, fun _ event member => ?_⟩
    obtain ⟨present, change⟩ := List.mem_filter.1 member
    exact ⟨event, present, change, rfl⟩
  · have split : eventsOf connection.held ++ eventsOf connection.later =
        (eventsOf connection.held ++ (eventsOf connection.later).takeWhile quietly) ++
          (eventsOf connection.later).dropWhile quietly := by
      rw [List.append_assoc, List.takeWhile_append_dropWhile]
    rw [if_neg fresh, split]
    by_cases found : ∃ event ∈ eventsOf connection.held ++
        (eventsOf connection.later).takeWhile quietly, utf8 event.id = lastID
    · refine ⟨fun _ => Or.inr (Or.inl found), fun _ event member => ?_⟩
      obtain ⟨mark, ahead, same⟩ := found
      refine ⟨event, ?_, (List.mem_filter.1 member).2, rfl⟩
      rw [past_found _ _ _ ⟨mark, ahead, by simp [same]⟩]
      exact List.mem_append_right _ (changes_from_first _ event member)
    · have unmarked : ∀ event ∈ eventsOf connection.held ++
          (eventsOf connection.later).takeWhile quietly,
          decide (utf8 event.id = lastID) = false := by
        intro event member
        rw [decide_eq_false_iff_not]
        exact fun same => found ⟨event, member, same⟩
      have condition : Known lastID connection ↔ changes connection.later = [] := by
        simp only [Known, fresh, false_or]
        exact or_iff_right found
      rw [condition, past_unmarked _ _ _ unmarked]
      constructor
      · intro all
        rcases first_change connection.later with none | ⟨first, rest, left, member⟩
        · exact none
        · exfalso
          have ids := events_of_distinct _ connection.distinct
          rw [events_of_append, split, left] at ids
          have tail : ((first :: rest).map HistoryEvent.id).Nodup :=
            ids.sublist ((List.sublist_append_right _ _).map _)
          obtain ⟨taken, present, _, same⟩ := all first member
          rw [left] at present
          exact first_change_lost lastID first rest tail taken present same
      · intro none event member
        rw [none] at member
        cases member

theorem follows_iff_known (tail : Tail) (connection : Connection Snapshot)
    (cluster : clusterID ≠ "") (serving : Serving equalFold clusterID now tail connection) :
    Follows payload connection ↔ Known tail.lastID connection := by
  obtain ⟨settled, fetched⟩ := serving
  rw [status_channels equalFold clusterID now _ _ _ cluster] at settled
  have endless := settled_endless _ _ settled rfl rfl
  rw [← delivered_changes_iff]
  apply forall₂_congr
  intro event _
  rw [status_frame_iff payload _ _ endless fetched, settled.drained rfl]

end Tailing

/-- After the first connection, every later one follows the status exactly when each is
opened with a number that stands in the history ahead of the changes it is to report. -/
theorem status_watch_follows_iff {Snapshot : Type} (payload : Snapshot → List (String × Json))
    (equalFold : String → String → Bool) (clusterID : String) (now : Int)
    (cluster : clusterID ≠ "") (seed : Tail) (first : Connection Snapshot)
    (connections : List (Connection Snapshot))
    (serving : StepsMeet (follow payload)
      (fun tail connection => Subscribes connection →
        Serving equalFold clusterID now tail connection) (follow payload seed first) connections) :
    StepsMeet (follow payload)
        (fun _ connection => Subscribes connection → Follows payload connection)
        (follow payload seed first) connections ↔
      StepsMeet (follow payload)
        (fun tail connection => Subscribes connection → Known tail.lastID connection)
        (follow payload seed first) connections := by
  apply steps_meet_congr_allowed (follow payload) _ _ _ _ _ _ serving
  intro tail connection legal
  apply imp_congr_right
  intro subscribes
  exact follows_iff_known payload equalFold clusterID now tail connection cluster
    (legal subscribes)

def sampleConnection (held later : List Record) (distinct : (eventIDs (held ++ later)).Nodup)
    (turns : List (Selected × Except String Unit)) (received : Nat) : Connection Unit where
  reqID := "req-1"
  first := .ok ()
  held := held
  later := later
  distinct := distinct
  turns := turns
  received := received
  ending := .eof

def sampleChange : Record := sampleRecord "01a" "state_transition" "node-a" 1

/-- The connection on which `sampleChange` is published, with the turns of the loop. -/
def changeConnection (turns : List (Selected × Except String Unit)) : Connection Unit :=
  sampleConnection [] [sampleChange] (by decide) turns 0

/-- Nothing of the first connection arrived, so the second is opened without a number. -/
theorem status_watch_follows_unnumbered :
    StepsMeet (follow (fun _ : Unit => []))
      (fun _ connection => Subscribes connection → Follows (fun _ => []) connection)
      (follow (fun _ => []) ⟨[], []⟩ (sampleConnection [] [] (by decide) [] 0))
      [changeConnection [(.event (sampleEvent "01a" "state_transition" "node-a" 1), .ok ())]] := by
  refine (status_watch_follows_iff (fun _ : Unit => []) (fun left right => left = right) "prod" 9
    (by decide) ⟨[], []⟩ (sampleConnection [] [] (by decide) [] 0)
    [changeConnection [(.event (sampleEvent "01a" "state_transition" "node-a" 1), .ok ())]]
    ⟨fun _ => ⟨?_, ?_⟩, trivial⟩).2 ⟨fun _ => Or.inl (by decide), trivial⟩
  · rw [status_channels _ _ _ _ _ _ (by decide)]
    exact settled_of_taken _ _ (by simp [changeConnection, sampleConnection, Selected.ends]) rfl rfl
  · simp [changeConnection, sampleConnection]

/-- The snapshot of the first connection arrived and its number is the request's. The
second connection looks for it in the history and never reports the change. -/
theorem numbered_snapshot_stops_updates :
    StepsMeet (follow (fun _ : Unit => []))
        (fun tail connection => Subscribes connection →
          Serving (fun left right => left = right) "prod" 9 tail connection)
        (follow (fun _ => []) ⟨[], []⟩ (sampleConnection [] [] (by decide) [] 100))
        [changeConnection []] ∧
      ¬ StepsMeet (follow (fun _ : Unit => []))
        (fun _ connection => Subscribes connection → Follows (fun _ => []) connection)
        (follow (fun _ => []) ⟨[], []⟩ (sampleConnection [] [] (by decide) [] 100))
        [changeConnection []] := by
  have sent : (follow (fun _ : Unit => []) ⟨[], []⟩
      (sampleConnection [] [] (by decide) [] 100)).lastID = utf8 "req-1" := by decide
  constructor
  · refine ⟨fun _ => ⟨?_, by simp [changeConnection, sampleConnection]⟩, trivial⟩
    rw [status_channels _ _ _ _ _ _ (by decide), sent]
    exact settled_of_taken _ _ (by simp [changeConnection, sampleConnection]) rfl rfl
  · rintro ⟨follows, _⟩
    have change : sampleEvent "01a" "state_transition" "node-a" 1 ∈
        changes (changeConnection []).later := List.mem_singleton.2 rfl
    obtain ⟨body, member⟩ := follows ⟨(), rfl⟩ _ change
    cases member

end PgmanProxy.Pgmctl.StatusTail
