import PgmanProxy.Control.WatchHandlers
import PgmanProxy.Library.GoChannels
import PgmanProxy.Library.Runs

/-!
# A subscription that fails under a watch

The watcher's goroutine puts its error into one channel and then closes both. The handler
waits for both in one `select`, and a `select` with several ready cases takes any of
them. Every interleaving of the two is a run here.
-/

namespace PgmanProxy.Control.WatchFailure

open PgmanProxy.Control.WatchFrames PgmanProxy.Control.WatchHandlers
open PgmanProxy.History.Stream PgmanProxy.History.Watcher
open PgmanProxy.Library.GoChannels PgmanProxy.Library.GoJson PgmanProxy.Library.Runs

set_option autoImplicit false

variable {Snapshot : Type}

/-! ## The two goroutines -/

/-- What the watcher still has to do to its channels. -/
inductive Operation where
  | send (event : HistoryEvent)
  | fail (why : String)
  | closeErrs
  | closeEvents

/-- `errs` is closed before `events`: deferred calls run last in, first out. -/
def program (channels : Channels) : List Operation :=
  channels.events.map .send ++ channels.error.toList.map .fail ++
    if channels.closed then [.closeErrs, .closeEvents] else []

/-- A request whose subscription has been started. The status topic has written its first
snapshot by then. -/
inductive WatchRequest (Snapshot : Type) where
  | append (stream : AppendStream)
  | status (reqID : String) (first : Snapshot)

def WatchRequest.topic : WatchRequest Snapshot → WatchTopic
  | .append stream => stream.topic
  | .status _ _ => .status

def WatchRequest.options (lastEventID : List UInt8) : WatchRequest Snapshot → WatchOptions
  | .append stream => resumeOptions lastEventID stream.options
  | .status _ _ => statusOptions lastEventID

/-- A turn of the `select`, with what a status fetch made in it would give. -/
abbrev Turn (Snapshot : Type) := Selected × Except String Snapshot

/-- The status topic also returns when it cannot fetch the status. -/
def WatchRequest.ends : WatchRequest Snapshot → Turn Snapshot → Bool
  | .append _, turn => turn.1.ends
  | .status _ _, (.event event, .error _) => isStatusChangeEvent event.type
  | .status _ _, turn => turn.1.ends

structure Watch (Snapshot : Type) where
  events : Chan HistoryEvent
  errs : Chan String
  remaining : List Operation
  /-- the handler has set its `errs` to nil -/
  errsNil : Bool
  turns : List (Turn Snapshot)
  returned : Bool
  connected : Bool
  /-- the error the subscription ended with, if it did so under a handler with a client -/
  failed : Option String

inductive Case where
  | errs
  | events
  | keepalive
  | done
deriving DecidableEq, Repr

inductive Action (Snapshot : Type) where
  | produce
  | stop
  | select (ready : Case) (fetched : Except String Snapshot)
  | disconnect

def produce (watch : Watch Snapshot) : Watch Snapshot :=
  match watch.remaining with
  | [] => watch
  | .send event :: rest =>
      match watch.events.send 64 event with
      | none => watch
      | some events => { watch with events := events, remaining := rest }
  | .fail why :: rest =>
      match watch.errs.send 1 why with
      | none => watch
      | some errs =>
          { watch with
            errs := errs
            remaining := rest
            failed := if watch.returned || !watch.connected then watch.failed else some why }
  | .closeErrs :: rest => { watch with errs := watch.errs.close, remaining := rest }
  | .closeEvents :: rest => { watch with events := watch.events.close, remaining := rest }

/-- The watcher sees its context done, which is the request's or cancelled by the return. -/
def stop (watch : Watch Snapshot) : Watch Snapshot :=
  if watch.returned || !watch.connected then
    { watch with
      remaining := (if watch.errs.closed then [] else [.closeErrs]) ++
        if watch.events.closed then [] else [.closeEvents] }
  else watch

/-- The body of the selected case. -/
def Watch.turn (request : WatchRequest Snapshot) (watch : Watch Snapshot)
    (turn : Turn Snapshot) : Watch Snapshot :=
  { watch with turns := watch.turns ++ [turn], returned := request.ends turn }

def select (request : WatchRequest Snapshot) (watch : Watch Snapshot)
    (fetched : Except String Snapshot) : Case → Watch Snapshot
  | .errs =>
      if watch.errsNil then watch
      else
        match watch.errs.receive with
        | none => watch
        | some (.value why, errs) => { watch with errs := errs }.turn request (.errs why, fetched)
        | some (.closed, _) => { watch with errsNil := true }
  | .events =>
      match watch.events.receive with
      | none => watch
      | some (.value event, events) =>
          { watch with events := events }.turn request (.event event, fetched)
      | some (.closed, _) => watch.turn request (.eventsClosed, fetched)
  | .keepalive => watch.turn request (.keepalive, fetched)
  | .done => if watch.connected then watch else { watch with returned := true }

def step (request : WatchRequest Snapshot) (watch : Watch Snapshot) :
    Action Snapshot → Watch Snapshot
  | .produce => produce watch
  | .stop => stop watch
  | .select ready fetched =>
      if watch.returned then watch else select request watch fetched ready
  -- a client that leaves when the response is over has seen all of it
  | .disconnect => if watch.returned then watch else { watch with connected := false }

/-- The subscription as `Watch` hands it over. A watcher without JetStream or cluster id has
done everything by then: its runs are those that start with its goroutine. -/
def Watch.start (channels : Channels) : Watch Snapshot :=
  ⟨Chan.empty, Chan.empty, program channels, false, [], false, true, none⟩

/-! ## What the client sees -/

section Frames

variable (formatTime : Int → String) (payload : Snapshot → List (String × Json))

def WatchRequest.writes (turns : List (Turn Snapshot)) : WatchRequest Snapshot → List Write
  | .append stream => streamLoop formatTime stream.topic stream.frameName (turns.map Prod.fst)
  | .status reqID first => handleWatchStatus payload reqID (.ok first) turns

/-- The last frame of a handler that returns after this turn. -/
def WatchRequest.lastWrite (request : WatchRequest Snapshot) : Turn Snapshot → Write
  | (.errs why, _) => .sseError "subscription_failed" why
  | (.eventsClosed, _) => .gapMarker request.topic "subscription_closed"
  | (_, .error why) => .sseError "status_fetch_failed" why
  | _ => .keepalive

theorem stream_loop_append (topic : WatchTopic) (frameName : String) (front more : List Selected)
    (going : ∀ selected ∈ front, selected.ends = false) :
    streamLoop formatTime topic frameName (front ++ more) =
      streamLoop formatTime topic frameName front ++
        streamLoop formatTime topic frameName more := by
  induction front with
  | nil => rfl
  | cons selected front ih =>
      rw [List.forall_mem_cons] at going
      obtain ⟨goes, later⟩ := going
      have rest := ih later
      cases selected with
      | event event => simp only [List.cons_append, streamLoop, rest]
      | keepalive => simp only [List.cons_append, streamLoop, rest]
      | errs why => cases goes
      | eventsClosed => cases goes

theorem status_turns_append (reqID : String) (first : Snapshot)
    (front more : List (Turn Snapshot))
    (going : ∀ turn ∈ front, (WatchRequest.status reqID first).ends turn = false) :
    statusLoop payload (front ++ more) = statusLoop payload front ++ statusLoop payload more := by
  induction front with
  | nil => rfl
  | cons turn front ih =>
      rw [List.forall_mem_cons] at going
      obtain ⟨goes, later⟩ := going
      have rest := ih later
      obtain ⟨selected, fetched⟩ := turn
      cases selected with
      | event event =>
          cases fetched with
          | error why =>
              have quiet : isStatusChangeEvent event.type = false := goes
              simp only [List.cons_append, statusLoop, quiet, rest, Bool.false_eq_true, if_false]
          | ok snapshot =>
              simp only [List.cons_append, statusLoop, rest]
              split <;> rfl
      | keepalive => simp only [List.cons_append, statusLoop, rest]
      | errs why => cases goes
      | eventsClosed => cases goes

/-- The turn that ends the handler writes the last frame. -/
theorem writes_last (request : WatchRequest Snapshot) (front : List (Turn Snapshot))
    (turn : Turn Snapshot) (going : ∀ earlier ∈ front, request.ends earlier = false)
    (ends : request.ends turn = true) :
    (request.writes formatTime payload (front ++ [turn])).getLast? =
      some (request.lastWrite turn) := by
  obtain ⟨selected, fetched⟩ := turn
  cases request with
  | append stream =>
      have earlier : ∀ selected ∈ front.map Prod.fst, selected.ends = false := by
        intro selected taken
        obtain ⟨turn, member, rfl⟩ := List.mem_map.1 taken
        exact going turn member
      rw [WatchRequest.writes, List.map_append, stream_loop_append formatTime _ _ _ _ earlier]
      cases selected with
      | event event => cases ends
      | keepalive => cases ends
      | errs why => exact List.getLast?_concat
      | eventsClosed => exact List.getLast?_concat
  | status reqID first =>
      rw [WatchRequest.writes, handleWatchStatus,
        status_turns_append payload reqID first front _ going, ← List.cons_append]
      cases selected with
      | event event =>
          cases fetched with
          | error why =>
              have changes : isStatusChangeEvent event.type = true := ends
              rw [statusLoop, if_pos changes]
              exact List.getLast?_concat
          | ok snapshot => cases ends
      | keepalive => cases ends
      | errs why => exact List.getLast?_concat
      | eventsClosed => exact List.getLast?_concat

/-- The handler returned under a client that was there, and its last frame says why the
subscription failed, if it did. -/
def Reported (request : WatchRequest Snapshot) (watch : Watch Snapshot) : Prop :=
  watch.returned = true → watch.connected = true → ∀ why, watch.failed = some why →
    (request.writes formatTime payload watch.turns).getLast? =
      some (.sseError "subscription_failed" why)

end Frames

/-! ## Runs -/

section Runs

variable (request : WatchRequest Snapshot)

/-- The turn the events case would take. -/
def eventsTurn (watch : Watch Snapshot) (fetched : Except String Snapshot) :
    Option (Turn Snapshot) :=
  match watch.events.receive with
  | none => none
  | some (.value event, _) => some (.event event, fetched)
  | some (.closed, _) => some (.eventsClosed, fetched)

/-- While an error waits in `errs`, the events case is taken and ends the handler. -/
def Overtakes (watch : Watch Snapshot) (action : Action Snapshot) : Prop :=
  watch.returned = false ∧ watch.connected = true ∧ watch.errs.buffer ≠ [] ∧
    ∃ fetched turn, action = .select .events fetched ∧ eventsTurn watch fetched = some turn ∧
      request.ends turn = true

/-- As long as the client is there: an error that was sent waits in `errs`, where the handler
can still receive it, or is what the handler returned with. -/
structure Sound (watch : Watch Snapshot) : Prop where
  running : watch.connected = true → watch.returned = false →
    (∀ turn ∈ watch.turns, request.ends turn = false) ∧
      watch.errs.buffer = watch.failed.toList ∧
      (watch.errsNil = true → watch.errs.closed = true ∧ watch.failed = none)
  returned : watch.connected = true → watch.returned = true → ∀ why, watch.failed = some why →
    ∃ front fetched, watch.turns = front ++ [(.errs why, fetched)] ∧
      ∀ turn ∈ front, request.ends turn = false

theorem start_sound (channels : Channels) : Sound request (Watch.start channels) where
  running := by
    intro _ _
    exact ⟨by simp [Watch.start], rfl, by simp [Watch.start]⟩
  returned := by
    intro _ returned
    cases returned

theorem select_events (watch : Watch Snapshot) (fetched : Except String Snapshot) :
    (eventsTurn watch fetched = none ∧ select request watch fetched .events = watch) ∨
      ∃ turn events, eventsTurn watch fetched = some turn ∧
        select request watch fetched .events =
          { watch with events := events }.turn request turn := by
  unfold eventsTurn select
  cases received : watch.events.receive with
  | none => exact Or.inl ⟨rfl, rfl⟩
  | some result =>
      obtain ⟨outcome, events⟩ := result
      cases outcome with
      | value event => exact Or.inr ⟨_, events, rfl, rfl⟩
      | closed => exact Or.inr ⟨_, watch.events, rfl, rfl⟩

/-- A turn that does not read an error is harmless while none waits, or when it goes on. -/
theorem turn_sound (watch : Watch Snapshot) (turn : Turn Snapshot) (sound : Sound request watch)
    (running : watch.returned = false)
    (harmless : watch.connected = true → request.ends turn = true → watch.errs.buffer = []) :
    Sound request (watch.turn request turn) where
  running := by
    intro connected goes
    obtain ⟨going, waiting, nil⟩ := sound.running connected running
    refine ⟨?_, waiting, nil⟩
    intro other taken
    rcases List.mem_append.1 taken with earlier | last
    · exact going other earlier
    · rw [List.mem_singleton.1 last]
      exact goes
  returned := by
    intro connected ends why failed
    obtain ⟨-, waiting, -⟩ := sound.running connected running
    rw [harmless connected ends] at waiting
    have none : watch.failed = some why := failed
    rw [none] at waiting
    cases waiting

/-- The one place of `errs` is free for the error, and the handler still listens to it. -/
theorem fail_sound (watch : Watch Snapshot) (sound : Sound request watch) (why : String)
    (rest : List Operation) (errs : Chan String) (sent : watch.errs.send 1 why = some errs) :
    Sound request
      { watch with
        errs := errs
        remaining := rest
        failed := if watch.returned || !watch.connected then watch.failed else some why } := by
  obtain ⟨⟨unclosed, room⟩, rfl⟩ := (send_some_iff 1 watch.errs errs why).1 sent
  have vacant : watch.errs.buffer = [] := List.length_eq_zero_iff.1 (by omega)
  constructor
  · intro connected running
    dsimp only at connected running ⊢
    obtain ⟨going, -, nil⟩ := sound.running connected running
    rw [connected, running, vacant]
    refine ⟨going, rfl, ?_⟩
    intro ignored
    have closed := (nil ignored).1
    rw [unclosed] at closed
    cases closed
  · intro connected returned
    dsimp only at connected returned ⊢
    rw [returned]
    exact sound.returned connected returned

theorem produce_sound (watch : Watch Snapshot) (sound : Sound request watch) :
    Sound request (produce watch) := by
  unfold produce
  split
  · exact sound
  · split
    · exact sound
    · exact ⟨sound.running, sound.returned⟩
  · rename_i why rest _
    split
    · exact sound
    · rename_i errs sent
      exact fail_sound request watch sound why rest errs sent
  · constructor
    · intro connected running
      obtain ⟨going, waiting, nil⟩ := sound.running connected running
      exact ⟨going, waiting, fun ignored => ⟨rfl, (nil ignored).2⟩⟩
    · exact sound.returned
  · exact ⟨sound.running, sound.returned⟩

theorem errs_turn_ends (why : String) (fetched : Except String Snapshot) :
    request.ends (.errs why, fetched) = true := by
  cases request <;> rfl

/-- The error that waits is the one the handler returns with. -/
theorem receive_sound (watch : Watch Snapshot) (sound : Sound request watch)
    (running : watch.returned = false) (fetched : Except String Snapshot) (why : String)
    (errs : Chan String) (received : watch.errs.receive = some (.value why, errs)) :
    Sound request ({ watch with errs := errs }.turn request (.errs why, fetched)) := by
  obtain ⟨buffer, -⟩ := receive_value watch.errs errs why received
  constructor
  · intro _ goes
    have ends : request.ends (.errs why, fetched) = false := goes
    rw [errs_turn_ends] at ends
    cases ends
  · intro connected _ other failed
    obtain ⟨going, waiting, -⟩ := sound.running connected running
    have known : watch.failed = some other := failed
    rw [known, buffer] at waiting
    rw [← (List.cons.inj waiting).1]
    exact ⟨watch.turns, fetched, rfl, going⟩

theorem select_errs_sound (watch : Watch Snapshot) (sound : Sound request watch)
    (running : watch.returned = false) (fetched : Except String Snapshot) :
    Sound request (select request watch fetched .errs) := by
  simp only [select]
  split
  · exact sound
  · split
    · exact sound
    · rename_i why errs received
      exact receive_sound request watch sound running fetched why errs received
    · -- the channel is closed and drained, so no error was sent
      rename_i rest received
      obtain ⟨drained, closed, -⟩ := receive_closed watch.errs rest received
      constructor
      · intro connected _
        obtain ⟨going, waiting, -⟩ := sound.running connected running
        refine ⟨going, waiting, ?_⟩
        intro _
        rw [drained] at waiting
        exact ⟨closed, Option.toList_eq_nil_iff.1 waiting.symm⟩
      · exact sound.returned

theorem select_sound (watch : Watch Snapshot) (sound : Sound request watch)
    (running : watch.returned = false) (ready : Case) (fetched : Except String Snapshot)
    (fair : ¬ Overtakes request watch (.select ready fetched)) :
    Sound request (select request watch fetched ready) := by
  cases ready with
  | errs => exact select_errs_sound request watch sound running fetched
  | events =>
      rcases select_events request watch fetched with ⟨-, same⟩ | ⟨turn, events, taken, next⟩
      · rw [same]
        exact sound
      · rw [next]
        apply turn_sound
        · exact ⟨sound.running, sound.returned⟩
        · exact running
        · intro connected ends
          by_contra waiting
          exact fair ⟨running, connected, waiting, fetched, turn, rfl, taken, ends⟩
  | keepalive =>
      apply turn_sound request watch _ sound running
      intro _ ends
      cases request <;> cases ends
  | done =>
      simp only [select]
      split
      · exact sound
      · rename_i gone
        constructor
        · intro connected
          exact absurd connected gone
        · intro connected
          exact absurd connected gone

theorem step_sound (watch : Watch Snapshot) (action : Action Snapshot)
    (sound : Sound request watch) (fair : ¬ Overtakes request watch action) :
    Sound request (step request watch action) := by
  cases action with
  | produce => exact produce_sound request watch sound
  | stop =>
      unfold step stop
      dsimp only
      split
      · exact ⟨sound.running, sound.returned⟩
      · exact sound
  | select ready fetched =>
      unfold step
      dsimp only
      split
      · exact sound
      · rename_i running
        exact select_sound request watch sound (by simpa using running) ready fetched fair
  | disconnect =>
      unfold step
      dsimp only
      split
      · exact sound
      · constructor
        · intro connected
          cases connected
        · intro connected
          cases connected

/-- What the client and the report depend on. -/
structure SameView (left right : Watch Snapshot) : Prop where
  returned : left.returned = right.returned
  connected : left.connected = right.connected
  failed : left.failed = right.failed
  turns : left.turns = right.turns

theorem produce_final (watch : Watch Snapshot) (returned : watch.returned = true) :
    SameView (produce watch) watch := by
  unfold produce
  split
  · exact ⟨rfl, rfl, rfl, rfl⟩
  · split <;> exact ⟨rfl, rfl, rfl, rfl⟩
  · split
    · exact ⟨rfl, rfl, rfl, rfl⟩
    · rw [returned]
      exact ⟨returned.symm, rfl, rfl, rfl⟩
  · exact ⟨rfl, rfl, rfl, rfl⟩
  · exact ⟨rfl, rfl, rfl, rfl⟩

theorem step_final (watch : Watch Snapshot) (action : Action Snapshot)
    (returned : watch.returned = true) : SameView (step request watch action) watch := by
  cases action with
  | produce => exact produce_final watch returned
  | stop =>
      unfold step stop
      dsimp only
      split <;> exact ⟨rfl, rfl, rfl, rfl⟩
  | select ready fetched =>
      simp only [step, returned, if_true]
      exact ⟨rfl, rfl, rfl, rfl⟩
  | disconnect =>
      simp only [step, returned, if_true]
      exact ⟨rfl, rfl, rfl, rfl⟩

/-- Once the handler has returned, the client's view is final. -/
theorem run_final (watch : Watch Snapshot) (returned : watch.returned = true)
    (actions : List (Action Snapshot)) :
    SameView (run (step request) watch actions) watch := by
  apply run_invariant (step request) (fun state => SameView state watch)
  · intro state action same
    have still := step_final request state action (same.returned.trans returned)
    exact ⟨still.returned.trans same.returned, still.connected.trans same.connected,
      still.failed.trans same.failed, still.turns.trans same.turns⟩
  · exact ⟨rfl, rfl, rfl, rfl⟩

/-- An overtaken error was sent, and the handler returns with the turn of the events case. -/
theorem overtaking_step (watch : Watch Snapshot) (action : Action Snapshot)
    (sound : Sound request watch) (overtaken : Overtakes request watch action) :
    ∃ why turn fetched events, watch.failed = some why ∧ eventsTurn watch fetched = some turn ∧
      request.ends turn = true ∧
      step request watch action = { watch with events := events }.turn request turn := by
  obtain ⟨running, connected, waiting, fetched, turn, rfl, taken, ends⟩ := overtaken
  have held := (sound.running connected running).2.1
  have selected : step request watch (.select .events fetched) =
      select request watch fetched .events := by
    simp only [step, running, Bool.false_eq_true, if_false]
  obtain ⟨why, failed⟩ : ∃ why, watch.failed = some why := by
    cases known : watch.failed with
    | none =>
        rw [held, known] at waiting
        exact absurd rfl waiting
    | some why => exact ⟨why, rfl⟩
  rcases select_events request watch fetched with ⟨idle, -⟩ | ⟨other, events, same, moved⟩
  · rw [idle] at taken
    cases taken
  · rw [same] at taken
    cases taken
    exact ⟨why, turn, fetched, events, failed, same, ends, selected.trans moved⟩

end Runs

/-! ## Reports -/

section Reports

variable (formatTime : Int → String) (payload : Snapshot → List (String × Json))
variable (request : WatchRequest Snapshot)

theorem sound_reported (watch : Watch Snapshot) (sound : Sound request watch) :
    Reported formatTime payload request watch := by
  intro returned connected why failed
  obtain ⟨front, fetched, turns, going⟩ := sound.returned connected returned why failed
  rw [turns, writes_last formatTime payload request front _ going
    (errs_turn_ends request why fetched)]
  rfl

theorem events_turn_other (watch : Watch Snapshot) (fetched : Except String Snapshot)
    (turn : Turn Snapshot) (taken : eventsTurn watch fetched = some turn) (why : String) :
    request.lastWrite turn ≠ .sseError "subscription_failed" why := by
  unfold eventsTurn at taken
  split at taken
  · cases taken
  · cases taken
    cases fetched with
    | error fetch => simp [WatchRequest.lastWrite]
    | ok snapshot => simp [WatchRequest.lastWrite]
  · cases taken
    simp [WatchRequest.lastWrite]

/-- An error that is overtaken is never reported. -/
theorem overtaken_unreported (watch : Watch Snapshot) (action : Action Snapshot)
    (sound : Sound request watch) (overtaken : Overtakes request watch action)
    (actions : List (Action Snapshot)) :
    ¬ Reported formatTime payload request
      (run (step request) (step request watch action) actions) := by
  obtain ⟨going, -, -⟩ := sound.running overtaken.2.1 overtaken.1
  obtain ⟨why, turn, fetched, events, failed, taken, ends, next⟩ :=
    overtaking_step request watch action sound overtaken
  rw [next]
  have final := run_final request ({ watch with events := events }.turn request turn) ends actions
  intro reported
  have last := reported (final.returned.trans ends) (final.connected.trans overtaken.2.1) why
    (final.failed.trans failed)
  rw [final.turns] at last
  have written := writes_last formatTime payload request watch.turns turn going ends
  have same := written.symm.trans last
  exact events_turn_other request watch fetched turn taken why (Option.some.inj same)

theorem reported_iff (watch : Watch Snapshot) (sound : Sound request watch)
    (actions : List (Action Snapshot)) :
    Reported formatTime payload request (run (step request) watch actions) ↔
      StepsMeet (step request) (fun state action => ¬ Overtakes request state action) watch
        actions := by
  induction actions generalizing watch with
  | nil => exact iff_of_true (sound_reported formatTime payload request watch sound) trivial
  | cons action actions ih =>
      have first : run (step request) watch (action :: actions) =
          run (step request) (step request watch action) actions := rfl
      rw [first]
      by_cases overtaken : Overtakes request watch action
      · apply iff_of_false
        · exact overtaken_unreported formatTime payload request watch action sound overtaken actions
        · intro meets
          exact meets.1 overtaken
      · rw [ih _ (step_sound request watch action sound overtaken)]
        exact (and_iff_right overtaken).symm

/-- The error can be reported for as long as it waits: its case is ready. -/
theorem error_reportable (watch : Watch Snapshot) (sound : Sound request watch)
    (running : watch.returned = false) (connected : watch.connected = true) (why : String)
    (failed : watch.failed = some why) (fetched : Except String Snapshot) :
    (step request watch (.select .errs fetched)).returned = true ∧
      Reported formatTime payload request (step request watch (.select .errs fetched)) := by
  obtain ⟨-, held, nil⟩ := sound.running connected running
  have listening : watch.errsNil = false := by
    cases ignored : watch.errsNil with
    | false => rfl
    | true =>
        have none := (nil ignored).2
        rw [failed] at none
        cases none
  have received : watch.errs.receive = some (.value why, ⟨[], watch.errs.closed⟩) := by
    rw [failed] at held
    rw [Chan.receive, held]
    rfl
  have next : step request watch (.select .errs fetched) =
      { watch with errs := ⟨[], watch.errs.closed⟩ }.turn request (.errs why, fetched) := by
    simp only [step, select, running, listening, received, Bool.false_eq_true, if_false]
  rw [next]
  constructor
  · exact errs_turn_ends request why fetched
  · apply sound_reported
    exact receive_sound request watch sound running fetched why _ received

theorem failure_reported_iff (equalFold : String → String → Bool) (wired : Bool)
    (clusterID : String) (lastEventID : List UInt8) (subscription : Subscription)
    (actions : List (Action Snapshot)) :
    let begun := Watch.start
      (watch equalFold wired clusterID (request.options lastEventID) subscription)
    Reported formatTime payload request (run (step request) begun actions) ↔
      StepsMeet (step request) (fun state action => ¬ Overtakes request state action) begun
        actions := by
  intro begun
  exact reported_iff formatTime payload request begun (start_sound request _) actions

end Reports

def lostStream : Subscription := ⟨some "nats: timeout", none, none, [], .stopped⟩

/-- The stream cannot be opened; the handler finds both channels ready. -/
def overtakenRun (request : WatchRequest Unit) : Watch Unit :=
  run (step request)
    (Watch.start (watch (fun _ _ => false) true "prod" (request.options []) lostStream))
    [.produce, .produce, .produce, .select .events (.ok ())]

def appendRequest : WatchRequest Unit := .append .transitions

def statusRequest : WatchRequest Unit := .status "7" ()

theorem closed_events_hide_error :
    appendRequest.writes toString (fun _ => []) (overtakenRun appendRequest).turns =
        [.gapMarker .transitions "subscription_closed"] ∧
      ¬ Reported toString (fun _ => []) appendRequest (overtakenRun appendRequest) ∧
      ¬ Reported toString (fun _ => []) statusRequest (overtakenRun statusRequest) := by
  have failed (request : WatchRequest Unit) :
      (overtakenRun request).failed = some "open history stream: nats: timeout" := by
    cases request <;> rfl
  constructor
  · rfl
  constructor
  · intro reported
    have last := reported rfl rfl _ (failed appendRequest)
    cases last
  · intro reported
    have last := reported rfl rfl _ (failed statusRequest)
    cases last

end PgmanProxy.Control.WatchFailure
