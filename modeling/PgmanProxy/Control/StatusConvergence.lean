import PgmanProxy.Control.WatchHandlers
import PgmanProxy.Library.Runs

/-!
# Does a status watch end up with the final status

The cluster changes its status and announces each change in the history. A status
watch without a resume id reads the status, sends it as its first frame, and only
then subscribes to what is announced from there on. The system below interleaves the
two sides step by step. What is announced between the read and the subscription
reaches nobody; everything announced later is followed by a fresh read.
-/

namespace PgmanProxy.Control.StatusConvergence

open PgmanProxy.Control.WatchFrames PgmanProxy.Control.WatchHandlers
open PgmanProxy.History.Queries (sampleEvent)
open PgmanProxy.Library.Runs
open PgmanProxy.History.Stream PgmanProxy.Library.GoJson

set_option autoImplicit false

/-- What the handler is doing with the event it took, if any. -/
inductive Work (Snapshot : Type) where
  | idle
  | taken (id : String)
  | fetched (id : String) (snapshot : Snapshot)

/-- Where the handler stands. `next` counts the history up to the event it takes next. -/
inductive Phase (Snapshot : Type) where
  | opening
  | read (snapshot : Snapshot)
  | shown
  | following (next : Nat) (work : Work Snapshot)

structure System (Snapshot : Type) where
  status : Snapshot
  /-- changes whose event is still to be published -/
  unannounced : Nat
  history : List HistoryEvent
  phase : Phase Snapshot
  /-- the `status_update` frames of the connection -/
  sent : List (String × Snapshot)

inductive Step (Snapshot : Type) where
  | update (status : Snapshot)
  | announce (event : HistoryEvent)
  | remark (event : HistoryEvent)
  | fetchFirst
  | sendFirst
  | subscribe
  | take
  | fetch
  | send

section Steps

variable {Snapshot : Type} (reqID : String)

/-- One step of either side; a step that is not possible changes nothing. A change updates
the status and later announces itself; events of other types may be published any time. -/
def step (system : System Snapshot) : Step Snapshot → System Snapshot
  | .update status => { system with status := status, unannounced := system.unannounced + 1 }
  | .announce event =>
      if 0 < system.unannounced ∧ isStatusChangeEvent event.type then
        { system with
          unannounced := system.unannounced - 1, history := system.history ++ [event] }
      else system
  | .remark event =>
      if isStatusChangeEvent event.type then system
      else { system with history := system.history ++ [event] }
  | .fetchFirst =>
      match system.phase with
      | .opening => { system with phase := .read system.status }
      | _ => system
  | .sendFirst =>
      match system.phase with
      | .read snapshot =>
          { system with phase := .shown, sent := system.sent ++ [(reqID, snapshot)] }
      | _ => system
  | .subscribe =>
      match system.phase with
      | .shown => { system with phase := .following system.history.length .idle }
      | _ => system
  | .take =>
      match system.phase with
      | .following next .idle =>
          match system.history[next]? with
          | none => system
          | some event =>
              if isStatusChangeEvent event.type then
                { system with phase := .following (next + 1) (.taken event.id) }
              else { system with phase := .following (next + 1) .idle }
      | _ => system
  | .fetch =>
      match system.phase with
      | .following next (.taken id) =>
          { system with phase := .following next (.fetched id system.status) }
      | _ => system
  | .send =>
      match system.phase with
      | .following next (.fetched id snapshot) =>
          { system with
            phase := .following next .idle, sent := system.sent ++ [(id, snapshot)] }
      | _ => system

/-- The changes are over and everything published was delivered and dealt with. -/
def Quiet (system : System Snapshot) : Prop :=
  system.unannounced = 0 ∧ system.phase = .following system.history.length .idle

/-- The last frame shows the status. -/
def Converged (system : System Snapshot) : Prop :=
  system.sent.getLast?.map Prod.snd = some system.status

def anyChange (events : List HistoryEvent) : Bool :=
  events.any (fun event => isStatusChangeEvent event.type)

/-- Some change announced itself after the subscription made in `opened`. -/
def Announced (opened final : System Snapshot) : Prop :=
  anyChange (final.history.drop opened.history.length) = true

/-! ## After the subscription -/

/-- The snapshot is the status, or something is still to come that will make the handler
read again. -/
def Fresh (system : System Snapshot) (next : Nat) (snapshot : Snapshot) : Prop :=
  snapshot = system.status ∨ 0 < system.unannounced ∨
    anyChange (system.history.drop next) = true

/-- A change announced after the subscription was taken. -/
def Touched (opened system : System Snapshot) (next : Nat) : Bool :=
  anyChange ((system.history.take next).drop opened.history.length)

/-- What is known of the frames while the handler follows the history: the latest read is
fresh, and until there is one the status at the subscription is. -/
def Account (opened system : System Snapshot) (next : Nat) : Work Snapshot → Prop
  | .idle =>
      (Touched opened system next = false ∧ system.sent = opened.sent ∧
          Fresh system next opened.status) ∨
        (Touched opened system next = true ∧
          ∃ last, system.sent.getLast? = some last ∧ Fresh system next last.2)
  | .taken _ => Touched opened system next = true
  | .fetched _ snapshot => Touched opened system next = true ∧ Fresh system next snapshot

structure Place (opened system : System Snapshot) (next : Nat) (work : Work Snapshot) : Prop where
  phase : system.phase = .following next work
  low : opened.history.length ≤ next
  high : next ≤ system.history.length
  account : Account opened system next work

theorem any_change_append (left right : List HistoryEvent) :
    anyChange (left ++ right) = (anyChange left || anyChange right) := by
  simp [anyChange]

/-- The other side may publish and change the status as long as what is fresh stays so. -/
theorem place_environment (opened before after : System Snapshot) (next : Nat)
    (work : Work Snapshot) (published : List HistoryEvent)
    (phase : after.phase = before.phase) (sent : after.sent = before.sent)
    (history : after.history = before.history ++ published)
    (fresh : ∀ snapshot, Fresh before next snapshot → Fresh after next snapshot)
    (place : Place opened before next work) : Place opened after next work := by
  have touched : Touched opened after next = Touched opened before next := by
    rw [Touched, Touched, history, List.take_append_of_le_length place.high]
  refine ⟨phase.trans place.phase, place.low, ?_, ?_⟩
  · rw [history, List.length_append]
    exact Nat.le_add_right_of_le place.high
  · have account := place.account
    cases work with
    | idle =>
        rcases account with ⟨clean, same, current⟩ | ⟨changed, last, latest, current⟩
        · exact Or.inl ⟨touched.trans clean, sent.trans same, fresh _ current⟩
        · refine Or.inr ⟨touched.trans changed, last, ?_, fresh _ current⟩
          rw [sent, latest]
    | taken id => exact touched.trans account
    | fetched id snapshot => exact ⟨touched.trans account.1, fresh _ account.2⟩

theorem fresh_append (system after : System Snapshot) (next : Nat) (event : HistoryEvent)
    (status : after.status = system.status) (unannounced : system.unannounced ≤ after.unannounced)
    (history : after.history = system.history ++ [event]) (within : next ≤ system.history.length)
    (snapshot : Snapshot) (fresh : Fresh system next snapshot) : Fresh after next snapshot := by
  rcases fresh with same | pending | later
  · exact Or.inl (same.trans status.symm)
  · exact Or.inr (Or.inl (Nat.lt_of_lt_of_le pending unannounced))
  · refine Or.inr (Or.inr ?_)
    rw [history, List.drop_append_of_le_length within, any_change_append, later, Bool.true_or]

theorem taken_with_next (history : List HistoryEvent) (base next : Nat) (event : HistoryEvent)
    (low : base ≤ next) (found : history[next]? = some event) :
    (history.take (next + 1)).drop base = (history.take next).drop base ++ [event] := by
  obtain ⟨inside, same⟩ := List.getElem?_eq_some_iff.1 found
  have short : base ≤ (history.take next).length := by
    rw [List.length_take]
    omega
  rw [List.take_succ_eq_append_getElem inside, same, List.drop_append_of_le_length short]

/-- The event in the next place, taken off what is to come and put to what was taken. -/
theorem next_event (opened system : System Snapshot) (next : Nat) (event : HistoryEvent)
    (low : opened.history.length ≤ next) (found : system.history[next]? = some event) :
    next + 1 ≤ system.history.length ∧
      anyChange (system.history.drop next) =
        (isStatusChangeEvent event.type || anyChange (system.history.drop (next + 1))) ∧
      Touched opened system (next + 1) =
        (Touched opened system next || isStatusChangeEvent event.type) := by
  obtain ⟨inside, same⟩ := List.getElem?_eq_some_iff.1 found
  refine ⟨inside, ?_, ?_⟩
  · rw [List.drop_eq_getElem_cons inside, same]
    rfl
  · rw [Touched, Touched, taken_with_next _ _ _ event low found, any_change_append]
    simp [anyChange]

def Followed (opened system : System Snapshot) : Prop :=
  ∃ next work, Place opened system next work

theorem take_followed (opened system : System Snapshot) (followed : Followed opened system) :
    Followed opened (step reqID system .take) := by
  obtain ⟨next, work, place⟩ := followed
  simp only [step, place.phase]
  cases work with
  | taken id => exact ⟨next, _, place⟩
  | fetched id snapshot => exact ⟨next, _, place⟩
  | idle =>
      cases found : system.history[next]? with
      | none =>
          simp only [found]
          exact ⟨next, _, place⟩
      | some event =>
          obtain ⟨inside, remaining, touched⟩ := next_event opened system next event place.low found
          have low := Nat.le_succ_of_le place.low
          simp only [found]
          cases change : isStatusChangeEvent event.type with
          | true =>
              simp only [if_true]
              rw [change, Bool.or_true] at touched
              exact ⟨next + 1, .taken event.id, rfl, low, inside, touched⟩
          | false =>
              -- Another event changes neither what was taken of the changes nor what is to come.
              simp only [Bool.false_eq_true, if_false]
              rw [change, Bool.or_false] at touched
              rw [change, Bool.false_or] at remaining
              have fresh : ∀ snapshot, Fresh system next snapshot →
                  Fresh { system with phase := .following (next + 1) .idle } (next + 1)
                    snapshot := by
                intro snapshot current
                unfold Fresh at current ⊢
                rw [remaining] at current
                exact current
              refine ⟨next + 1, .idle, rfl, low, inside, ?_⟩
              rcases place.account with ⟨clean, same, current⟩ | ⟨changed, last, latest, current⟩
              · exact Or.inl ⟨touched.trans clean, same, fresh _ current⟩
              · exact Or.inr ⟨touched.trans changed, last, latest, fresh _ current⟩

theorem fetch_followed (opened system : System Snapshot) (followed : Followed opened system) :
    Followed opened (step reqID system .fetch) := by
  obtain ⟨next, work, place⟩ := followed
  simp only [step, place.phase]
  cases work with
  | idle => exact ⟨next, _, place⟩
  | fetched id snapshot => exact ⟨next, _, place⟩
  | taken id =>
      exact ⟨next, .fetched id system.status, rfl, place.low, place.high, place.account,
        Or.inl rfl⟩

theorem send_followed (opened system : System Snapshot) (followed : Followed opened system) :
    Followed opened (step reqID system .send) := by
  obtain ⟨next, work, place⟩ := followed
  simp only [step, place.phase]
  cases work with
  | idle => exact ⟨next, _, place⟩
  | taken id => exact ⟨next, _, place⟩
  | fetched id snapshot =>
      obtain ⟨changed, current⟩ := place.account
      exact ⟨next, .idle, rfl, place.low, place.high,
        Or.inr ⟨changed, (id, snapshot), List.getLast?_concat, current⟩⟩

/-- What one step of either side preserves. -/
theorem step_followed (opened system : System Snapshot) (event : Step Snapshot)
    (followed : Followed opened system) : Followed opened (step reqID system event) := by
  cases event with
  | update status =>
      obtain ⟨next, work, place⟩ := followed
      exact ⟨next, work, place_environment opened system _ next work [] rfl rfl
        (List.append_nil _).symm (fun _ _ => Or.inr (Or.inl (Nat.succ_pos _))) place⟩
  | announce event =>
      obtain ⟨next, work, place⟩ := followed
      simp only [step]
      split
      · rename_i possible
        refine ⟨next, work, place_environment opened system _ next work [event] rfl rfl rfl ?_
          place⟩
        intro snapshot _
        -- the announcement itself is still to be taken
        refine Or.inr (Or.inr ?_)
        simp only [List.drop_append_of_le_length place.high, any_change_append]
        simp [anyChange, possible.2]
      · exact ⟨next, work, place⟩
  | remark event =>
      obtain ⟨next, work, place⟩ := followed
      simp only [step]
      split
      · exact ⟨next, work, place⟩
      · exact ⟨next, work, place_environment opened system _ next work [event] rfl rfl rfl
          (fresh_append system _ next event rfl (Nat.le_refl _) rfl place.high) place⟩
  | fetchFirst =>
      obtain ⟨next, work, place⟩ := followed
      simp only [step, place.phase]
      exact ⟨next, work, place⟩
  | sendFirst =>
      obtain ⟨next, work, place⟩ := followed
      simp only [step, place.phase]
      exact ⟨next, work, place⟩
  | subscribe =>
      obtain ⟨next, work, place⟩ := followed
      simp only [step, place.phase]
      exact ⟨next, work, place⟩
  | take => exact take_followed reqID opened system followed
  | fetch => exact fetch_followed reqID opened system followed
  | send => exact send_followed reqID opened system followed

theorem subscribe_followed (opened : System Snapshot) (ready : opened.phase = .shown) :
    Followed opened (step reqID opened .subscribe) := by
  refine ⟨opened.history.length, .idle, ?_⟩
  simp only [step, ready]
  refine ⟨rfl, Nat.le_refl _, Nat.le_refl _, Or.inl ⟨?_, rfl, Or.inl rfl⟩⟩
  simp [Touched, anyChange]

/-- From the subscription on: the last frame is the status in a quiet state exactly when a
change announced itself, or the status had not changed since the first frame was read. -/
theorem quiet_converged_iff (opened final : System Snapshot) (followed : Followed opened final)
    (quiet : Quiet final) :
    Converged final ↔
      Announced opened final ∨ opened.sent.getLast?.map Prod.snd = some opened.status := by
  obtain ⟨next, work, place⟩ := followed
  obtain ⟨settled, phase⟩ := quiet
  rw [place.phase] at phase
  injection phase with whole idle
  subst idle
  subst whole
  have all : Touched opened final final.history.length =
      anyChange (final.history.drop opened.history.length) := by
    rw [Touched, List.take_length]
  have current : ∀ snapshot, Fresh final final.history.length snapshot →
      snapshot = final.status := by
    intro snapshot fresh
    rcases fresh with same | pending | later
    · exact same
    · omega
    · rw [List.drop_length] at later
      cases later
  rcases place.account with ⟨clean, same, fresh⟩ | ⟨changed, last, latest, fresh⟩
  · have unannounced : ¬ Announced opened final := by
      rw [Announced, ← all, clean]
      exact Bool.false_ne_true
    rw [Converged, same, ← current _ fresh]
    simp only [unannounced, false_or]
  · have announced : Announced opened final := all.symm.trans changed
    have shows : Converged final := by
      rw [Converged, latest, Option.map_some, current _ fresh]
    exact ⟨fun _ => Or.inl announced, fun _ => shows⟩

/-! ## Whole runs -/

def isFollowing : Phase Snapshot → Bool
  | .following _ _ => true
  | _ => false

/-- The only step that makes the handler follow the history. -/
theorem follows_by_subscribing (system : System Snapshot) (event : Step Snapshot)
    (before : isFollowing system.phase = false)
    (after : isFollowing (step reqID system event).phase = true) :
    event = .subscribe ∧ system.phase = .shown := by
  cases event with
  | subscribe =>
      refine ⟨rfl, ?_⟩
      cases phase : system.phase with
      | shown => rfl
      | opening => simp [step, phase, isFollowing] at after
      | read snapshot => simp [step, phase, isFollowing] at after
      | following next work =>
          rw [phase] at before
          cases before
  | update status =>
      rw [step] at after
      rw [before] at after
      cases after
  | announce event =>
      simp only [step] at after
      split at after <;> rw [before] at after <;> cases after
  | remark event =>
      simp only [step] at after
      split at after <;> rw [before] at after <;> cases after
  | fetchFirst =>
      cases phase : system.phase <;> simp [step, phase, isFollowing] at after before
  | sendFirst =>
      cases phase : system.phase <;> simp [step, phase, isFollowing] at after before
  | take =>
      cases phase : system.phase <;> simp [step, phase, isFollowing] at after before
  | fetch =>
      cases phase : system.phase <;> simp [step, phase, isFollowing] at after before
  | send =>
      cases phase : system.phase <;> simp [step, phase, isFollowing] at after before

/-- A run that ends in following the history has subscribed on the way. -/
theorem subscribed_on_the_way (start : System Snapshot) (steps : List (Step Snapshot))
    (closed : isFollowing start.phase = false)
    (opened : isFollowing (run (step reqID) start steps).phase = true) :
    ∃ before after, steps = before ++ .subscribe :: after ∧
      (run (step reqID) start before).phase = .shown := by
  induction steps generalizing start with
  | nil =>
      rw [run, List.foldl_nil, closed] at opened
      cases opened
  | cons event steps ih =>
      by_cases now : isFollowing (step reqID start event).phase = true
      · obtain ⟨rfl, shown⟩ := follows_by_subscribing reqID start event closed now
        exact ⟨[], steps, rfl, shown⟩
      · obtain ⟨before, after, split, shown⟩ :=
          ih (step reqID start event) (Bool.eq_false_iff.2 now) opened
        exact ⟨event :: before, after, by rw [split, List.cons_append], shown⟩

/-! ## The frames are the handler's -/

variable (payload : Snapshot → List (String × Json))

/-- The events a loop has dealt with, and the one the handler is busy with. -/
def Handled (dealt all : List HistoryEvent) : Work Snapshot → Prop
  | .idle => dealt = all
  | .taken id => ∃ event, event.id = id ∧ isStatusChangeEvent event.type = true ∧
      dealt ++ [event] = all
  | .fetched id _ => ∃ event, event.id = id ∧ isStatusChangeEvent event.type = true ∧
      dealt ++ [event] = all

/-- What was sent is what `handleWatchStatus` writes when its loop takes, one by one, the
events published since the subscription. -/
def Written (system : System Snapshot) : Prop :=
  match system.phase with
  | .opening => system.sent = []
  | .read _ => system.sent = []
  | .shown => ∃ first, system.sent = [(reqID, first)]
  | .following next work => ∃ first turns base, base ≤ next ∧ next ≤ system.history.length ∧
      Continues turns ∧
      system.sent.map (fun frame => statusFrame payload frame.1 frame.2) =
        handleWatchStatus payload reqID (.ok first) turns ∧
      Handled (takenEvents (turns.map Prod.fst)) ((system.history.take next).drop base) work

theorem taken_events_append (turns : List (Selected × Except String Snapshot))
    (event : HistoryEvent) (fetched : Except String Snapshot) :
    takenEvents ((turns ++ [(Selected.event event, fetched)]).map Prod.fst) =
      takenEvents (turns.map Prod.fst) ++ [event] := by
  simp [takenEvents, Selected.event?]

theorem continues_append (turns : List (Selected × Except String Snapshot))
    (event : HistoryEvent) (snapshot : Snapshot) (continues : Continues turns) :
    Continues (turns ++ [(.event event, .ok snapshot)]) := by
  intro turn member
  rcases List.mem_append.1 member with early | last
  · exact continues turn early
  · rw [List.mem_singleton.1 last]
    exact ⟨rfl, snapshot, rfl⟩

/-- One more turn of the loop: a frame for a change of the status, nothing otherwise. -/
theorem handler_turn (first snapshot : Snapshot) (event : HistoryEvent)
    (turns : List (Selected × Except String Snapshot)) (continues : Continues turns) :
    handleWatchStatus payload reqID (.ok first) (turns ++ [(.event event, .ok snapshot)]) =
      handleWatchStatus payload reqID (.ok first) turns ++
        if isStatusChangeEvent event.type then [statusFrame payload event.id snapshot] else [] := by
  simp only [handleWatchStatus]
  rw [status_loop_append payload turns _ continues, List.cons_append]
  rfl

theorem written_environment (before after : System Snapshot) (published : List HistoryEvent)
    (phase : after.phase = before.phase) (sent : after.sent = before.sent)
    (history : after.history = before.history ++ published)
    (written : Written reqID payload before) : Written reqID payload after := by
  unfold Written at written ⊢
  rw [phase, sent]
  split at written
  · exact written
  · exact written
  · exact written
  · obtain ⟨first, turns, base, low, high, continues, frames, handled⟩ := written
    refine ⟨first, turns, base, low, ?_, continues, frames, ?_⟩
    · rw [history, List.length_append]
      exact Nat.le_add_right_of_le high
    · rw [history, List.take_append_of_le_length high]
      exact handled

theorem take_written (system : System Snapshot) (written : Written reqID payload system) :
    Written reqID payload (step reqID system .take) := by
  cases phase : system.phase with
  | opening => simpa only [step, phase] using written
  | read snapshot => simpa only [step, phase] using written
  | shown => simpa only [step, phase] using written
  | following next work =>
      cases work with
      | taken id => simpa only [step, phase] using written
      | fetched id snapshot => simpa only [step, phase] using written
      | idle =>
          cases found : system.history[next]? with
          | none => simpa only [step, phase, found] using written
          | some event =>
              simp only [Written, phase] at written
              obtain ⟨first, turns, base, low, _, continues, frames, handled⟩ := written
              obtain ⟨inside, _⟩ := List.getElem?_eq_some_iff.1 found
              have more := taken_with_next system.history base next event low found
              rw [Handled] at handled
              simp only [step, phase, found]
              cases change : isStatusChangeEvent event.type with
              | true =>
                  simp only [if_true, Written]
                  refine ⟨first, turns, base, Nat.le_succ_of_le low, inside, continues, frames,
                    event, rfl, change, ?_⟩
                  rw [more, handled]
              | false =>
                  simp only [Bool.false_eq_true, if_false, Written]
                  refine ⟨first, turns ++ [(.event event, .ok system.status)], base,
                    Nat.le_succ_of_le low, inside, continues_append turns event _ continues, ?_, ?_⟩
                  · rw [handler_turn reqID payload first system.status event turns continues,
                      change]
                    simpa using frames
                  · rw [Handled, taken_events_append, handled, more]

theorem send_written (system : System Snapshot) (written : Written reqID payload system) :
    Written reqID payload (step reqID system .send) := by
  cases phase : system.phase with
  | opening => simpa only [step, phase] using written
  | read snapshot => simpa only [step, phase] using written
  | shown => simpa only [step, phase] using written
  | following next work =>
      cases work with
      | idle => simpa only [step, phase] using written
      | taken id => simpa only [step, phase] using written
      | fetched id snapshot =>
          simp only [Written, phase] at written
          obtain ⟨first, turns, base, low, high, continues, frames, event, rfl, change, handled⟩ :=
            written
          simp only [step, phase]
          refine ⟨first, turns ++ [(.event event, .ok snapshot)], base, low, high,
            continues_append turns event _ continues, ?_, ?_⟩
          · rw [handler_turn reqID payload first snapshot event turns continues, change,
              List.map_append, frames]
            rfl
          · rw [Handled, taken_events_append, handled]

theorem step_written (system : System Snapshot) (event : Step Snapshot)
    (written : Written reqID payload system) :
    Written reqID payload (step reqID system event) := by
  cases event with
  | update status =>
      exact written_environment reqID payload system _ [] rfl rfl (List.append_nil _).symm written
  | announce event =>
      simp only [step]
      split
      · exact written_environment reqID payload system _ [event] rfl rfl rfl written
      · exact written
  | remark event =>
      simp only [step]
      split
      · exact written
      · exact written_environment reqID payload system _ [event] rfl rfl rfl written
  | take => exact take_written reqID payload system written
  | send => exact send_written reqID payload system written
  | fetchFirst =>
      cases phase : system.phase with
      | opening =>
          simp only [Written, phase] at written
          simpa only [step, phase, Written] using written
      | _ => simpa only [step, phase] using written
  | sendFirst =>
      cases phase : system.phase with
      | read snapshot =>
          simp only [Written, phase] at written
          simp only [step, phase, Written, written]
          exact ⟨snapshot, rfl⟩
      | _ => simpa only [step, phase] using written
  | subscribe =>
      cases phase : system.phase with
      | shown =>
          simp only [Written, phase] at written
          obtain ⟨first, frames⟩ := written
          simp only [step, phase, Written]
          refine ⟨first, [], system.history.length, Nat.le_refl _, Nat.le_refl _, ?_, ?_, ?_⟩
          · intro turn member
            cases member
          · rw [frames]
            rfl
          · simp [Handled, takenEvents]
      | _ => simpa only [step, phase] using written
  | fetch =>
      cases phase : system.phase with
      | following next work =>
          cases work with
          | taken id =>
              simp only [Written, phase] at written
              simpa only [step, phase, Written, Handled] using written
          | idle => simpa only [step, phase] using written
          | fetched id snapshot => simpa only [step, phase] using written
      | _ => simpa only [step, phase] using written

/-- In every run, the frames sent are those the handler writes. -/
theorem run_written (start : System Snapshot) (fresh : start.phase = .opening)
    (silent : start.sent = []) (steps : List (Step Snapshot)) :
    Written reqID payload (run (step reqID) start steps) := by
  apply run_invariant (step reqID) (Written reqID payload)
    (fun system event => step_written reqID payload system event)
  rw [Written, fresh]
  exact silent

end Steps

/-! ## Convergence -/

/-- In a run that ends quietly, the last frame shows the final status exactly when, at the
subscription, the status was still the one the first frame shows, or some change
announced itself afterwards. -/
theorem status_watch_converges_iff {Snapshot : Type} (reqID : String) (start : System Snapshot)
    (fresh : start.phase = .opening) (steps : List (Step Snapshot))
    (quiet : Quiet (run (step reqID) start steps)) :
    Converged (run (step reqID) start steps) ↔
      ∃ before after, steps = before ++ .subscribe :: after ∧
        (run (step reqID) start before).phase = .shown ∧
        (Announced (run (step reqID) start before) (run (step reqID) start steps) ∨
          (run (step reqID) start before).sent.getLast?.map Prod.snd =
            some (run (step reqID) start before).status) := by
  -- Wherever the run subscribes, the rest of it is followed from there.
  have decided : ∀ before after, steps = before ++ .subscribe :: after →
      (run (step reqID) start before).phase = .shown →
      (Converged (run (step reqID) start steps) ↔
        Announced (run (step reqID) start before) (run (step reqID) start steps) ∨
          (run (step reqID) start before).sent.getLast?.map Prod.snd =
            some (run (step reqID) start before).status) := by
    intro before after split shown
    apply quiet_converged_iff _ _ _ quiet
    rw [split, run_append]
    exact run_invariant (step reqID) (Followed (run (step reqID) start before))
      (fun system event => step_followed reqID _ system event) _
      (subscribe_followed reqID _ shown) after
  constructor
  · intro converged
    have closed : isFollowing start.phase = false := by rw [fresh]; rfl
    have opened : isFollowing (run (step reqID) start steps).phase = true := by
      rw [quiet.2]
      rfl
    obtain ⟨before, after, split, shown⟩ := subscribed_on_the_way reqID start steps closed opened
    exact ⟨before, after, split, shown, (decided before after split shown).1 converged⟩
  · rintro ⟨before, after, split, shown, condition⟩
    exact (decided before after split shown).2 condition

def sampleSystem : System Nat where
  status := 0
  unannounced := 0
  history := []
  phase := .opening
  sent := []

def sampleChange : HistoryEvent := sampleEvent "01a" "primary_changed" "node-a" 1

/-- The change falls behind the subscription. -/
theorem status_watch_converges_later :
    Converged (run (step "req-1") sampleSystem
      [.fetchFirst, .sendFirst, .subscribe, .update 7, .announce sampleChange, .take, .fetch,
        .send]) := by
  refine (status_watch_converges_iff "req-1" sampleSystem rfl _ ⟨rfl, rfl⟩).2
    ⟨[.fetchFirst, .sendFirst], _, rfl, rfl, Or.inl ?_⟩
  unfold Announced
  decide

/-- The change falls between the read and the subscription: the run ends quietly with a
frame that shows the status from before it. -/
theorem unannounced_change_stays_unseen :
    Quiet (run (step "req-1") sampleSystem
        [.fetchFirst, .update 7, .announce sampleChange, .sendFirst, .subscribe]) ∧
      ¬ Converged (run (step "req-1") sampleSystem
        [.fetchFirst, .update 7, .announce sampleChange, .sendFirst, .subscribe]) :=
  ⟨⟨rfl, rfl⟩, by unfold Converged; decide⟩

end PgmanProxy.Control.StatusConvergence
