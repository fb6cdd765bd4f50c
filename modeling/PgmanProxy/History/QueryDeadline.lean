import PgmanProxy.History.Queries
import PgmanProxy.Library.Runs
import PgmanProxy.Library.TimedLoop

/-!
# The deadline of a history query

`Run` against a clock. Each fetch takes some time, at most the wait it is given,
and brings what has arrived by then; what arrives is up to the schedule. The loop
looks at the limit and at the fetch, never at its context.
-/

namespace PgmanProxy.History.QueryDeadline

open PgmanProxy.History.Queries PgmanProxy.History.Stream
open PgmanProxy.Library.Runs (run_append run_invariant)
open PgmanProxy.Library.TimedLoop

set_option autoImplicit false

/-- `jetstream.FetchMaxWait`, in nanoseconds. -/
def fetchWait : Nat := 750000000

/-- The timeout `Run` sets when its context has no deadline. -/
def defaultTimeout : Nat := 15000000000

/-- One fetch: what it gives and how long it takes. -/
structure Arrival where
  fetched : Fetched
  elapsed : Nat
  positive : 0 < elapsed
  bounded : elapsed ≤ fetchWait

def Arrival.messages (arrival : Arrival) : List Record :=
  match arrival.fetched with
  | .messages batch => batch
  | _ => []

/-- One call of `Run`. `opened` is when the consumer is open; opening it is bounded by the
context. The fetches are those of the schedule, not those of `js`. -/
structure Call where
  js : Option JetStream
  clusterID : String
  query : Query
  deadline : Option Nat
  opened : Nat
  schedule : Nat → Arrival
  inTime : ∀ given ∈ deadline, opened ≤ given

def Call.deadlineAt (call : Call) : Nat := call.deadline.getD (call.opened + defaultTimeout)

inductive Phase where
  | fetching (progress : Progress)
  | returned (outcome : Except String Progress)

structure Loop where
  clock : Nat
  phase : Phase

section Turning

variable (equalFold : String → String → Bool)

/-- The head of the loop and, if there is room, one fetch and its messages. -/
def turn (query : Query) (loop : Loop) (arrival : Arrival) : Loop :=
  match loop.phase with
  | .returned _ => loop
  | .fetching progress =>
      if progress.events.length < query.bound then
        match arrival.fetched with
        | .failed why =>
            ⟨loop.clock + arrival.elapsed, .returned (.error ("history fetch: " ++ why))⟩
        | .deadlineExceeded => ⟨loop.clock + arrival.elapsed, .returned (.ok progress)⟩
        | .messages batch =>
            ⟨loop.clock + arrival.elapsed,
              if batch.isEmpty then .returned (.ok progress)
              else .fetching (readBatch equalFold query batch progress)⟩
      else ⟨loop.clock, .returned (.ok progress)⟩

/-- What precedes the loop. -/
def Call.opening (call : Call) : Except String Progress :=
  match call.js with
  | none => .error "history: nil JetStream context"
  | some js =>
      if call.clusterID = "" then .error "history: empty clusterID"
      else
        match js.streamError, js.consumerError with
        | some why, _ => .error ("open history stream: " ++ why)
        | none, some why => .error ("history ordered consumer: " ++ why)
        | none, none => .ok ⟨call.query.cursor = [], []⟩

def Call.start (call : Call) : Loop :=
  match call.opening with
  | .error text => ⟨call.opened, .returned (.error text)⟩
  | .ok progress => ⟨call.opened, .fetching progress⟩

def Call.arrivals (call : Call) (count : Nat) : List Arrival := (List.range count).map call.schedule

/-- The loop after `count` turns. -/
def Call.after (call : Call) (count : Nat) : Loop :=
  Library.Runs.run (turn equalFold call.query) call.start (call.arrivals count)

/-- The next turn fetches. -/
def Fetching (query : Query) (loop : Loop) : Prop :=
  ∃ progress, loop.phase = .fetching progress ∧ progress.events.length < query.bound

/-- No fetch starts at or after the deadline, and `Run` returns within one fetch wait of it. -/
structure RespectsDeadline (call : Call) : Prop where
  fetches : ∀ count, Fetching call.query (call.after equalFold count) →
    (call.after equalFold count).clock < call.deadlineAt
  returns : ∃ count outcome, (call.after equalFold count).phase = .returned outcome ∧
    (call.after equalFold count).clock ≤ call.deadlineAt + fetchWait

/-! ## What the schedule brings -/

/-- When fetch number `count` would start. -/
def Call.clockAt (call : Call) : Nat → Nat
  | 0 => call.opened
  | count + 1 => call.clockAt count + (call.schedule count).elapsed

/-- The messages of the first fetches. -/
def Call.records (call : Call) (count : Nat) : List Record :=
  (call.arrivals count).flatMap Arrival.messages

/-- Fetch number `count` brings nothing, or what has come by then fills the page. -/
def Call.Ends (call : Call) (count : Nat) : Prop :=
  (call.schedule count).messages = [] ∨
    call.query.bound ≤
      (remaining equalFold call.query (call.query.cursor = []) (call.records (count + 1))).length

/-- The consumer cannot be opened, or a fetch that the schedule starts before the deadline
ends the loop. -/
def Call.StopsInTime (call : Call) : Prop :=
  (∃ text, call.opening = .error text) ∨
    ∃ count, call.clockAt count < call.deadlineAt ∧ call.Ends equalFold count

variable {equalFold}

theorem arrivals_succ (call : Call) (count : Nat) :
    call.arrivals (count + 1) = call.arrivals count ++ [call.schedule count] := by
  rw [Call.arrivals, List.range_succ, List.map_append]
  rfl

theorem records_succ (call : Call) (count : Nat) :
    call.records (count + 1) = call.records count ++ (call.schedule count).messages := by
  rw [Call.records, arrivals_succ, List.flatMap_append, List.flatMap_singleton]
  rfl

theorem after_succ (call : Call) (count : Nat) :
    call.after equalFold (count + 1) =
      turn equalFold call.query (call.after equalFold count) (call.schedule count) := by
  rw [Call.after, arrivals_succ, run_append]
  rfl

/-! ## One turn -/

theorem turn_room (query : Query) (loop : Loop) (arrival : Arrival) (progress : Progress)
    (phase : loop.phase = .fetching progress) (room : progress.events.length < query.bound) :
    (turn equalFold query loop arrival).clock = loop.clock + arrival.elapsed ∧
      ((arrival.messages = [] ∧
          ∃ outcome, (turn equalFold query loop arrival).phase = .returned outcome) ∨
        (arrival.messages ≠ [] ∧ (turn equalFold query loop arrival).phase =
          .fetching (readBatch equalFold query arrival.messages progress))) := by
  rw [turn, phase]
  dsimp only
  rw [if_pos room, Arrival.messages]
  cases arrival.fetched with
  | failed why => exact ⟨rfl, Or.inl ⟨rfl, _, rfl⟩⟩
  | deadlineExceeded => exact ⟨rfl, Or.inl ⟨rfl, _, rfl⟩⟩
  | messages batch =>
      cases batch with
      | nil => exact ⟨rfl, Or.inl ⟨rfl, _, rfl⟩⟩
      | cons message batch => exact ⟨rfl, Or.inr ⟨List.cons_ne_nil _ _, rfl⟩⟩

variable (equalFold) in
/-- A loop that does not fetch again is about to return. -/
theorem turn_idle (query : Query) (loop : Loop) (arrival : Arrival)
    (idle : ¬Fetching query loop) :
    (turn equalFold query loop arrival).clock = loop.clock ∧
      ∃ outcome, (turn equalFold query loop arrival).phase = .returned outcome := by
  rw [turn]
  cases phase : loop.phase with
  | returned outcome => exact ⟨rfl, outcome, phase⟩
  | fetching progress =>
      have full : ¬progress.events.length < query.bound :=
        fun room => idle ⟨progress, phase, room⟩
      dsimp only
      rw [if_neg full]
      exact ⟨rfl, _, rfl⟩

theorem returned_not_fetching (query : Query) (loop : Loop) (outcome : Except String Progress)
    (returned : loop.phase = .returned outcome) : ¬Fetching query loop := by
  rintro ⟨progress, phase, -⟩
  rw [returned] at phase
  cases phase

/-! ## The loop along the schedule -/

theorem opening_ok (call : Call) (progress : Progress) (opened : call.opening = .ok progress) :
    progress = ⟨call.query.cursor = [], []⟩ := by
  unfold Call.opening at opened
  split at opened
  · cases opened
  · split at opened
    · cases opened
    · split at opened
      · cases opened
      · cases opened
      · exact (Except.ok.inj opened).symm

/-- What the loop has read when it comes to fetch number `count`. -/
def Call.readSoFar (equalFold : String → String → Bool) (call : Call) (count : Nat) : Progress :=
  readBatch equalFold call.query (call.records count) ⟨call.query.cursor = [], []⟩

theorem read_so_far_room (call : Call) (count : Nat) :
    (call.readSoFar equalFold count).events.length < call.query.bound ↔
      (remaining equalFold call.query (call.query.cursor = []) (call.records count)).length <
        call.query.bound := by
  have read := read_batch_events equalFold call.query (call.records count)
    ⟨call.query.cursor = [], []⟩ (bound_positive call.query)
  rw [Call.readSoFar, read, List.nil_append, List.length_take]
  dsimp only
  omega

theorem read_so_far_succ (call : Call) (count : Nat)
    (room : (call.readSoFar equalFold count).events.length < call.query.bound) :
    readBatch equalFold call.query (call.schedule count).messages
        (call.readSoFar equalFold count) = call.readSoFar equalFold (count + 1) := by
  have first := bound_positive call.query
  have split := read_batch_append equalFold call.query (call.records count)
    (call.schedule count).messages ⟨call.query.cursor = [], []⟩ first
  rw [← records_succ] at split
  exact (split.trans (if_pos room)).symm

/-- As long as no fetch has ended it, the loop is at the schedule's next fetch. -/
theorem performed_state (call : Call) (progress : Progress)
    (opened : call.opening = .ok progress) (count : Nat)
    (performed : Performed (call.Ends equalFold) count) :
    call.after equalFold count =
        ⟨call.clockAt count, .fetching (call.readSoFar equalFold count)⟩ ∧
      (call.readSoFar equalFold count).events.length < call.query.bound := by
  induction count with
  | zero =>
      have begun : call.after equalFold 0 = ⟨call.opened, .fetching progress⟩ := by
        rw [Call.after, Call.arrivals]
        simp only [Library.Runs.run, List.range_zero, List.map_nil, List.foldl_nil, Call.start,
          opened]
      rw [begun, opening_ok call progress opened]
      exact ⟨rfl, bound_positive call.query⟩
  | succ count ih =>
      obtain ⟨earlier, goesOn⟩ := (performed_succ count).1 performed
      obtain ⟨state, room⟩ := ih earlier
      rw [Call.Ends, not_or, Nat.not_le] at goesOn
      obtain ⟨clock, ⟨nothing, -⟩ | ⟨-, phase⟩⟩ := turn_room call.query
        ⟨call.clockAt count, .fetching (call.readSoFar equalFold count)⟩ (call.schedule count)
        _ rfl room
      · exact absurd nothing goesOn.1
      · rw [read_so_far_succ call count room] at phase
        rw [after_succ, state]
        refine ⟨?_, (read_so_far_room call (count + 1)).2 goesOn.2⟩
        exact congrArg₂ Loop.mk clock phase

/-- The fetch that ends the loop is its last. -/
theorem ended_idle (call : Call) (progress : Progress) (opened : call.opening = .ok progress)
    (count : Nat) (performed : Performed (call.Ends equalFold) count)
    (ends : call.Ends equalFold count) :
    (call.after equalFold (count + 1)).clock = call.clockAt (count + 1) ∧
      ¬Fetching call.query (call.after equalFold (count + 1)) := by
  obtain ⟨state, room⟩ := performed_state call progress opened count performed
  obtain ⟨clock, outcome⟩ := turn_room call.query
    ⟨call.clockAt count, .fetching (call.readSoFar equalFold count)⟩ (call.schedule count)
    _ rfl room
  rw [after_succ, state]
  refine ⟨clock, ?_⟩
  rcases outcome with ⟨-, outcome, returned⟩ | ⟨brought, phase⟩
  · exact returned_not_fetching call.query _ outcome returned
  · rintro ⟨next, sameNext, roomLeft⟩
    rw [read_so_far_succ call count room] at phase
    rw [phase] at sameNext
    cases sameNext
    rw [read_so_far_room] at roomLeft
    rcases ends with nothing | filled
    · exact brought nothing
    · omega

theorem fetching_iff_performed (call : Call) (progress : Progress)
    (opened : call.opening = .ok progress) (count : Nat) :
    Fetching call.query (call.after equalFold count) ↔
      Performed (call.Ends equalFold) count := by
  constructor
  · intro fetching
    induction count with
    | zero => exact performed_zero _
    | succ count ih =>
        have before : Fetching call.query (call.after equalFold count) := by
          by_contra idle
          obtain ⟨-, outcome, returned⟩ := turn_idle equalFold call.query _
            (call.schedule count) idle
          rw [after_succ] at fetching
          exact returned_not_fetching call.query _ outcome returned fetching
        have performed := ih before
        refine (performed_succ count).2 ⟨performed, ?_⟩
        intro ends
        exact (ended_idle call progress opened count performed ends).2 fetching
  · intro performed
    obtain ⟨state, room⟩ := performed_state call progress opened count performed
    rw [state]
    exact ⟨_, rfl, room⟩

theorem returns_in_time (call : Call) (progress : Progress)
    (opened : call.opening = .ok progress) (count : Nat)
    (before : call.clockAt count < call.deadlineAt)
    (performed : Performed (call.Ends equalFold) count) (ends : call.Ends equalFold count) :
    ∃ turns outcome, (call.after equalFold turns).phase = .returned outcome ∧
      (call.after equalFold turns).clock ≤ call.deadlineAt + fetchWait := by
  obtain ⟨clock, idle⟩ := ended_idle call progress opened count performed ends
  obtain ⟨sameClock, outcome, returned⟩ := turn_idle equalFold call.query _
    (call.schedule (count + 1)) idle
  refine ⟨count + 2, outcome, ?_, ?_⟩
  · rw [after_succ]
    exact returned
  · have wait := (call.schedule count).bounded
    rw [after_succ, sameClock, clock, Call.clockAt]
    omega

theorem unopened_after (call : Call) (text : String) (failed : call.opening = .error text)
    (count : Nat) :
    call.after equalFold count = ⟨call.opened, .returned (.error text)⟩ := by
  apply run_invariant (turn equalFold call.query)
    (fun loop => loop = ⟨call.opened, .returned (.error text)⟩)
  · rintro loop arrival rfl
    rfl
  · rw [Call.start, failed]

theorem opened_in_time (call : Call) : call.opened ≤ call.deadlineAt := by
  have bounded := call.inTime
  rw [Call.deadlineAt]
  cases given : call.deadline with
  | none => exact Nat.le_add_right _ _
  | some deadline => exact bounded deadline given

variable (equalFold) in
/-- A query keeps its deadline exactly when something other than the deadline stops it in
time. -/
theorem deadline_respected_iff (call : Call) :
    RespectsDeadline equalFold call ↔ call.StopsInTime equalFold := by
  cases opened : call.opening with
  | error text =>
      have atOnce : ∀ count, call.after equalFold count =
          ⟨call.opened, .returned (.error text)⟩ :=
        unopened_after call text opened
      have bound : call.opened ≤ call.deadlineAt := opened_in_time call
      refine iff_of_true ⟨?_, 0, .error text, ?_, ?_⟩ (Or.inl ⟨text, opened⟩)
      · intro count fetching
        rw [atOnce] at fetching
        exact absurd fetching (returned_not_fetching call.query _ _ rfl)
      · rw [atOnce]
      · rw [atOnce]
        exact Nat.le_add_right_of_le bound
  | ok progress =>
      have advances : ∀ count, call.clockAt count < call.clockAt (count + 1) := by
        intro count
        exact Nat.lt_add_of_pos_right (call.schedule count).positive
      have inTime : (∀ count, Fetching call.query (call.after equalFold count) →
          (call.after equalFold count).clock < call.deadlineAt) ↔
            ∃ count, call.clockAt count < call.deadlineAt ∧ call.Ends equalFold count := by
        rw [← performed_before_iff call.deadlineAt advances]
        apply forall_congr'
        intro count
        rw [fetching_iff_performed call progress opened]
        apply imp_congr_right
        intro performed
        rw [(performed_state call progress opened count performed).1]
      have opens : ¬∃ text, call.opening = .error text := by
        rintro ⟨text, failed⟩
        rw [opened] at failed
        cases failed
      rw [Call.StopsInTime, or_iff_right opens, ← inTime]
      constructor
      · exact RespectsDeadline.fetches
      · intro fetches
        obtain ⟨count, before, ends⟩ := inTime.1 fetches
        obtain ⟨last, reached, performed, endsLast⟩ := stopping_action count ends
        have monotone : Monotone call.clockAt := (strictMono_nat_of_lt_succ advances).monotone
        exact ⟨fetches, returns_in_time call progress opened last
          (Nat.lt_of_le_of_lt (monotone reached) before) performed endsLast⟩

/-! ## The untimed model -/

variable (equalFold) in
theorem returned_stays (query : Query) (loop : Loop) (outcome : Except String Progress)
    (arrivals : List Arrival) (returned : loop.phase = .returned outcome) :
    (Library.Runs.run (turn equalFold query) loop arrivals).phase = .returned outcome := by
  apply run_invariant (turn equalFold query) (fun loop => loop.phase = .returned outcome)
  · intro now arrival still
    rw [turn, still]
    exact still
  · exact returned

/-- One turn is one unfolding of `fetchLoop`, whatever is fetched after it. -/
theorem turn_fetch_loop (query : Query) (arrival : Arrival) (loop : Loop) (progress : Progress)
    (rest : List Fetched) (phase : loop.phase = .fetching progress) :
    (turn equalFold query loop arrival).phase =
        .returned (fetchLoop equalFold query (arrival.fetched :: rest) progress) ∨
      ∃ next, (turn equalFold query loop arrival).phase = .fetching next ∧
        fetchLoop equalFold query (arrival.fetched :: rest) progress =
          fetchLoop equalFold query rest next := by
  rw [turn, phase]
  by_cases room : progress.events.length < query.bound
  · cases arrival.fetched with
    | failed why =>
        left
        simp only [fetchLoop, if_pos room]
    | deadlineExceeded =>
        left
        simp only [fetchLoop, if_pos room]
    | messages batch =>
        by_cases empty : batch.isEmpty = true
        · left
          simp only [fetchLoop, if_pos room, if_pos empty]
        · right
          refine ⟨readBatch equalFold query batch progress, ?_, ?_⟩
          · simp only [if_pos room, if_neg empty]
          · rw [fetchLoop, if_pos room, if_neg empty]
  · left
    cases arrival.fetched <;> simp only [fetchLoop, if_neg room]

/-- The clock aside, the loop is the one of `fetchLoop`. -/
theorem turns_fetch_loop (query : Query) (arrivals : List Arrival) (loop : Loop)
    (progress : Progress) (outcome : Except String Progress)
    (phase : loop.phase = .fetching progress)
    (ended : (Library.Runs.run (turn equalFold query) loop arrivals).phase = .returned outcome) :
    fetchLoop equalFold query (arrivals.map (fun arrival => arrival.fetched)) progress =
      outcome := by
  induction arrivals generalizing loop progress with
  | nil =>
      have still : loop.phase = .returned outcome := ended
      rw [phase] at still
      cases still
  | cons arrival arrivals ih =>
      have unfolded : Library.Runs.run (turn equalFold query) loop (arrival :: arrivals) =
          Library.Runs.run (turn equalFold query) (turn equalFold query loop arrival) arrivals :=
        rfl
      rw [unfolded] at ended
      rw [List.map_cons]
      rcases turn_fetch_loop query arrival loop progress
        (arrivals.map (fun arrival => arrival.fetched)) phase with
        returned | ⟨next, fetching, same⟩
      · have kept := returned_stays equalFold query _ _ arrivals returned
        rw [ended] at kept
        exact (Phase.returned.inj kept).symm
      · rw [same]
        exact ih _ next fetching ended

variable (equalFold) in
/-- `Run` is its opening and then its loop. -/
theorem run_opening (call : Call) (fetches : List Fetched) :
    Queries.run equalFold (call.js.map (fun js => { js with fetches := fetches }))
        call.clusterID call.query =
      match call.opening with
      | .error text => .error text
      | .ok progress => (fetchLoop equalFold call.query fetches progress).map
          (fun progress => resultOf call.query progress.events) := by
  unfold Queries.run Call.opening
  cases call.js with
  | none => rfl
  | some js =>
      dsimp only [Option.map_some]
      split
      · rfl
      · cases js.streamError with
        | some why => rfl
        | none =>
            cases js.consumerError with
            | some why => rfl
            | none => rfl

/-- When the timed loop has returned, `Run` returns the same on the fetches made so far. -/
theorem returned_is_run (call : Call) (count : Nat) (outcome : Except String Progress)
    (ended : (call.after equalFold count).phase = .returned outcome) :
    Queries.run equalFold (call.js.map (fun js =>
        { js with fetches := (call.arrivals count).map (fun arrival => arrival.fetched) }))
        call.clusterID call.query =
      outcome.map (fun progress => resultOf call.query progress.events) := by
  have opening := run_opening equalFold call
    ((call.arrivals count).map (fun arrival => arrival.fetched))
  rw [opening]
  cases opened : call.opening with
  | error text =>
      rw [unopened_after call text opened count] at ended
      cases ended
      rfl
  | ok progress =>
      have begun : call.start.phase = .fetching progress := by
        rw [Call.start, opened]
      have read := turns_fetch_loop call.query (call.arrivals count) call.start progress outcome
        begun ended
      exact congrArg (fun result => result.map
        (fun progress => resultOf call.query progress.events)) read

end Turning

/-! ## A busy stream -/

/-- Ten times a second another node's record arrives. -/
def busyArrival : Arrival where
  fetched := .messages [sampleRecord "01z" "state_transition" "node-b" 1]
  elapsed := 100000000
  positive := by decide
  bounded := by decide

/-- A query for the records of one quiet node, with the default timeout. -/
def busyCall : Call where
  js := some sampleJetStream
  clusterID := "prod"
  query := { sampleQuery with nodes := ["node-a"] }
  deadline := none
  opened := 0
  schedule := fun _ => busyArrival
  inTime := fun _ given => nomatch given

theorem busy_records_unmatched (count : Nat) :
    remaining (fun left right => left = right) busyCall.query true (busyCall.records count) =
      [] := by
  induction count with
  | zero => rfl
  | succ count ih =>
      have both : ∀ left right : List Record,
          remaining (fun left right => left = right) busyCall.query true (left ++ right) =
            remaining (fun left right => left = right) busyCall.query true left ++
              remaining (fun left right => left = right) busyCall.query true right := by
        intro left right
        simp [remaining, timely]
      rw [records_succ, both, ih]
      rfl

theorem busy_clock (count : Nat) : busyCall.clockAt count = count * 100000000 := by
  induction count with
  | zero => rfl
  | succ count ih => rw [Call.clockAt, ih, Nat.succ_mul]; rfl

theorem busy_never_ends (count : Nat) :
    ¬busyCall.Ends (fun left right => left = right) count := by
  rintro (nothing | filled)
  · cases nothing
  · have unmatched : remaining (fun left right => left = right) busyCall.query
        (busyCall.query.cursor = []) (busyCall.records (count + 1)) = [] :=
      busy_records_unmatched (count + 1)
    rw [unmatched] at filled
    exact absurd filled (by decide)

/-- A fetch starts when the fifteen seconds are over, as all others did before, and more
follow. -/
theorem busy_stream_outlasts_deadline :
    (∀ count, Fetching busyCall.query (busyCall.after (fun left right => left = right) count)) ∧
      (busyCall.after (fun left right => left = right) 150).clock = busyCall.deadlineAt ∧
      ¬RespectsDeadline (fun left right => left = right) busyCall := by
  have opened : busyCall.opening = .ok ⟨true, []⟩ := rfl
  have performed : ∀ count, Performed (busyCall.Ends (fun left right => left = right)) count :=
    fun count earlier _ => busy_never_ends earlier
  have fetching : ∀ count,
      Fetching busyCall.query (busyCall.after (fun left right => left = right) count) :=
    fun count => (fetching_iff_performed busyCall _ opened count).2 (performed count)
  have late : (busyCall.after (fun left right => left = right) 150).clock =
      busyCall.deadlineAt := by
    rw [(performed_state busyCall _ opened 150 (performed 150)).1]
    exact busy_clock 150
  refine ⟨fetching, late, ?_⟩
  intro respects
  have before := respects.fetches 150 (fetching 150)
  rw [late] at before
  exact Nat.lt_irrefl _ before

end PgmanProxy.History.QueryDeadline
