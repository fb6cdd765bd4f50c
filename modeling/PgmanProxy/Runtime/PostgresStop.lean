import PgmanProxy.Library.GoStrings
import PgmanProxy.Runtime.Shutdown

/-!
# Stopping Postgres within the drain

The stop step asks for a fast shutdown within its share of the budget and
escalates to an immediate one. Its error tells `Drain` apart the two bad
endings: a forced stop is degraded, a Postgres that is still running is an
ordinary error, whatever context error the stops came back with.
-/

namespace PgmanProxy.Runtime.PostgresStop

open PgmanProxy.Library.GoStrings
open PgmanProxy.Runtime.Shutdown

set_option autoImplicit false

inductive StopMode where
  | fast
  | immediate
deriving DecidableEq, Repr

/-- `postgresStopper`; a running-check takes time like everything else. -/
structure PostgresStopper where
  isRunning : Ctx → Int × Except Err Bool
  stop : Ctx → StopMode → Ran

def postgresStopTailReserve : Int := 3000000000
def postgresStopImmediateWindow : Int := 2000000000
def postgresStopFastFloor : Int := 1000000000

def fastStopWindow (ctx : Ctx) : Option Int :=
  ctx.deadline.map (fun deadline =>
    max (deadline - ctx.now - postgresStopImmediateWindow - postgresStopTailReserve)
      postgresStopFastFloor)

def Ctx.withTimeout (ctx : Ctx) (timeout : Int) : Ctx :=
  { ctx with deadline := some (earlier ctx.deadline (ctx.now + timeout)) }

/-- The context of the fast stop, asked for once the running-check is back. -/
def fastCtx (pg : PostgresStopper) (ctx : Ctx) : Ctx :=
  let asking : Ctx := { ctx with now := (pg.isRunning ctx).1 }
  match fastStopWindow asking with
  | none => asking
  | some window => Ctx.withTimeout asking window

def immCtx (pg : PostgresStopper) (ctx : Ctx) : Ctx :=
  Ctx.withTimeout { ctx with now := (pg.stop (fastCtx pg ctx) .fast).finished }
    postgresStopImmediateWindow

/-- An error that wraps `ErrDrainDegraded` and only quotes the fast stop's. -/
def escalatedErr (fastErr : Err) : Err :=
  ⟨"drain step degraded: postgres fast shutdown escalated to immediate: " ++ fastErr.text,
    [.drainDegraded]⟩

/-- Both texts are quoted: a wrapped context error would make `Drain` ignore a Postgres that is
still running. -/
def stillRunningErr (fastErr immErr : Err) : Err :=
  ⟨"postgres stop: fast: " ++ fastErr.text ++ "; immediate: " ++ immErr.text, []⟩

def stopPostgres (pg : PostgresStopper) (ctx : Ctx) : Ran :=
  match (pg.isRunning ctx).2 with
  | .ok false => ⟨(pg.isRunning ctx).1, none⟩
  -- an error of the running-check means unknown and takes the stop path too
  | _ =>
      let fast := pg.stop (fastCtx pg ctx) .fast
      match fast.err with
      | none => ⟨fast.finished, none⟩
      | some fastErr =>
          let immediate := pg.stop (immCtx pg ctx) .immediate
          match immediate.err with
          | none => ⟨immediate.finished, some (escalatedErr fastErr)⟩
          | some immErr => ⟨immediate.finished, some (stillRunningErr fastErr immErr)⟩

/-- The calls of `Stop` that it makes. -/
def stopCalls (pg : PostgresStopper) (ctx : Ctx) : List (Ctx × StopMode) :=
  match (pg.isRunning ctx).2 with
  | .ok false => []
  | _ =>
      (fastCtx pg ctx, .fast) ::
        if (pg.stop (fastCtx pg ctx) .fast).err.isSome then [(immCtx pg ctx, .immediate)] else []

/-- Nothing but the running-check and these calls decides what it returns. -/
theorem stop_calls_decide (pg other : PostgresStopper) (ctx : Ctx)
    (sameCheck : other.isRunning ctx = pg.isRunning ctx)
    (sameCalls : ∀ call ∈ stopCalls pg ctx, other.stop call.1 call.2 = pg.stop call.1 call.2) :
    stopPostgres other ctx = stopPostgres pg ctx := by
  have sameFast : fastCtx other ctx = fastCtx pg ctx := by
    simp only [fastCtx, sameCheck]
  unfold stopPostgres stopCalls at *
  rw [sameCheck, sameFast]
  split at sameCalls
  · rfl
  · rename_i running
    rw [List.forall_mem_cons] at sameCalls
    have sameImm : immCtx other ctx = immCtx pg ctx := by
      simp only [immCtx, sameFast, sameCalls.1]
    rw [sameCalls.1, sameImm]
    cases fast : (pg.stop (fastCtx pg ctx) .fast).err with
    | none => simp only [fast]
    | some fastErr =>
        have same := sameCalls.2 (immCtx pg ctx, .immediate) (by simp [fast])
        simp only [fast, same]

def postgresStep (pg : PostgresStopper) : DrainStep := ⟨"postgres", stopPostgres pg⟩

/-! ## The process around it -/

def isSingletonError (err : Option Err) : Bool :=
  match err with
  | none => false
  | some err => contains "singleton" err.text

/-- The exit code of `main`: the drain's only counts when the manager ended cleanly. -/
def processExit (managerErr : Option Err) (drainCode : Int) : Int :=
  let exitCode :=
    match managerErr with
    | none => exitOK
    | some _ => if isSingletonError managerErr then exitSingleton else exitInternal
  if drainCode ≠ exitOK ∧ exitCode = exitOK then drainCode else exitCode

/-- What startup has built, as far as shutdown stops it. -/
structure StartupResult where
  control : Option (Ctx → Ran)
  fanout : Option (Ctx → Ran)
  leaderRouteResponder : Option (Ctx → Ran)
  obsSrv : Option (Ctx → Ran)
  manager : Option (Ctx → Ran)
  postgres : Option PostgresStopper
  eventSub : List (Ctx → Ran)
  signalStopping : Ctx → Int
  closeCluster : Option (Ctx → Int)
  embedded : Option EmbeddedServer

def optionalStep (name : String) (stop : Option (Ctx → Ran)) : List DrainStep :=
  stop.toList.map (fun run => ⟨name, run⟩)

/-- The steps before the one that stops Postgres. -/
def stepsBeforePostgres (res : StartupResult) : List DrainStep :=
  optionalStep "control" res.control ++ optionalStep "fanout" res.fanout ++
    optionalStep "leader-route-responder" res.leaderRouteResponder ++
    optionalStep "obs" res.obsSrv ++ optionalStep "manager" res.manager

/-- The steps after it; the cluster step releases the lease. -/
def stepsAfterPostgres (res : StartupResult) : List DrainStep :=
  res.eventSub.map (fun run => ⟨"event-subscription", run⟩) ++
    res.embedded.toList.map (fun _ =>
      ⟨"embedded-pre-stop", fun ctx => ⟨res.signalStopping ctx, none⟩⟩) ++
    res.closeCluster.toList.map (fun close => ⟨"cluster", fun ctx => ⟨close ctx, none⟩⟩) ++
    res.embedded.toList.map embeddedStep

def buildShutdownSteps (res : StartupResult) (withPostgres : Bool) : List DrainStep :=
  stepsBeforePostgres res ++
    (if withPostgres then res.postgres.toList.map postgresStep else []) ++
    stepsAfterPostgres res

/-! ## What the step returns -/

section Returns

variable (pg : PostgresStopper) (ctx : Ctx)

theorem stop_postgres_clean (clean : (stopPostgres pg ctx).err = none) :
    (pg.isRunning ctx).2 = .ok false ∨ (pg.stop (fastCtx pg ctx) .fast).err = none := by
  unfold stopPostgres at clean
  split at clean
  · rename_i stopped
    exact .inl stopped
  · right
    cases fast : (pg.stop (fastCtx pg ctx) .fast).err with
    | none => rfl
    | some fastErr =>
        simp only [fast] at clean
        split at clean <;> cases clean

theorem stop_postgres_escalated (running : (pg.isRunning ctx).2 ≠ .ok false) (fastErr : Err)
    (fast : (pg.stop (fastCtx pg ctx) .fast).err = some fastErr)
    (immediate : (pg.stop (immCtx pg ctx) .immediate).err = none) :
    (stopPostgres pg ctx).err = some (escalatedErr fastErr) := by
  unfold stopPostgres
  split
  · rename_i stopped
    exact absurd stopped running
  · simp [fast, immediate]

theorem stop_postgres_failed (running : (pg.isRunning ctx).2 ≠ .ok false) (fastErr immErr : Err)
    (fast : (pg.stop (fastCtx pg ctx) .fast).err = some fastErr)
    (immediate : (pg.stop (immCtx pg ctx) .immediate).err = some immErr) :
    (stopPostgres pg ctx).err = some (stillRunningErr fastErr immErr) := by
  unfold stopPostgres
  split
  · rename_i stopped
    exact absurd stopped running
  · simp [fast, immediate]

/-- Not clean without an error, and every error counts against a clean exit. -/
theorem stop_postgres_err (err : Err) (returned : (stopPostgres pg ctx).err = some err) :
    err.is .drainDegraded = true ∨ err.ordinary = true := by
  unfold stopPostgres at returned
  split at returned
  · cases returned
  · simp only at returned
    split at returned
    · cases returned
    · split at returned
      · cases returned
        exact .inl rfl
      · cases returned
        exact .inr rfl

end Returns

/-! ## What the process reports -/

theorem process_exit_cases (managerErr : Option Err) (ours : isSingletonError managerErr = false)
    (drainCode : Int) :
    processExit managerErr drainCode = drainCode ∨
      processExit managerErr drainCode = exitInternal := by
  cases managerErr with
  | none =>
      left
      by_cases clean : drainCode = exitOK
      · simp [processExit, clean]
      · simp [processExit, clean]
  | some err =>
      right
      have settled : ¬ exitInternal = exitOK := by decide
      simp [processExit, ours, settled]

/-- The step after `before` gets to run, in this context. -/
def RunsIn (parent : Option Int) (deadline : Int) (before : List DrainStep) (start : Int)
    (ctx : Ctx) : Prop :=
  ∃ now, reached parent deadline before start = some now ∧ 0 < deadline - now ∧
    ctx = stepCtx parent deadline now

theorem runs_in_fate (parent : Option Int) (deadline : Int) (before after : List DrainStep)
    (step : DrainStep) (start : Int) (ctx : Ctx)
    (runs : RunsIn parent deadline before start ctx) :
    .returned (step.stop ctx).err ∈ fates parent deadline (before ++ step :: after) start := by
  obtain ⟨now, here, inTime, rfl⟩ := runs
  rcases middle_fate parent deadline before after step start with
    ⟨other, there, _, member⟩ | ⟨never, _⟩
  · rw [here, Option.some.injEq] at there
    rw [there]
    exact member
  · exact absurd (never now here) (by omega)

theorem postgres_fate (parent : Option Int) (deadline : Int) (before after : List DrainStep)
    (pg : PostgresStopper) (start : Int) (ctx : Ctx)
    (runs : RunsIn parent deadline before start ctx)
    (err : Err) (returned : (stopPostgres pg ctx).err = some err) :
    .returned (some err) ∈ fates parent deadline (before ++ postgresStep pg :: after) start := by
  have member := runs_in_fate parent deadline before after (postgresStep pg) start ctx runs
  have same : ((postgresStep pg).stop ctx).err = some err := returned
  rw [same] at member
  exact member

/-- A clean drain has run the Postgres step, and the step returned no error. -/
theorem clean_drain_stops_postgres (parent : Option Int) (start budget : Int)
    (before after : List DrainStep) (pg : PostgresStopper)
    (clean : drainExit parent start budget (before ++ postgresStep pg :: after) = exitOK) :
    ∃ ctx, RunsIn parent (start + budget) before start ctx ∧ (stopPostgres pg ctx).err = none := by
  have smooth := clean_exit_fates parent start budget _ clean
  rcases middle_fate parent (start + budget) before after (postgresStep pg) start with
    ⟨now, here, inTime, _⟩ | ⟨_, member⟩
  · have runs : RunsIn parent (start + budget) before start (stepCtx parent (start + budget) now) :=
      ⟨now, here, inTime, rfl⟩
    refine ⟨stepCtx parent (start + budget) now, runs, ?_⟩
    cases returned : (stopPostgres pg (stepCtx parent (start + budget) now)).err with
    | none => rfl
    | some err =>
        obtain ⟨unforced, plain⟩ := smooth _ (postgres_fate _ _ _ after pg _ _ runs err returned)
        rcases stop_postgres_err pg _ err returned with degraded | ordinary
        · have forced : (Fate.returned (some err)).forced = true := degraded
          rw [forced] at unforced
          cases unforced
        · rw [plain err rfl] at ordinary
          cases ordinary
  · exact absurd (smooth _ member).1 (by decide)

/-- Wherever the Postgres step stands in the list and whatever the other steps and the stopper
do, the exit code of a process that stops its Postgres tells how that went. -/
theorem postgres_stop_truthful (parent : Option Int) (start budget : Int)
    (before after : List DrainStep) (pg : PostgresStopper) (managerErr : Option Err)
    (ours : isSingletonError managerErr = false) :
    (processExit managerErr
          (drainExit parent start budget (before ++ postgresStep pg :: after)) = exitOK →
        ∃ ctx, RunsIn parent (start + budget) before start ctx ∧
          ((pg.isRunning ctx).2 = .ok false ∨ (pg.stop (fastCtx pg ctx) .fast).err = none)) ∧
      ∀ ctx, RunsIn parent (start + budget) before start ctx →
        (pg.isRunning ctx).2 ≠ .ok false → (pg.stop (fastCtx pg ctx) .fast).err ≠ none →
        ((pg.stop (immCtx pg ctx) .immediate).err = none →
            processExit managerErr
                (drainExit parent start budget (before ++ postgresStep pg :: after)) =
              exitDrainTimeout ∨
            processExit managerErr
                (drainExit parent start budget (before ++ postgresStep pg :: after)) =
              exitInternal) ∧
          ((pg.stop (immCtx pg ctx) .immediate).err ≠ none →
            processExit managerErr
                (drainExit parent start budget (before ++ postgresStep pg :: after)) =
              exitInternal) := by
  have process := process_exit_cases managerErr ours
    (drainExit parent start budget (before ++ postgresStep pg :: after))
  constructor
  · intro clean
    have drained : drainExit parent start budget (before ++ postgresStep pg :: after) = exitOK := by
      rcases process with same | internal
      · rw [← same]
        exact clean
      · rw [internal] at clean
        exact absurd clean (by decide)
    obtain ⟨ctx, runs, returned⟩ := clean_drain_stops_postgres _ _ _ _ _ _ drained
    exact ⟨ctx, runs, stop_postgres_clean pg ctx returned⟩
  · intro ctx runs running fastFailed
    obtain ⟨fastErr, fast⟩ := Option.ne_none_iff_exists'.mp fastFailed
    constructor
    · intro immediate
      have returned := stop_postgres_escalated pg ctx running fastErr fast immediate
      have member := postgres_fate _ _ _ after pg _ _ runs _ returned
      rcases process with same | internal
      · rw [same]
        exact exit_of_forced parent start budget _ _ member rfl
      · exact .inr internal
    · intro failed
      obtain ⟨immErr, immediate⟩ := Option.ne_none_iff_exists'.mp failed
      have returned := stop_postgres_failed pg ctx running fastErr immErr fast immediate
      have member := postgres_fate _ _ _ after pg _ _ runs _ returned
      rcases process with same | internal
      · rw [same]
        exact exit_internal_of_ordinary parent start budget _ _ member rfl
      · exact internal

/-- Neither stop comes back before its deadline. -/
def stuckPostgres : PostgresStopper where
  isRunning := fun ctx => (ctx.now, .ok true)
  stop := fun ctx _ => ⟨ctx.deadline.getD ctx.now, some errDeadlineExceeded⟩

theorem stuck_postgres_internal :
    processExit none (drainExit none 0 20000000000
      ([quickStep "manager"] ++ postgresStep stuckPostgres :: [quickStep "cluster"])) =
        exitInternal :=
  ((postgres_stop_truthful none 0 20000000000 [quickStep "manager"] [quickStep "cluster"]
    stuckPostgres none rfl).2 ⟨0, some 20000000000⟩ ⟨0, by decide, by decide, by decide⟩
    (by decide) (by decide)).2 (by decide)

/-! ## What the stop leaves of the budget -/

/-- The budget left at a time; past the deadline there is none. -/
def budgetLeft (deadline now : Int) : Int := max 0 (deadline - now)

/-- The call is back by the deadline of its context, or at once if that has passed. -/
def InTime (ctx : Ctx) (ran : Ran) : Prop :=
  ∀ deadline, ctx.deadline = some deadline → ran.finished ≤ max ctx.now deadline

section Budget

variable (pg : PostgresStopper) (ctx : Ctx) (deadline : Int)
variable (bounded : ctx.deadline = some deadline)

/-- The deadline of the fast stop. -/
def fastDeadline (asked : Int) : Int :=
  min deadline (asked + max (deadline - asked - postgresStopImmediateWindow -
    postgresStopTailReserve) postgresStopFastFloor)

include bounded in
theorem fast_ctx_bounded :
    fastCtx pg ctx = ⟨(pg.isRunning ctx).1, some (fastDeadline deadline (pg.isRunning ctx).1)⟩ := by
  simp only [fastCtx, fastStopWindow, bounded, Option.map_some, Ctx.withTimeout, earlier,
    fastDeadline]

include bounded in
theorem imm_ctx_bounded :
    immCtx pg ctx = ⟨(pg.stop (fastCtx pg ctx) .fast).finished,
      some (min deadline ((pg.stop (fastCtx pg ctx) .fast).finished +
        postgresStopImmediateWindow))⟩ := by
  simp only [immCtx, bounded, Ctx.withTimeout, earlier]

/-- The step returns when the fast stop does, or the immediate one after it. -/
theorem stop_postgres_finished (running : (pg.isRunning ctx).2 ≠ .ok false) :
    (stopPostgres pg ctx).finished = (pg.stop (fastCtx pg ctx) .fast).finished ∨
      (pg.stop (fastCtx pg ctx) .fast).err ≠ none ∧
        (stopPostgres pg ctx).finished = (pg.stop (immCtx pg ctx) .immediate).finished := by
  unfold stopPostgres
  split
  · rename_i stopped
    exact absurd stopped running
  · cases fast : (pg.stop (fastCtx pg ctx) .fast).err with
    | none =>
        left
        simp only [fast]
    | some fastErr =>
        right
        refine ⟨Option.some_ne_none fastErr, ?_⟩
        cases immediate : (pg.stop (immCtx pg ctx) .immediate).err <;>
          simp only [fast, immediate]

include bounded in
/-- However the two stops use their contexts, the fast one is called with its second, or all there
is, and three seconds are left behind the step, or all but three. -/
theorem stop_leaves_lease_time (running : (pg.isRunning ctx).2 ≠ .ok false)
    (fastInTime : InTime (fastCtx pg ctx) (pg.stop (fastCtx pg ctx) .fast))
    (immInTime : (pg.stop (fastCtx pg ctx) .fast).err ≠ none →
      InTime (immCtx pg ctx) (pg.stop (immCtx pg ctx) .immediate)) :
    let remaining := budgetLeft deadline (pg.isRunning ctx).1
    (∃ call granted later, stopCalls pg ctx = (call, .fast) :: later ∧
        call.now = (pg.isRunning ctx).1 ∧ call.deadline = some granted ∧
        min 1000000000 remaining ≤ budgetLeft granted call.now) ∧
      max 0 (min 3000000000 (remaining - 3000000000)) ≤
        budgetLeft deadline (stopPostgres pg ctx).finished := by
  have fast := fast_ctx_bounded pg ctx deadline bounded
  have fastBack := fastInTime (fastDeadline deadline (pg.isRunning ctx).1) (by rw [fast])
  have asked : (fastCtx pg ctx).now = (pg.isRunning ctx).1 := by rw [fast]
  rw [asked] at fastBack
  intro remaining
  constructor
  · have called : ∃ later, stopCalls pg ctx = (fastCtx pg ctx, .fast) :: later := by
      unfold stopCalls
      split
      · rename_i stopped
        exact absurd stopped running
      · exact ⟨_, rfl⟩
    rcases called with ⟨later, first⟩
    refine ⟨fastCtx pg ctx, fastDeadline deadline (pg.isRunning ctx).1, later, first, asked,
      by rw [fast], ?_⟩
    rw [asked]
    simp only [remaining, budgetLeft, fastDeadline, postgresStopImmediateWindow,
      postgresStopTailReserve, postgresStopFastFloor]
    omega
  · simp only [remaining, budgetLeft, fastDeadline, postgresStopImmediateWindow,
      postgresStopTailReserve, postgresStopFastFloor] at fastBack ⊢
    rcases stop_postgres_finished pg ctx running with direct | ⟨failed, escalated⟩
    · rw [direct]
      omega
    · have imm := imm_ctx_bounded pg ctx deadline bounded
      have immBack := immInTime failed _ (by rw [imm])
      have started : (immCtx pg ctx).now = (pg.stop (fastCtx pg ctx) .fast).finished := by
        rw [imm]
      rw [started] at immBack
      rw [escalated]
      simp only [postgresStopImmediateWindow] at immBack
      omega

end Budget

/-- Twenty seconds, all used: the fast stop gets fifteen and three are left. -/
theorem stuck_postgres_leaves_three :
    (∃ call granted later,
        stopCalls stuckPostgres ⟨0, some 20000000000⟩ = (call, .fast) :: later ∧
          call.now = 0 ∧ call.deadline = some granted ∧ 1000000000 ≤ budgetLeft granted 0) ∧
      3000000000 ≤
        budgetLeft 20000000000 (stopPostgres stuckPostgres ⟨0, some 20000000000⟩).finished := by
  have inTime : ∀ ctx mode, InTime ctx (stuckPostgres.stop ctx mode) := by
    intro ctx mode deadline bounded
    simp only [stuckPostgres, bounded, Option.getD_some]
    exact le_max_right _ _
  have held := stop_leaves_lease_time stuckPostgres ⟨0, some 20000000000⟩ 20000000000 rfl
    (by decide) (inTime _ _) (fun _ => inTime _ _)
  rcases held.1 with ⟨call, granted, later, first, asked, bounded, second⟩
  refine ⟨⟨call, granted, later, first, asked, bounded, ?_⟩, held.2⟩
  rw [asked] at second
  exact second

end PgmanProxy.Runtime.PostgresStop
