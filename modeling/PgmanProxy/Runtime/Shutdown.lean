import Mathlib.Data.List.Basic

/-!
# Draining the process

`Drain` runs the stop steps in order under one deadline and folds what they
return into an exit code. Times are nanoseconds of a clock; a step may do
anything, including to overrun. An error is known by its text and by the
sentinels that `errors.Is` finds in its chain.
-/

namespace PgmanProxy.Runtime.Shutdown

set_option autoImplicit false

/-! ## Errors and contexts -/

inductive Sentinel where
  | drainDegraded
  | canceled
  | deadlineExceeded
deriving DecidableEq, Repr

structure Err where
  text : String
  wraps : List Sentinel
deriving DecidableEq, Repr

/-- `errors.Is` -/
def Err.is (err : Err) (sentinel : Sentinel) : Bool := sentinel ∈ err.wraps

/-- Neither degraded nor a context error. -/
def Err.ordinary (err : Err) : Bool :=
  !err.is .drainDegraded && !err.is .canceled && !err.is .deadlineExceeded

structure Ctx where
  now : Int
  deadline : Option Int
deriving DecidableEq, Repr

/-- The deadline of a derived context: the earlier of the two. -/
def earlier (parent : Option Int) (deadline : Int) : Int :=
  match parent with
  | none => deadline
  | some inherited => min inherited deadline

def errDeadlineExceeded : Err := ⟨"context deadline exceeded", [.deadlineExceeded]⟩

/-! ## Exit codes -/

def exitOK : Int := 0
def exitSingleton : Int := 77
def exitDrainTimeout : Int := 79
def exitInternal : Int := 80

structure DrainResult where
  duration : Int
  timedOut : Bool
  stopErrors : List Err
deriving DecidableEq, Repr

def DrainResult.exitCode (result : DrainResult) : Int :=
  if result.stopErrors.length > 0 then exitInternal
  else if result.timedOut then exitDrainTimeout
  else exitOK

/-! ## The drain -/

/-- A stop function's return: when, and with which error. -/
structure Ran where
  finished : Int
  err : Option Err
deriving DecidableEq, Repr

structure DrainStep where
  name : String
  stop : Ctx → Ran

inductive Line where
  | drainTimeout (step : String) (index : Nat)
  | stepDegraded (step error : String)
  | stepError (step error : String)
  | complete (durationMS : Int)
deriving DecidableEq, Repr

/-- The loop's variables. -/
structure Loop where
  now : Int
  timedOut : Bool
  stopErrors : List Err
  log : List Line
deriving DecidableEq, Repr

/-- What the loop does with a step's return. -/
def Loop.record (loop : Loop) (name : String) (err : Option Err) : Loop :=
  match err with
  | none => loop
  | some err =>
      if err.is .drainDegraded then
        { loop with timedOut := true, log := loop.log ++ [.stepDegraded name err.text] }
      else if !err.is .canceled && !err.is .deadlineExceeded then
        { loop with
          stopErrors := loop.stopErrors ++ [err]
          log := loop.log ++ [.stepError name err.text] }
      else loop

section Draining

variable (parent : Option Int) (deadline : Int)

def stepCtx (now : Int) : Ctx := ⟨now, some (earlier parent deadline)⟩

def drainLoop : Nat → List DrainStep → Loop → Loop
  | _, [], loop => loop
  | index, step :: steps, loop =>
      if deadline - loop.now ≤ 0 then
        { loop with timedOut := true, log := loop.log ++ [.drainTimeout step.name index] }
      else
        let ran := step.stop (stepCtx parent deadline loop.now)
        drainLoop (index + 1) steps ({ loop with now := ran.finished }.record step.name ran.err)

/-- What became of a step of the list. -/
inductive Fate where
  | notStarted
  | returned (err : Option Err)
deriving DecidableEq, Repr

/-- The fates of the steps of a list that is reached at `now`. -/
def fates : List DrainStep → Int → List Fate
  | [], _ => []
  | step :: steps, now =>
      if deadline - now ≤ 0 then .notStarted :: steps.map (fun _ => .notStarted)
      else
        let ran := step.stop (stepCtx parent deadline now)
        .returned ran.err :: fates steps ran.finished

/-- When the loop has got through a list of steps, if it does. -/
def reached : List DrainStep → Int → Option Int
  | [], now => some now
  | step :: steps, now =>
      if deadline - now ≤ 0 then none
      else reached steps (step.stop (stepCtx parent deadline now)).finished

end Draining

def drain (parent : Option Int) (start budget : Int) (steps : List DrainStep) :
    DrainResult × List Line :=
  let loop := drainLoop parent (start + budget) 0 steps ⟨start, false, [], []⟩
  let duration := loop.now - start
  let log :=
    if !loop.timedOut && loop.stopErrors.length = 0 then
      loop.log ++ [.complete (duration.tdiv 1000000)]
    else loop.log
  (⟨duration, loop.timedOut, loop.stopErrors⟩, log)

def drainExit (parent : Option Int) (start budget : Int) (steps : List DrainStep) : Int :=
  (drain parent start budget steps).1.exitCode

/-! ## The exit code is read off the fates -/

/-- The step was not reached, or forced its way through. -/
def Fate.forced : Fate → Bool
  | .notStarted => true
  | .returned none => false
  | .returned (some err) => err.is .drainDegraded

/-- The ordinary error of the step, if it returned one. -/
def Fate.failure : Fate → Option Err
  | .returned (some err) => if err.ordinary then some err else none
  | _ => none

theorem record_now (loop : Loop) (name : String) (err : Option Err) :
    (loop.record name err).now = loop.now := by
  unfold Loop.record
  cases err with
  | none => rfl
  | some err =>
      simp only
      split
      · rfl
      · split <;> rfl

theorem record_timed_out (loop : Loop) (name : String) (err : Option Err) :
    (loop.record name err).timedOut = (loop.timedOut || (Fate.returned err).forced) := by
  unfold Loop.record
  cases err with
  | none => simp [Fate.forced]
  | some err =>
      cases degraded : err.is .drainDegraded with
      | true => simp [Fate.forced, degraded]
      | false =>
          simp only [Fate.forced, degraded, Bool.or_false]
          split
          · cases ‹false = true›
          · split <;> rfl

theorem record_stop_errors (loop : Loop) (name : String) (err : Option Err) :
    (loop.record name err).stopErrors =
      loop.stopErrors ++ (Fate.returned err).failure.toList := by
  unfold Loop.record
  cases err with
  | none => simp [Fate.failure]
  | some err =>
      cases degraded : err.is .drainDegraded with
      | true => simp [Fate.failure, Err.ordinary, degraded]
      | false =>
          by_cases plain : (!err.is .canceled && !err.is .deadlineExceeded) = true
          · simp [Fate.failure, Err.ordinary, degraded, plain]
          · simp [Fate.failure, Err.ordinary, degraded, plain]

section Codes

variable (parent : Option Int) (deadline : Int)

theorem drain_loop_timed_out (index : Nat) (steps : List DrainStep) (loop : Loop) :
    (drainLoop parent deadline index steps loop).timedOut =
      (loop.timedOut || (fates parent deadline steps loop.now).any Fate.forced) := by
  induction steps generalizing index loop with
  | nil => simp [drainLoop, fates]
  | cons step steps ih =>
      by_cases late : deadline - loop.now ≤ 0
      · simp [drainLoop, fates, late, Fate.forced]
      · simp only [drainLoop, fates, late, if_false, List.any_cons]
        rw [ih, record_timed_out, record_now, Bool.or_assoc]

theorem drain_loop_stop_errors (index : Nat) (steps : List DrainStep) (loop : Loop) :
    (drainLoop parent deadline index steps loop).stopErrors =
      loop.stopErrors ++ (fates parent deadline steps loop.now).filterMap Fate.failure := by
  induction steps generalizing index loop with
  | nil => simp [drainLoop, fates]
  | cons step steps ih =>
      by_cases late : deadline - loop.now ≤ 0
      · simp [drainLoop, fates, late, Fate.failure]
      · simp only [drainLoop, fates, late, if_false]
        rw [ih, record_stop_errors, record_now, List.append_assoc]
        cases failed : (Fate.returned (step.stop (stepCtx parent deadline loop.now)).err).failure with
        | none => simp [failed]
        | some err => simp [failed]

/-- An ordinary error anywhere decides; after that a forced or unreached step does. -/
theorem drain_exit_code (start budget : Int) (steps : List DrainStep) :
    drainExit parent start budget steps =
      if (fates parent (start + budget) steps start).any (fun fate => fate.failure.isSome) then
        exitInternal
      else if (fates parent (start + budget) steps start).any Fate.forced then exitDrainTimeout
      else exitOK := by
  have errors := drain_loop_stop_errors parent (start + budget) 0 steps ⟨start, false, [], []⟩
  have forced := drain_loop_timed_out parent (start + budget) 0 steps ⟨start, false, [], []⟩
  simp only [List.nil_append, Bool.false_or] at errors forced
  simp only [drainExit, drain, DrainResult.exitCode, errors, forced]
  have some : ((fates parent (start + budget) steps start).filterMap Fate.failure).length > 0 ↔
      (fates parent (start + budget) steps start).any (fun fate => fate.failure.isSome) = true := by
    rw [gt_iff_lt, List.length_pos_iff_exists_mem, List.any_eq_true]
    simp only [List.mem_filterMap, Option.isSome_iff_exists]
    constructor
    · intro ⟨err, fate, member, failed⟩
      exact ⟨fate, member, err, failed⟩
    · intro ⟨fate, member, err, failed⟩
      exact ⟨err, fate, member, failed⟩
  simp only [some]

/-- A step in the middle of the list runs where the ones before it have left the clock, or is
not reached. -/
theorem middle_fate (before after : List DrainStep) (step : DrainStep) (start : Int) :
    (∃ now, reached parent deadline before start = some now ∧ 0 < deadline - now ∧
        .returned (step.stop (stepCtx parent deadline now)).err ∈
          fates parent deadline (before ++ step :: after) start) ∨
      (∀ now, reached parent deadline before start = some now → deadline - now ≤ 0) ∧
        .notStarted ∈ fates parent deadline (before ++ step :: after) start := by
  induction before generalizing start with
  | nil =>
      by_cases late : deadline - start ≤ 0
      · right
        refine ⟨?_, by simp [fates, late]⟩
        intro now here
        cases here
        exact late
      · left
        refine ⟨start, rfl, by omega, ?_⟩
        simp [fates, late]
  | cons first before ih =>
      by_cases late : deadline - start ≤ 0
      · right
        exact ⟨by simp [reached, late], by simp [fates, late]⟩
      · simp only [List.cons_append, fates, reached, late, if_false, List.mem_cons]
        rcases ih (first.stop (stepCtx parent deadline start)).finished with
          ⟨now, here, inTime, member⟩ | ⟨never, member⟩
        · exact .inl ⟨now, here, inTime, .inr member⟩
        · exact .inr ⟨never, .inr member⟩

theorem exit_internal_of_ordinary (start budget : Int) (steps : List DrainStep) (err : Err)
    (member : .returned (some err) ∈ fates parent (start + budget) steps start)
    (ordinary : err.ordinary = true) : drainExit parent start budget steps = exitInternal := by
  rw [drain_exit_code]
  have failed : (fates parent (start + budget) steps start).any
      (fun fate => fate.failure.isSome) = true := by
    rw [List.any_eq_true]
    exact ⟨_, member, by simp [Fate.failure, ordinary]⟩
  rw [if_pos failed]

theorem exit_of_forced (start budget : Int) (steps : List DrainStep) (fate : Fate)
    (member : fate ∈ fates parent (start + budget) steps start) (forced : fate.forced = true) :
    drainExit parent start budget steps = exitDrainTimeout ∨
      drainExit parent start budget steps = exitInternal := by
  have some : (fates parent (start + budget) steps start).any Fate.forced = true := by
    rw [List.any_eq_true]
    exact ⟨fate, member, forced⟩
  rw [drain_exit_code, if_pos some]
  split
  · exact .inr rfl
  · exact .inl rfl

theorem clean_exit_fates (start budget : Int) (steps : List DrainStep)
    (clean : drainExit parent start budget steps = exitOK) (fate : Fate)
    (member : fate ∈ fates parent (start + budget) steps start) :
    fate.forced = false ∧ ∀ err, fate = .returned (some err) → err.ordinary = false := by
  constructor
  · by_contra forced
    rw [Bool.not_eq_false] at forced
    rcases exit_of_forced parent start budget steps fate member forced with code | code
    · rw [clean] at code
      exact absurd code (by decide)
    · rw [clean] at code
      exact absurd code (by decide)
  · intro err same
    by_contra ordinary
    rw [Bool.not_eq_false] at ordinary
    subst same
    have code := exit_internal_of_ordinary parent start budget steps err member ordinary
    rw [clean] at code
    exact absurd code (by decide)

end Codes

/-! ## Honesty of the code -/

/-- A clean code means that every step ran and none failed, was forced or ran out of time; a
step that ran out of time shows, unless an ordinary error takes precedence. -/
def HonestExit (fates : List Fate) (code : Int) : Prop :=
  (code = exitOK → ∀ fate ∈ fates, ∃ result, fate = .returned result ∧
      ∀ err, result = some err → err.ordinary = false ∧ err.is .drainDegraded = false ∧
        err.is .deadlineExceeded = false) ∧
    ((∃ err, .returned (some err) ∈ fates ∧ err.is .deadlineExceeded = true) →
      (∀ err, .returned (some err) ∈ fates → err.ordinary = false) → code = exitDrainTimeout)

/-- Besides a step that runs out of time, some step is not reached within the budget or returns
a degraded or an ordinary error. -/
def DeadlineNoticed (fates : List Fate) : Prop :=
  (∃ err, .returned (some err) ∈ fates ∧ err.is .deadlineExceeded = true) →
    .notStarted ∈ fates ∨
      ∃ err, .returned (some err) ∈ fates ∧ (err.is .drainDegraded = true ∨ err.ordinary = true)

theorem any_failure_iff (fates : List Fate) :
    fates.any (fun fate => fate.failure.isSome) = true ↔
      ∃ err, .returned (some err) ∈ fates ∧ err.ordinary = true := by
  rw [List.any_eq_true]
  constructor
  · intro ⟨fate, member, failed⟩
    cases fate with
    | notStarted => cases failed
    | returned result =>
        cases result with
        | none => cases failed
        | some err =>
            refine ⟨err, member, ?_⟩
            by_contra plain
            simp [Fate.failure, plain] at failed
  · intro ⟨err, member, plain⟩
    exact ⟨.returned (some err), member, by simp [Fate.failure, plain]⟩

theorem any_forced_iff (fates : List Fate) :
    fates.any Fate.forced = true ↔
      .notStarted ∈ fates ∨
        ∃ err, .returned (some err) ∈ fates ∧ err.is .drainDegraded = true := by
  rw [List.any_eq_true]
  constructor
  · intro ⟨fate, member, forced⟩
    cases fate with
    | notStarted => exact .inl member
    | returned result =>
        cases result with
        | none => cases forced
        | some err => exact .inr ⟨err, member, forced⟩
  · intro found
    rcases found with member | ⟨err, member, degraded⟩
    · exact ⟨.notStarted, member, rfl⟩
    · exact ⟨.returned (some err), member, degraded⟩

/-- With nothing failed and nothing forced the code is clean, which is honest only if nothing
ran out of time. -/
theorem honest_clean_iff (fates : List Fate)
    (plain : ¬ ∃ err, .returned (some err) ∈ fates ∧ err.ordinary = true)
    (smooth : ¬ (.notStarted ∈ fates ∨
      ∃ err, .returned (some err) ∈ fates ∧ err.is .drainDegraded = true)) :
    HonestExit fates exitOK ↔
      ¬ ∃ err, .returned (some err) ∈ fates ∧ err.is .deadlineExceeded = true := by
  constructor
  · intro honest overran
    have none : ∀ err, .returned (some err) ∈ fates → err.ordinary = false := by
      intro err member
      by_contra ordinary
      rw [Bool.not_eq_false] at ordinary
      exact plain ⟨err, member, ordinary⟩
    exact absurd (honest.2 overran none) (by decide)
  · intro inTime
    refine ⟨?_, fun overran => absurd overran inTime⟩
    intro _ fate member
    cases fate with
    | notStarted => exact absurd (.inl member) smooth
    | returned result =>
        refine ⟨result, rfl, ?_⟩
        intro err same
        subst same
        refine ⟨?_, ?_, ?_⟩
        · by_contra ordinary
          exact plain ⟨err, member, by simpa using ordinary⟩
        · by_contra degraded
          exact smooth (.inr ⟨err, member, by simpa using degraded⟩)
        · by_contra overran
          exact inTime ⟨err, member, by simpa using overran⟩

/-- Whatever the steps do, the exit code is honest exactly if a step that runs out of time is
not the only sign of trouble. -/
theorem drain_exit_honest_iff (parent : Option Int) (start budget : Int)
    (steps : List DrainStep) :
    HonestExit (fates parent (start + budget) steps start) (drainExit parent start budget steps) ↔
      DeadlineNoticed (fates parent (start + budget) steps start) := by
  rw [drain_exit_code]
  generalize fates parent (start + budget) steps start = found
  by_cases failed : found.any (fun fate => fate.failure.isSome) = true
  · rw [if_pos failed]
    rw [any_failure_iff] at failed
    obtain ⟨err, member, ordinary⟩ := failed
    constructor
    · intro _ _
      exact .inr ⟨err, member, .inr ordinary⟩
    · intro _
      refine ⟨fun clean => absurd clean (by decide), fun _ plain => ?_⟩
      rw [plain err member] at ordinary
      cases ordinary
  · rw [if_neg failed]
    rw [any_failure_iff] at failed
    by_cases forced : found.any Fate.forced = true
    · rw [if_pos forced]
      rw [any_forced_iff] at forced
      constructor
      · intro _ _
        rcases forced with unreached | ⟨err, member, degraded⟩
        · exact .inl unreached
        · exact .inr ⟨err, member, .inl degraded⟩
      · intro _
        exact ⟨fun clean => absurd clean (by decide), fun _ _ => rfl⟩
    · rw [if_neg forced]
      rw [any_forced_iff] at forced
      rw [honest_clean_iff found failed forced]
      constructor
      · intro inTime overran
        exact absurd overran inTime
      · intro noticed overran
        rcases noticed overran with unreached | ⟨err, member, degraded | ordinary⟩
        · exact forced (.inl unreached)
        · exact forced (.inr ⟨err, member, degraded⟩)
        · exact failed ⟨err, member, ordinary⟩

/-! ## The embedded server's step -/

/-- The embedded NATS server at shutdown: already stopped or never started, or stopping at
`doneAt` once asked. -/
structure EmbeddedServer where
  stopped : Bool
  started : Bool
  doneAt : Int
deriving DecidableEq, Repr

/-- `Server.Shutdown` -/
def EmbeddedServer.shutdown (server : EmbeddedServer) (ctx : Ctx) : Ran :=
  if server.stopped || !server.started then ⟨ctx.now, none⟩
  else
    match ctx.deadline with
    | none => ⟨server.doneAt, none⟩
    | some deadline =>
        if server.doneAt < deadline then ⟨server.doneAt, none⟩
        else
          ⟨deadline, some ⟨"embedded NATS shutdown timeout: " ++ errDeadlineExceeded.text,
            errDeadlineExceeded.wraps⟩⟩

def embeddedStep (server : EmbeddedServer) : DrainStep := ⟨"embedded-nats", server.shutdown⟩

def quickStep (name : String) : DrainStep := ⟨name, fun ctx => ⟨ctx.now, none⟩⟩

/-- The last step is the embedded server's; when it does not stop within the budget nobody is
left to notice, and the process reports a clean exit. -/
theorem last_step_timeout_unnoticed :
    drainExit none 0 10 [quickStep "cluster", embeddedStep ⟨false, true, 11⟩] = exitOK ∧
      ¬ HonestExit (fates none 10 [quickStep "cluster", embeddedStep ⟨false, true, 11⟩] 0)
        (drainExit none 0 10 [quickStep "cluster", embeddedStep ⟨false, true, 11⟩]) := by
  refine ⟨by decide, ?_⟩
  intro honest
  have late : Fate.returned (some ⟨"embedded NATS shutdown timeout: context deadline exceeded",
      [.deadlineExceeded]⟩) ∈
        fates none 10 [quickStep "cluster", embeddedStep ⟨false, true, 11⟩] 0 := by decide
  obtain ⟨result, same, clean⟩ := honest.1 (by decide) _ late
  cases same
  exact absurd (clean _ rfl).2.2 (by decide)

end PgmanProxy.Runtime.Shutdown
