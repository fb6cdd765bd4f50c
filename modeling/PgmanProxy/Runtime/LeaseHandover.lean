import PgmanProxy.Embedded.StorageMonitor
import PgmanProxy.Library.Runs
import PgmanProxy.Runtime.PostgresStop

/-!
# Who may take the leadership lease, and when it is let go

Every process runs a lease loop from the moment its cluster handles are built until they
are closed. The loop renews a lease it holds and contests a free one when the campaign
gate lets it. The handles are closed by the drain's cluster step, by the storage monitor's
fence, or when building them fails halfway. A lease whose holder is gone lapses; that it
lapses on a live holder, for want of a quorum, is not excluded either. The processes
interleave in any order, and the history of the lease is kept with the process as it was at
each change.
-/

namespace PgmanProxy.Runtime.LeaseHandover

open PgmanProxy.Library.Runs PgmanProxy.Embedded.StorageMonitor
open PgmanProxy.Runtime.Shutdown PgmanProxy.Runtime.PostgresStop

set_option autoImplicit false

/-! ## The gate -/

/-- `classified` is pg-manager's answer about the directory: whether it is complete. -/
def pgdataComplete (dataDir : String) (classified : Except String Bool) : Except String Bool :=
  if dataDir = "" then .ok false else classified

inductive GateLine where
  | deferral (reason dataDir : String) (error : Option String)
  | released (dataDir : String)
deriving DecidableEq, Repr

structure BootWindowGate where
  dataDir : String
  logged : String
  lines : List GateLine
deriving DecidableEq, Repr

def newBootWindowGate (dataDir : String) : BootWindowGate := ⟨dataDir, "", []⟩

def deferralReason (complete : Except String Bool) : String :=
  match complete with
  | .error _ => "pgdata_unreadable"
  | .ok false => "pgdata_empty"
  | .ok true => ""

def gateLine (dataDir : String) (complete : Except String Bool) : GateLine :=
  match complete with
  | .error err => .deferral (deferralReason complete) dataDir (some err)
  | .ok false => .deferral (deferralReason complete) dataDir none
  | .ok true => .released dataDir

def BootWindowGate.allow (gate : BootWindowGate) (classified : Except String Bool) :
    BootWindowGate × Bool :=
  let complete := pgdataComplete gate.dataDir classified
  let reason := deferralReason complete
  let gate :=
    if reason ≠ gate.logged then
      { gate with logged := reason, lines := gate.lines ++ [gateLine gate.dataDir complete] }
    else gate
  (gate, reason = "")

theorem allow_iff (gate : BootWindowGate) (classified : Except String Bool) :
    (gate.allow classified).2 = true ↔ pgdataComplete gate.dataDir classified = .ok true := by
  unfold BootWindowGate.allow
  rcases pgdataComplete gate.dataDir classified with err | complete
  · simp [deferralReason]
  · cases complete <;> simp [deferralReason]

theorem allow_data_dir (gate : BootWindowGate) (classified : Except String Bool) :
    (gate.allow classified).1.dataDir = gate.dataDir := by
  unfold BootWindowGate.allow
  dsimp only
  split <;> rfl

/-- `manager` is the manager's `ShouldCampaign`, once there is a manager. The gate of the boot
window is asked only where its answer counts. -/
def campaignGate (stopping : Bool) (manager : Option Bool) (gate : BootWindowGate)
    (classified : Except String Bool) : BootWindowGate × Bool :=
  if stopping then (gate, false)
  else
    match manager with
    | some should => (gate, should)
    | none => gate.allow classified

/-! ## A process -/

inductive LeaseLoop where
  | unopened
  | open
  | closed
deriving DecidableEq, Repr

/-- Why a process drains. -/
inductive Ending where
  | startFailed
  | managerReturned (err : Option Err)

/-- The drain has a step that stops Postgres. -/
def Ending.stopPostgres : Ending → Bool
  | .startFailed => false
  | .managerReturned err => !isSingletonError err

inductive Phase where
  | starting
  | running (res : StartupResult)
  | draining (res : StartupResult) (ending : Ending) (left : List DrainStep) (now deadline : Int)
  /-- the budget ran out before the last step -/
  | cutShort

structure Proc where
  alive : Bool
  /-- `ctx.Err() != nil` -/
  cancelled : Bool
  lease : LeaseLoop
  /-- `res.Cluster` is set -/
  built : Bool
  /-- `mgrRef` is set -/
  manager : Bool
  phase : Phase
  gate : BootWindowGate
  monitor : Monitor
  /-- what the stops of Postgres have returned -/
  stops : List Ran

def Proc.fresh (dataDir : String) : Proc :=
  ⟨true, false, .unopened, false, false, .starting, newBootWindowGate dataDir, .fresh, []⟩

/-- What the outside lets a process do next. -/
inductive Input where
  | leadershipOpened
  /-- `BuildHandles` fails behind `NewLeadership` -/
  | buildFailed
  | handlesBuilt
  | managerPublished
  | startFailed (res : StartupResult) (now budget : Int)
  | started (res : StartupResult)
  /-- a signal, or an operator's restart -/
  | shutdown
  | managerReturned (err : Option Err) (now budget : Int)
  /-- one round of the loop of `Drain` -/
  | drainRound
  | poll (opts : StorageMonitorOptions) (disk : Disk)
  /-- a turn of the lease loop, which looks for a free lease -/
  | campaign (classified : Except String Bool) (should : Bool)
  | gone

/-- What a process does to the lease. -/
inductive Act where
  | nothing
  | acquire (classified : Except String Bool) (should : Bool)
  | close

def Proc.campaign (proc : Proc) (classified : Except String Bool) (should : Bool) : Proc × Bool :=
  let decision :=
    campaignGate proc.cancelled (if proc.manager then some should else none) proc.gate classified
  ({ proc with gate := decision.1 }, decision.2)

def Proc.drainRound (proc : Proc) : Proc × Act :=
  match proc.phase with
  | .draining res ending (step :: left) now deadline =>
      if deadline - now ≤ 0 then ({ proc with phase := .cutShort }, .nothing)
      else
        let ran := step.stop (stepCtx none deadline now)
        ({ proc with
            phase := .draining res ending left ran.finished deadline
            stops := proc.stops ++ if step.name = "postgres" then [ran] else []
            lease := if step.name = "cluster" then .closed else proc.lease },
          if step.name = "cluster" then .close else .nothing)
  | _ => (proc, .nothing)

/-- What startup has built so far is what it leaves in its result. -/
def Proc.agrees (proc : Proc) (res : StartupResult) : Prop :=
  res.closeCluster.isSome = proc.built ∧ (proc.manager = true → res.postgres.isSome = true)

instance (proc : Proc) (res : StartupResult) : Decidable (proc.agrees res) :=
  inferInstanceAs (Decidable (_ ∧ _))

def Proc.next (proc : Proc) (free : Bool) : Input → Proc × Act
  | .leadershipOpened =>
      match proc.phase, proc.lease with
      | .starting, .unopened => ({ proc with lease := .open }, .nothing)
      | _, _ => (proc, .nothing)
  | .buildFailed =>
      match proc.phase, proc.lease, proc.built with
      | .starting, .open, false => ({ proc with lease := .closed }, .close)
      | _, _, _ => (proc, .nothing)
  | .handlesBuilt =>
      match proc.phase, proc.lease with
      | .starting, .open => ({ proc with built := true }, .nothing)
      | _, _ => (proc, .nothing)
  | .managerPublished =>
      match proc.phase, proc.built with
      | .starting, true => ({ proc with manager := true }, .nothing)
      | _, _ => (proc, .nothing)
  | .startFailed res now budget =>
      match proc.phase with
      | .starting =>
          -- a failed build has closed what it had opened
          if proc.agrees res ∧ (proc.lease = .open → proc.built = true) then
            ({ proc with
                phase := .draining res .startFailed (buildShutdownSteps res false) now
                  (now + budget) },
              .nothing)
          else (proc, .nothing)
      | _ => (proc, .nothing)
  | .started res =>
      match proc.phase with
      | .starting =>
          if proc.agrees res ∧ proc.manager = true then
            ({ proc with phase := .running res }, .nothing)
          else (proc, .nothing)
      | _ => (proc, .nothing)
  | .shutdown => ({ proc with cancelled := true }, .nothing)
  | .managerReturned err now budget =>
      match proc.phase with
      | .running res =>
          let ending := Ending.managerReturned err
          ({ proc with
              cancelled := true
              phase := .draining res ending (buildShutdownSteps res ending.stopPostgres) now
                (now + budget) },
            .nothing)
      | _ => (proc, .nothing)
  | .drainRound => proc.drainRound
  | .poll opts disk =>
      if proc.built ∧ (check opts disk).isSome ∧ proc.monitor.tripped = false then
        ({ proc with monitor := proc.monitor.poll opts disk, lease := .closed }, .close)
      else (proc, .nothing)
  | .campaign classified should =>
      match proc.lease, free with
      | .open, true =>
          let decision := proc.campaign classified should
          (decision.1, if decision.2 then .acquire classified should else .nothing)
      | _, _ => (proc, .nothing)
  | .gone => ({ proc with alive := false }, .nothing)

/-! ## The cluster -/

section Cluster

variable {Node : Type} [DecidableEq Node]

inductive Cause where
  /-- the process has closed its handles -/
  | closed (input : Input)
  /-- the lease ran out -/
  | lapsed

/-- A change of the lease, with the process as it was. -/
inductive Change (Node : Type) where
  | acquired (node : Node) (proc : Proc) (classified : Except String Bool) (should : Bool)
  | lost (node : Node) (proc : Proc) (cause : Cause)

structure Cluster (Node : Type) where
  holder : Option Node
  proc : Node → Proc
  /-- newest first -/
  history : List (Change Node)

def Cluster.cold (dataDir : Node → String) : Cluster Node :=
  ⟨none, fun node => .fresh (dataDir node), []⟩

inductive Event (Node : Type) where
  | turn (node : Node) (input : Input)
  | lapse

def Cluster.lose (cluster : Cluster Node) (node : Node) (proc : Proc) (cause : Cause) :
    Cluster Node :=
  if cluster.holder = some node then
    { cluster with holder := none, history := .lost node proc cause :: cluster.history }
  else cluster

def Cluster.turn (cluster : Cluster Node) (node : Node) (input : Input) : Cluster Node :=
  let proc := cluster.proc node
  if proc.alive then
    let next := proc.next cluster.holder.isNone input
    let moved := { cluster with proc := Function.update cluster.proc node next.1 }
    match next.2 with
    | .nothing => moved
    | .close => moved.lose node proc (.closed input)
    | .acquire classified should =>
        { moved with
          holder := some node
          history := .acquired node proc classified should :: cluster.history }
  else cluster

def step (cluster : Cluster Node) : Event Node → Cluster Node
  | .turn node input => cluster.turn node input
  | .lapse =>
      match cluster.holder with
      | none => cluster
      | some node => cluster.lose node (cluster.proc node) .lapsed

end Cluster

/-! ## The order of the drain's steps -/

/-- A step that stops Postgres comes before the one that closes the handles. -/
def Guarded (pg : PostgresStopper) : List DrainStep → Prop
  | [] => False
  | step :: left =>
      step = postgresStep pg ∨
        step.name ≠ "postgres" ∧ step.name ≠ "cluster" ∧ Guarded pg left

theorem guarded_append (pg : PostgresStopper) (before after : List DrainStep)
    (others : ∀ step ∈ before, step.name ≠ "postgres" ∧ step.name ≠ "cluster") :
    Guarded pg (before ++ postgresStep pg :: after) := by
  induction before with
  | nil => exact .inl rfl
  | cons step before ih =>
      rw [List.forall_mem_cons] at others
      exact .inr ⟨others.1.1, others.1.2, ih others.2⟩

theorem before_postgres_names (res : StartupResult) (step : DrainStep)
    (member : step ∈ stepsBeforePostgres res) :
    step.name ∈ ["control", "fanout", "leader-route-responder", "obs", "manager"] := by
  simp only [stepsBeforePostgres, optionalStep, List.mem_append, List.mem_map] at member
  rcases member with (((⟨_, _, same⟩ | ⟨_, _, same⟩) | ⟨_, _, same⟩) | ⟨_, _, same⟩) | ⟨_, _, same⟩
  all_goals
    subst same
    simp

theorem steps_guarded (res : StartupResult) (pg : PostgresStopper)
    (installed : res.postgres = some pg) : Guarded pg (buildShutdownSteps res true) := by
  have listed : buildShutdownSteps res true =
      stepsBeforePostgres res ++ postgresStep pg :: stepsAfterPostgres res := by
    simp [buildShutdownSteps, installed]
  rw [listed]
  apply guarded_append
  intro step member
  have named := before_postgres_names res step member
  constructor
  · intro same
    rw [same] at named
    exact absurd named (by decide)
  · intro same
    rw [same] at named
    exact absurd named (by decide)

theorem steps_close_cluster (res : StartupResult) (withPostgres : Bool)
    (joined : res.closeCluster.isSome = true) :
    ∃ step ∈ buildShutdownSteps res withPostgres, step.name = "cluster" := by
  rcases Option.isSome_iff_exists.1 joined with ⟨close, found⟩
  refine ⟨⟨"cluster", fun ctx => ⟨close ctx, none⟩⟩, ?_, rfl⟩
  simp [buildShutdownSteps, stepsAfterPostgres, found]

/-! ## Rounds of the drain -/

theorem rounds_cut_short (proc : Proc) (phase : proc.phase = .cutShort) (count : Nat) :
    ((fun proc => proc.drainRound.1)^[count] proc).phase = .cutShort := by
  induction count generalizing proc with
  | zero => exact phase
  | succ count ih =>
      rw [Function.iterate_succ_apply]
      apply ih
      simp only [Proc.drainRound, phase]

/-- Round by round a process gets as far as the drain's loop does, at the same time. -/
theorem rounds_reach (proc : Proc) (res : StartupResult) (ending : Ending)
    (steps : List DrainStep) (start now deadline : Int) (count : Nat)
    (phase : proc.phase = .draining res ending steps start deadline)
    (within : count ≤ steps.length) :
    ((fun proc => proc.drainRound.1)^[count] proc).phase =
        .draining res ending (steps.drop count) now deadline ↔
      reached none deadline (steps.take count) start = some now := by
  induction count generalizing proc steps start with
  | zero =>
      simp only [Function.iterate_zero, id_eq, phase, List.drop_zero, List.take_zero, reached]
      constructor
      · intro same
        cases same
        rfl
      · intro same
        cases same
        rfl
  | succ count ih =>
      cases steps with
      | nil => cases within
      | cons step left =>
          rw [Function.iterate_succ_apply, List.drop_succ_cons, List.take_succ_cons]
          by_cases late : deadline - start ≤ 0
          · have cut : proc.drainRound.1.phase = .cutShort := by
              simp only [Proc.drainRound, phase, if_pos late]
            rw [rounds_cut_short proc.drainRound.1 cut, reached, if_pos late]
            constructor
            · intro impossible
              cases impossible
            · intro impossible
              cases impossible
          · rw [reached, if_neg late]
            apply ih
            · simp only [Proc.drainRound, phase, if_neg late]
            · exact Nat.le_of_succ_le_succ within

/-! ## What a process keeps up -/

/-- Postgres was asked to stop, and that has returned. -/
def Halted (pg : PostgresStopper) (stops : List Ran) : Prop :=
  ∃ ctx, stopPostgres pg ctx ∈ stops

/-- A drain that ends a running process stops Postgres before it closes the handles. -/
structure Draining (res : StartupResult) (ending : Ending) (left : List DrainStep)
    (cancelled : Bool) (lease : LeaseLoop) (stops : List Ran) : Prop where
  cancelled : ∀ err, ending = .managerReturned err → cancelled = true
  closes : lease = .open → ∃ step ∈ left, step.name = "cluster"
  halts : ending.stopPostgres = true →
    ∃ pg, res.postgres = some pg ∧ (Halted pg stops ∨ Guarded pg left)

structure Proc.Sound (proc : Proc) (dataDir : String) : Prop where
  watches : proc.gate.dataDir = dataDir
  manager : proc.manager = true → proc.built = true
  running : ∀ res, proc.phase = .running res →
    res.closeCluster.isSome = true ∧ res.postgres.isSome = true
  draining : ∀ res ending left now deadline,
    proc.phase = .draining res ending left now deadline →
      Draining res ending left proc.cancelled proc.lease proc.stops

theorem sound_fresh (dataDir : String) : (Proc.fresh dataDir).Sound dataDir where
  watches := rfl
  manager := fun impossible => nomatch impossible
  running := fun _ impossible => nomatch impossible
  draining := fun _ _ _ _ _ impossible => nomatch impossible

theorem draining_begins (res : StartupResult) (ending : Ending) (cancelled : Bool)
    (lease : LeaseLoop) (stops : List Ran)
    (ended : ∀ err, ending = .managerReturned err → cancelled = true)
    (joined : lease = .open → res.closeCluster.isSome = true)
    (installed : ending.stopPostgres = true → res.postgres.isSome = true) :
    Draining res ending (buildShutdownSteps res ending.stopPostgres) cancelled lease stops where
  cancelled := ended
  closes := fun isOpen => steps_close_cluster res _ (joined isOpen)
  halts := by
    intro halting
    rcases Option.isSome_iff_exists.1 (installed halting) with ⟨pg, found⟩
    refine ⟨pg, found, .inr ?_⟩
    rw [halting]
    exact steps_guarded res pg found

theorem round_draining (res : StartupResult) (ending : Ending) (step : DrainStep)
    (left : List DrainStep) (cancelled : Bool) (lease : LeaseLoop) (stops : List Ran) (ctx : Ctx)
    (draining : Draining res ending (step :: left) cancelled lease stops) :
    Draining res ending left cancelled (if step.name = "cluster" then .closed else lease)
      (stops ++ if step.name = "postgres" then [step.stop ctx] else []) where
  cancelled := draining.cancelled
  closes := by
    intro isOpen
    by_cases closing : step.name = "cluster"
    · rw [if_pos closing] at isOpen
      cases isOpen
    · rw [if_neg closing] at isOpen
      rcases draining.closes isOpen with ⟨other, member, named⟩
      rcases List.mem_cons.1 member with same | later
      · rw [same] at named
        exact absurd named closing
      · exact ⟨other, later, named⟩
  halts := by
    intro halting
    rcases draining.halts halting with ⟨pg, installed, ⟨earlier, halted⟩ | guarded⟩
    · exact ⟨pg, installed, .inl ⟨earlier, List.mem_append_left _ halted⟩⟩
    · refine ⟨pg, installed, ?_⟩
      rcases guarded with same | ⟨other, -, later⟩
      · subst same
        exact .inl ⟨ctx, List.mem_append_right _ List.mem_cons_self⟩
      · exact .inr later

theorem next_sound (proc : Proc) (free : Bool) (input : Input) (dataDir : String)
    (sound : proc.Sound dataDir) : (proc.next free input).1.Sound dataDir := by
  cases input with
  | leadershipOpened =>
      simp only [Proc.next]
      split
      · rename_i starting unopened
        exact
          { sound with
            draining := by
              intro res ending left now deadline impossible
              simp only [starting] at impossible
              cases impossible }
      · exact sound
  | buildFailed =>
      simp only [Proc.next]
      split
      · rename_i starting opened unbuilt
        exact
          { sound with
            draining := by
              intro res ending left now deadline impossible
              simp only [starting] at impossible
              cases impossible }
      · exact sound
  | handlesBuilt =>
      simp only [Proc.next]
      split
      · exact { sound with manager := fun _ => rfl }
      · exact sound
  | managerPublished =>
      simp only [Proc.next]
      split
      · rename_i starting built
        exact { sound with manager := fun _ => built }
      · exact sound
  | startFailed res now budget =>
      simp only [Proc.next]
      split
      · split
        · rename_i guard
          exact
            { sound with
              running := fun _ impossible => nomatch impossible
              draining := by
                intro other ending left at_ deadline begun
                cases begun
                apply draining_begins res .startFailed
                · intro err impossible
                  cases impossible
                · intro isOpen
                  rw [guard.1.1]
                  exact guard.2 isOpen
                · intro impossible
                  cases impossible }
        · exact sound
      · exact sound
  | started res =>
      simp only [Proc.next]
      split
      · split
        · rename_i guard
          exact
            { sound with
              running := by
                intro other begun
                cases begun
                refine ⟨?_, guard.1.2 guard.2⟩
                rw [guard.1.1]
                exact sound.manager guard.2
              draining := fun _ _ _ _ _ impossible => nomatch impossible }
        · exact sound
      · exact sound
  | shutdown =>
      exact
        { sound with
          draining := by
            intro res ending left now deadline draining
            have kept := sound.draining res ending left now deadline draining
            exact { kept with cancelled := fun _ _ => rfl } }
  | managerReturned err now budget =>
      simp only [Proc.next]
      split
      · rename_i res running
        have built := sound.running res running
        exact
          { sound with
            running := fun _ impossible => nomatch impossible
            draining := by
              intro other ending left at_ deadline begun
              cases begun
              apply draining_begins
              · intro _ _
                rfl
              · intro _
                exact built.1
              · intro _
                exact built.2 }
      · exact sound
  | drainRound =>
      simp only [Proc.next, Proc.drainRound]
      split
      · rename_i res ending step left now deadline phase
        split
        · exact
            { sound with
              running := fun _ impossible => nomatch impossible
              draining := fun _ _ _ _ _ impossible => nomatch impossible }
        · have before := sound.draining res ending (step :: left) now deadline phase
          exact
            { sound with
              running := fun _ impossible => nomatch impossible
              draining := by
                intro _ _ _ _ _ going
                cases going
                exact round_draining res ending step left _ _ _ _ before }
      · exact sound
  | poll opts disk =>
      simp only [Proc.next]
      split
      · exact
          { sound with
            draining := by
              intro res ending left now deadline draining
              have kept := sound.draining res ending left now deadline draining
              exact { kept with closes := fun impossible => nomatch impossible } }
      · exact sound
  | campaign classified should =>
      simp only [Proc.next]
      split
      · have same : (proc.campaign classified should).1.gate.dataDir = proc.gate.dataDir := by
          simp only [Proc.campaign, campaignGate]
          split
          · rfl
          · split
            · rfl
            · exact allow_data_dir proc.gate classified
        exact { sound with watches := same.trans sound.watches }
      · exact sound
  | gone => exact { sound with }

/-! ## What a process does to the lease -/

/-- Nobody has asked the process to stop, and it goes by its manager's word or, before there is a
manager, by a complete database. -/
def Proc.MayCampaign (proc : Proc) (dataDir : String) (classified : Except String Bool)
    (should : Bool) : Prop :=
  proc.cancelled = false ∧
    if proc.manager = true then should = true
    else pgdataComplete dataDir classified = .ok true

theorem campaign_iff (proc : Proc) (classified : Except String Bool) (should : Bool) :
    (proc.campaign classified should).2 = true ↔
      proc.MayCampaign proc.gate.dataDir classified should := by
  unfold Proc.campaign campaignGate Proc.MayCampaign
  cases proc.cancelled with
  | true => simp
  | false =>
      cases proc.manager with
      | true => simp
      | false => simpa using allow_iff proc.gate classified

theorem next_acquires (proc : Proc) (free : Bool) (input : Input)
    (classified : Except String Bool) (should : Bool)
    (acquires : (proc.next free input).2 = .acquire classified should) :
    free = true ∧ proc.lease = .open ∧ (proc.next free input).1.lease = .open ∧
      proc.MayCampaign proc.gate.dataDir classified should := by
  cases input with
  | campaign inspected advice =>
      simp only [Proc.next] at acquires ⊢
      split at acquires
      · rename_i opened
        split at acquires
        · rename_i decided
          cases acquires
          exact ⟨rfl, opened, opened, (campaign_iff proc _ _).1 decided⟩
        · cases acquires
      · cases acquires
  | leadershipOpened | buildFailed | handlesBuilt | managerPublished =>
      simp only [Proc.next] at acquires
      split at acquires <;> cases acquires
  | startFailed res now budget | started res =>
      simp only [Proc.next] at acquires
      split at acquires
      · split at acquires <;> cases acquires
      · cases acquires
  | shutdown | gone => cases acquires
  | managerReturned err now budget =>
      simp only [Proc.next] at acquires
      split at acquires <;> cases acquires
  | drainRound =>
      simp only [Proc.next, Proc.drainRound] at acquires
      split at acquires
      · split at acquires
        · cases acquires
        · dsimp only at acquires
          split at acquires <;> cases acquires
      · cases acquires
  | poll opts disk =>
      simp only [Proc.next] at acquires
      split at acquires <;> cases acquires

/-- The occasions on which a process closes its handles. -/
def Proc.Closes (proc : Proc) : Input → Prop
  | .buildFailed => proc.built = false
  | .poll opts disk => proc.monitor.tripped = false ∧ (check opts disk).isSome = true
  | .drainRound =>
      ∃ res ending left now deadline,
        proc.phase = .draining res ending left now deadline ∧
          (ending.stopPostgres = true → ∃ pg, res.postgres = some pg ∧ Halted pg proc.stops)
  | _ => False

theorem next_closes (proc : Proc) (free : Bool) (input : Input) (dataDir : String)
    (sound : proc.Sound dataDir) (closes : (proc.next free input).2 = .close) :
    (proc.next free input).1.lease = .closed ∧ proc.Closes input := by
  cases input with
  | buildFailed =>
      simp only [Proc.next] at closes ⊢
      split at closes
      · rename_i unbuilt
        exact ⟨rfl, unbuilt⟩
      · cases closes
  | poll opts disk =>
      simp only [Proc.next] at closes ⊢
      split at closes
      · rename_i degraded
        rw [if_pos degraded]
        exact ⟨rfl, degraded.2.2, degraded.2.1⟩
      · cases closes
  | drainRound =>
      simp only [Proc.next, Proc.drainRound] at closes ⊢
      split at closes
      · rename_i res ending step left now deadline phase
        split at closes
        · cases closes
        · rename_i inTime
          dsimp only at closes
          split at closes
          · rename_i named
            have draining := sound.draining res ending (step :: left) now deadline phase
            refine ⟨?_, res, ending, step :: left, now, deadline, phase, ?_⟩
            · rw [if_neg inTime]
              dsimp only
              rw [if_pos named]
            · intro halting
              rcases draining.halts halting with ⟨pg, installed, halted | guarded⟩
              · exact ⟨pg, installed, halted⟩
              · rcases guarded with same | ⟨-, other, -⟩
                · rw [same] at named
                  exact absurd named (by simp [postgresStep])
                · exact absurd named other
          · cases closes
      · cases closes
  | leadershipOpened | handlesBuilt | managerPublished =>
      simp only [Proc.next] at closes
      split at closes <;> cases closes
  | startFailed res now budget | started res =>
      simp only [Proc.next] at closes
      split at closes
      · split at closes <;> cases closes
      · cases closes
  | shutdown | gone => cases closes
  | managerReturned err now budget =>
      simp only [Proc.next] at closes
      split at closes <;> cases closes
  | campaign classified should =>
      simp only [Proc.next] at closes
      split at closes
      · split at closes <;> cases closes
      · cases closes

/-- Without closing them, nothing shuts an open lease loop. -/
theorem next_stays_open (proc : Proc) (free : Bool) (input : Input) (opened : proc.lease = .open)
    (keeps : (proc.next free input).2 = .nothing) : (proc.next free input).1.lease = .open := by
  cases input with
  | leadershipOpened | buildFailed | handlesBuilt | managerPublished =>
      simp only [Proc.next] at keeps ⊢
      split at keeps
      · first
        | exact opened
        | rfl
        | cases keeps
      · exact opened
  | startFailed res now budget | started res =>
      simp only [Proc.next] at keeps ⊢
      split
      · split <;> exact opened
      · exact opened
  | shutdown | gone => exact opened
  | managerReturned err now budget =>
      simp only [Proc.next]
      split <;> exact opened
  | drainRound =>
      simp only [Proc.next, Proc.drainRound] at keeps ⊢
      split
      · rename_i res ending step left now deadline phase
        rw [phase] at keeps
        dsimp only at keeps
        split
        · exact opened
        · rename_i inTime
          rw [if_neg inTime] at keeps
          dsimp only at keeps ⊢
          split
          · rename_i named
            rw [if_pos named] at keeps
            cases keeps
          · exact opened
      · exact opened
  | poll opts disk =>
      simp only [Proc.next] at keeps ⊢
      split
      · rename_i degraded
        rw [if_pos degraded] at keeps
        cases keeps
      · exact opened
  | campaign classified should =>
      simp only [Proc.next]
      split <;> exact opened

/-! ## The history of the lease -/

section History

variable {Node : Type} [DecidableEq Node]

/-- A process that drains has an excuse for campaigning only if its startup has failed. -/
def Proc.Excused (proc : Proc) : Prop :=
  ∀ res ending left now deadline,
    proc.phase = .draining res ending left now deadline → ending = .startFailed

theorem uncancelled_excused (proc : Proc) (dataDir : String) (sound : proc.Sound dataDir)
    (live : proc.cancelled = false) : proc.Excused := by
  intro res ending left now deadline phase
  cases ending with
  | startFailed => rfl
  | managerReturned err =>
      have cancelled := (sound.draining _ _ _ _ _ phase).cancelled err rfl
      rw [live] at cancelled
      cases cancelled

def Change.Rightful (dataDir : Node → String) : Change Node → Prop
  | .acquired node proc classified should =>
      proc.MayCampaign (dataDir node) classified should ∧ proc.Excused
  | .lost _ proc (.closed input) => proc.Closes input
  | .lost _ _ .lapsed => True

structure Sound (dataDir : Node → String) (cluster : Cluster Node) : Prop where
  procs : ∀ node, (cluster.proc node).Sound (dataDir node)
  holds : ∀ node, cluster.holder = some node → (cluster.proc node).lease = .open
  rightful : ∀ change ∈ cluster.history, change.Rightful dataDir

omit [DecidableEq Node] in
theorem sound_cold (dataDir : Node → String) : Sound dataDir (.cold dataDir) where
  procs := fun node => sound_fresh (dataDir node)
  holds := fun _ impossible => nomatch impossible
  rightful := fun _ impossible => nomatch impossible

theorem lose_sound (dataDir : Node → String) (cluster : Cluster Node) (node : Node)
    (proc : Proc) (cause : Cause)
    (procs : ∀ other, (cluster.proc other).Sound (dataDir other))
    (holds : ∀ other, other ≠ node → cluster.holder = some other →
      (cluster.proc other).lease = .open)
    (rightful : ∀ change ∈ cluster.history, change.Rightful dataDir)
    (lost : (Change.lost node proc cause).Rightful dataDir) :
    Sound dataDir (cluster.lose node proc cause) := by
  unfold Cluster.lose
  split
  · exact
      { procs := procs
        holds := fun _ impossible => nomatch impossible
        rightful := List.forall_mem_cons.2 ⟨lost, rightful⟩ }
  · rename_i free
    exact
      { procs := procs
        holds := by
          intro other held
          apply holds other _ held
          intro same
          rw [same] at held
          exact free held
        rightful := rightful }

theorem turn_sound (dataDir : Node → String) (cluster : Cluster Node) (node : Node)
    (input : Input) (sound : Sound dataDir cluster) :
    Sound dataDir (cluster.turn node input) := by
  unfold Cluster.turn
  dsimp only
  split
  · have own := next_sound (cluster.proc node) cluster.holder.isNone input (dataDir node)
      (sound.procs node)
    have procs : ∀ other,
        (Function.update cluster.proc node
          ((cluster.proc node).next cluster.holder.isNone input).1 other).Sound
            (dataDir other) := by
      intro other
      by_cases same : other = node
      · subst same
        rw [Function.update_self]
        exact own
      · rw [Function.update_of_ne same]
        exact sound.procs other
    have others : ∀ other, other ≠ node → cluster.holder = some other →
        (Function.update cluster.proc node
          ((cluster.proc node).next cluster.holder.isNone input).1 other).lease = .open := by
      intro other different held
      rw [Function.update_of_ne different]
      exact sound.holds other held
    split
    · rename_i keeps
      exact
        { procs := procs
          holds := by
            intro other held
            by_cases same : other = node
            · subst same
              simp only [Function.update_self]
              exact next_stays_open _ _ _ (sound.holds other held) keeps
            · exact others other same held
          rightful := sound.rightful }
    · rename_i closes
      have closing := next_closes _ _ _ _ (sound.procs node) closes
      exact lose_sound dataDir _ node _ _ procs others sound.rightful closing.2
    · rename_i classified should acquires
      have acquiring := next_acquires _ _ _ _ _ acquires
      have campaigns := acquiring.2.2.2
      rw [(sound.procs node).watches] at campaigns
      have excused := uncancelled_excused _ _ (sound.procs node) campaigns.1
      exact
        { procs := procs
          holds := by
            intro other held
            cases held
            simp only [Function.update_self]
            exact acquiring.2.2.1
          rightful := List.forall_mem_cons.2 ⟨⟨campaigns, excused⟩, sound.rightful⟩ }
  · exact sound

theorem step_sound (dataDir : Node → String) (cluster : Cluster Node) (event : Event Node)
    (sound : Sound dataDir cluster) : Sound dataDir (step cluster event) := by
  cases event with
  | turn node input => exact turn_sound dataDir cluster node input sound
  | lapse =>
      simp only [step]
      split
      · exact sound
      · rename_i node _
        exact lose_sound dataDir cluster node _ .lapsed sound.procs
          (fun other _ held => sound.holds other held) sound.rightful trivial

theorem turn_takes_iff (cluster : Cluster Node) (node : Node) (classified : Except String Bool)
    (should : Bool) (free : cluster.holder = none) (alive : (cluster.proc node).alive = true) :
    (cluster.turn node (.campaign classified should)).holder = some node ↔
      (cluster.proc node).lease = .open ∧
        (cluster.proc node).MayCampaign (cluster.proc node).gate.dataDir classified should := by
  rw [← campaign_iff]
  simp only [Cluster.turn, alive, if_true, Proc.next, free, Option.isNone_none]
  cases lease : (cluster.proc node).lease with
  | «open» =>
      simp only
      cases ((cluster.proc node).campaign classified should).2 <;> simp
  | unopened | closed => simp

end History

/-- Startup has built nothing but the handles. -/
def handlesOnly : StartupResult where
  control := none
  fanout := none
  leaderRouteResponder := none
  obsSrv := none
  manager := none
  postgres := none
  eventSub := []
  signalStopping := fun ctx => ctx.now
  closeCluster := some (fun ctx => ctx.now)
  embedded := none

/-- A startup that fails with a complete database takes a free lease while it is torn down. -/
example :
    (run step (.cold (fun _ : Unit => "/pgdata"))
      [.turn () .leadershipOpened, .turn () .handlesBuilt,
        .turn () (.startFailed handlesOnly 0 20000000000),
        .turn () (.campaign (.ok true) false)]).holder = some () := by
  decide

end PgmanProxy.Runtime.LeaseHandover
