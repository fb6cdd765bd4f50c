import Mathlib.Data.List.Dedup
import PgmanProxy.Library.GatedProgram
import PgmanProxy.Runtime.PostgresStop
import PgmanProxy.Runtime.ReloadGuarantees

/-!
# The startup sequence

`Start` goes through its gates in order. It notes in its result what it has built, and a
failure leaves the result as it is for the caller to tear down. What `Start` has set going
and what it has noted are kept apart here, so that the two can be compared. A call that has
failed may go on with what it has begun: a dial that `Connect` no longer waits for connects
after all, and `Serve` keeps the subscriptions it has made.
-/

namespace PgmanProxy.Runtime.Startup

open PgmanProxy.Embedded.ServerOptions
open PgmanProxy.Library.GatedProgram PgmanProxy.Library.GoStrings PgmanProxy.Library.Runs
open PgmanProxy.Runtime.PostgresStop PgmanProxy.Runtime.Reload PgmanProxy.Runtime.Shutdown
open PgmanProxy.Validation

set_option autoImplicit false

/-! ## Gates and their exit codes -/

def exitObs : Int := 74
def exitDeps : Int := 75
def exitListen : Int := 76
def exitConfig : Int := 78
def exitControl : Int := 81

inductive Gate where
  | obsBind
  | clusterPassword
  | clusterCredential
  | serverOptions
  | storeArchive
  | newServer
  | serverReady
  | connect
  | routeMesh
  | jetStreamResponsive
  | clusterKV
  | buildHandles
  | jetStreamContext
  | historyStream
  | openClusterKV
  | publishPeerAddress
  | coordinationEvents
  | postgresExecutor
  | standbySignal
  | managedBlocks
  | managerNew
  | registerSlice (slice : String)
  | fanoutServe
  | proxyBind
  | controlBind
  | controlServer
  | responderServe
  | streamReady
  | initialAudit
deriving DecidableEq, Repr

def Gate.code : Gate → Int
  | .obsBind => exitObs
  | .clusterPassword | .clusterCredential | .serverOptions | .storeArchive | .newServer =>
      exitConfig
  | .proxyBind => exitListen
  | .controlBind | .controlServer | .responderServe | .streamReady | .initialAudit => exitControl
  | _ => exitDeps

/-! ## What a startup has done -/

/-- The fields of the result that `Start` fills in. -/
inductive Part where
  | obsSrv
  | embedded
  | conn
  | cluster
  | history
  | eventSub
  | postgres
  | manager
  | fanout
  | control
  | leaderRouteResponder
deriving DecidableEq, Repr

/-- What `Start` sets going. -/
inductive Activity where
  | obsServer
  | embeddedServer
  | connection
  /-- a connection that comes after `Connect` has given up -/
  | lateConnection
  /-- the lease loop of the handles -/
  | leadership
  /-- the logger's way into the history stream -/
  | historySink
  | storageMonitor
  | routeWatcher
  /-- the subscriptions of the coordination events -/
  | eventSubscriptions
  /-- what `manager.New` builds, for `run` to start -/
  | manager
  | gauges
  | fanoutServer
  | controlServer
  | leaderRouteResponder
deriving DecidableEq, Repr

structure Health where
  natsUp : Bool
  listenerUp : Bool
  managerReady : Bool
deriving DecidableEq, Repr

/-- What `/readyz` answers by. -/
def Health.ready (health : Health) : Bool :=
  health.natsUp && health.listenerUp && health.managerReady

structure Started where
  recorded : List Part
  running : List Activity
  health : Health
deriving DecidableEq, Repr

def Started.fresh : Started := ⟨[], [], ⟨false, false, false⟩⟩

inductive Effect where
  | record (part : Part)
  | launch (activity : Activity)
  | setNATSUp
  | setListenerUp
  | setManagerReady
deriving DecidableEq, Repr

def Started.apply (started : Started) : Effect → Started
  | .record part => { started with recorded := started.recorded ++ [part] }
  | .launch activity => { started with running := started.running ++ [activity] }
  | .setNATSUp => { started with health := { started.health with natsUp := true } }
  | .setListenerUp => { started with health := { started.health with listenerUp := true } }
  | .setManagerReady => { started with health := { started.health with managerReady := true } }

/-! ## Waiting for the mesh -/

/-- What the embedded server says about its routes at one moment. -/
structure RouteView where
  /-- `Routez`: the remote server's id of each route -/
  routez : Except String (List String)
  numRoutes : Nat

def RouteView.numUniqueRoutes (view : RouteView) : Nat :=
  match view.routez with
  | .error _ => view.numRoutes
  | .ok remoteIDs => (remoteIDs.filter (· ≠ "")).dedup.length

def requiredRoutes (expectedPeers : Int) : Int :=
  if expectedPeers > 1 then expectedPeers - 1 else 0

/-- The views of the first look, of the ticks the loop sees before its context ends, and of the
look that the error's text is made of. -/
structure MeshViews where
  first : RouteView
  ticks : List RouteView
  last : RouteView
  ctxErr : String

def waitForRouteMesh (views : MeshViews) (expectedPeers : Int) : Option String :=
  let required := requiredRoutes expectedPeers
  if (views.first :: views.ticks).any (fun view => view.numUniqueRoutes ≥ required) then none
  else
    some ("wait for route mesh (have " ++ toString views.last.numUniqueRoutes ++ ", need " ++
      toString required ++ "): " ++ views.ctxErr)

/-! ## The program -/

/-- What a startup is given, and how the outside answers it. -/
structure World where
  std : Stdlib
  host : Host
  config : Config
  mesh : MeshViews
  /-- the errors of the other gates' calls -/
  call : Gate → Option String
  /-- What a failed call has begun goes on. -/
  lingers : Gate → Bool

abbrev Act := Action Effect Gate String

section Program

variable (world : World)

def failureOf {Value : Type} : Except String Value → Option String
  | .error err => some err
  | .ok _ => none

def World.asks (gate : Gate) : Act := .gate gate (world.call gate)

def bootEmbeddedNATS : List Act :=
  let cluster := world.config.cluster
  let password := resolveClusterPassword world.host cluster
  let credential := Reload.clusterCredential cluster (password.toOption.getD "")
  let options := buildOptions world.std world.host
    (optionsInput world.config (credential.toOption.getD .zero))
  [.gate .clusterPassword (failureOf password),
    .gate .clusterCredential (failureOf credential),
    .gate .serverOptions (failureOf options),
    world.asks .storeArchive,
    world.asks .newServer,
    -- the server runs before it is waited for
    .effect (.launch .embeddedServer),
    world.asks .serverReady]

def substrate : List Act :=
  [.effect (.record .embedded),
    world.asks .connect,
    .effect (.launch .connection),
    .effect (.record .conn),
    .effect .setNATSUp]

def cluster : List Act :=
  [world.asks .jetStreamResponsive,
    world.asks .clusterKV,
    world.asks .buildHandles,
    .effect (.launch .leadership),
    .effect (.record .cluster),
    world.asks .jetStreamContext,
    world.asks .historyStream,
    .effect (.record .history),
    .effect (.launch .historySink)]

def peerAddress : List Act :=
  if world.config.postgres.replicationAddr ≠ "" then
    [world.asks .openClusterKV, world.asks .publishPeerAddress]
  else []

def engine : List Act :=
  [.effect (.launch .storageMonitor),
    .effect (.launch .routeWatcher),
    world.asks .coordinationEvents,
    .effect (.launch .eventSubscriptions),
    .effect (.record .eventSub),
    world.asks .postgresExecutor,
    .effect (.record .postgres),
    world.asks .standbySignal,
    world.asks .managedBlocks,
    world.asks .managerNew,
    .effect (.launch .manager),
    .effect (.record .manager),
    .effect (.launch .gauges),
    world.asks (.registerSlice "SliceStatus"),
    world.asks (.registerSlice "SliceNATSMesh"),
    world.asks (.registerSlice "SliceConfig"),
    world.asks (.registerSlice "SliceDoctor"),
    world.asks .fanoutServe,
    .effect (.launch .fanoutServer),
    .effect (.record .fanout)]

def dataPlane : List Act :=
  if world.config.proxy.listenAddr ≠ "" then
    [world.asks .proxyBind, .effect .setListenerUp]
  else []

def controlPlane : List Act :=
  if world.config.control.listenAddr ≠ "" then
    [world.asks .controlBind,
      world.asks .controlServer,
      .effect (.record .control),
      world.asks .responderServe,
      .effect (.launch .leaderRouteResponder),
      .effect (.record .leaderRouteResponder),
      .effect (.launch .controlServer),
      world.asks .streamReady,
      world.asks .initialAudit]
  else []

/-- Up to the gate that waits for the mesh. -/
def beforeMesh : List Act :=
  [.effect (.record .obsSrv), world.asks .obsBind, .effect (.launch .obsServer)] ++
    bootEmbeddedNATS world ++ substrate world

def meshGate : Act :=
  .gate .routeMesh (waitForRouteMesh world.mesh world.config.cluster.declaredSize)

def afterMesh : List Act :=
  cluster world ++ peerAddress world ++ engine world ++ dataPlane world ++ controlPlane world

def program : List Act :=
  beforeMesh world ++ meshGate world :: (afterMesh world ++ [.effect .setManagerReady])

/-- `Start`, when so many of its actions have been taken. -/
def progress (count : Nat) : Progress Started Effect Gate String :=
  after Started.apply .fresh (program world) count

/-- `Start`, when it has returned. -/
def start : Progress Started Effect Gate String := progress world (program world).length

/-- What a failed call goes on with on its own. -/
def World.lingering (gate : Gate) : List Activity :=
  if world.lingers gate then
    match gate with
    | .connect => [.lateConnection]
    | .fanoutServe => [.fanoutServer]
    | _ => []
  else []

/-- What there is to end when `Start` has returned. -/
def goesOn : List Activity :=
  (start world).state.running ++
    ((start world).stopped.toList.flatMap (fun cause => world.lingering cause.1))

end Program

/-! ## Readiness -/

section Effects

variable (done : List Effect)

theorem nats_up_iff :
    (run Started.apply .fresh done).health.natsUp = true ↔ .setNATSUp ∈ done := by
  rw [run_flag Started.apply (fun started => started.health.natsUp) .setNATSUp]
  · simp [Started.fresh]
  · intro started effect
    cases effect <;> simp [Started.apply]

theorem listener_up_iff :
    (run Started.apply .fresh done).health.listenerUp = true ↔ .setListenerUp ∈ done := by
  rw [run_flag Started.apply (fun started => started.health.listenerUp) .setListenerUp]
  · simp [Started.fresh]
  · intro started effect
    cases effect <;> simp [Started.apply]

theorem manager_ready_iff :
    (run Started.apply .fresh done).health.managerReady = true ↔ .setManagerReady ∈ done := by
  rw [run_flag Started.apply (fun started => started.health.managerReady) .setManagerReady]
  · simp [Started.fresh]
  · intro started effect
    cases effect <;> simp [Started.apply]

theorem running_iff (started : Started) (activity : Activity) :
    activity ∈ (run Started.apply started done).running ↔
      activity ∈ started.running ∨ .launch activity ∈ done := by
  induction done generalizing started with
  | nil => simp [run]
  | cons effect done ih =>
      apply (ih (started.apply effect)).trans
      cases effect <;> simp [Started.apply, or_assoc]

theorem recorded_iff (started : Started) (part : Part) :
    part ∈ (run Started.apply started done).recorded ↔
      part ∈ started.recorded ∨ .record part ∈ done := by
  induction done generalizing started with
  | nil => simp [run]
  | cons effect done ih =>
      apply (ih (started.apply effect)).trans
      cases effect <;> simp [Started.apply, or_assoc]

end Effects

section Moments

variable (world : World)

/-- Nothing of the program but its last action marks the manager as ready. -/
theorem only_end_marks_ready :
    .setManagerReady ∉ effects (beforeMesh world ++ meshGate world :: afterMesh world) := by
  simp only [beforeMesh, bootEmbeddedNATS, substrate, meshGate, afterMesh, cluster, peerAddress,
    engine, dataPlane, controlPlane, World.asks]
  split <;> split <;> split <;> simp [effects]

theorem whole_effects :
    .setNATSUp ∈ effects (program world) ∧ .setManagerReady ∈ effects (program world) ∧
      (.setListenerUp ∈ effects (program world) ↔ world.config.proxy.listenAddr ≠ "") := by
  simp only [program, beforeMesh, bootEmbeddedNATS, substrate, meshGate, afterMesh, cluster,
    peerAddress, engine, dataPlane, controlPlane, World.asks]
  split <;> split <;> split <;> simp [effects, *]

/-- At every moment of a startup, `/readyz` answers that the process is ready exactly if `Start`
has returned without an error and there is a data plane to listen on. The manager's claim of the
node, which comes after that, does not count. -/
theorem ready_iff_started (count : Nat) :
    (progress world count).state.health.ready = true ↔
      world.config.proxy.listenAddr ≠ "" ∧ (progress world count).stopped = none ∧
        (progress world count).left = [] := by
  rcases after_path Started.apply .fresh (program world) count with ⟨done, path⟩
  rw [← progress] at path
  rw [path.state, Health.ready, Bool.and_eq_true, Bool.and_eq_true, nats_up_iff, listener_up_iff,
    manager_ready_iff]
  have marks := whole_effects world
  constructor
  · intro ready
    have whole : (progress world count).left = [] := by
      have same : done ++ (progress world count).left =
          (beforeMesh world ++ meshGate world :: afterMesh world) ++
            [.effect .setManagerReady] := by
        rw [← path.front, program]
        simp only [List.append_assoc, List.cons_append]
      rcases List.append_eq_append_iff.1 same with ⟨middle, early, -⟩ | ⟨middle, late, rest⟩
      · apply absurd _ (only_end_marks_ready world)
        rw [early, effects_append]
        exact List.mem_append_left _ ready.2
      · cases middle with
        | nil =>
            apply absurd _ (only_end_marks_ready world)
            rw [← List.append_nil (beforeMesh world ++ meshGate world :: afterMesh world), ← late]
            exact ready.2
        | cons action middle =>
            rw [List.cons_append, List.cons.injEq] at rest
            exact (List.append_eq_nil_iff.1 rest.2.symm).2
    have all : done = program world := by
      rw [path.front, whole, List.append_nil]
    rw [all] at ready
    refine ⟨marks.2.2.1 ready.1.2, ?_, whole⟩
    cases stopped : (progress world count).stopped with
    | none => rfl
    | some cause =>
        rcases path.stopped cause.1 cause.2 stopped with ⟨rest, here⟩
        rw [whole] at here
        cases here
  · intro returned
    have all : done = program world := by
      rw [path.front, returned.2.2, List.append_nil]
    rw [all]
    exact ⟨⟨marks.1, marks.2.2.2 returned.1⟩, marks.2.1⟩

/-! ## A sibling that is missing -/

theorem unique_routes_le (view : RouteView) (siblings remoteIDs : List String)
    (answered : view.routez = .ok remoteIDs)
    (known : ∀ id ∈ remoteIDs, id = "" ∨ id ∈ siblings) :
    view.numUniqueRoutes ≤ siblings.length := by
  unfold RouteView.numUniqueRoutes
  rw [answered]
  have within : (remoteIDs.filter (· ≠ "")).dedup ⊆ siblings := by
    intro id member
    rw [List.mem_dedup, List.mem_filter] at member
    rcases known id member.1 with empty | listed
    · simp [empty] at member
    · exact listed
  exact ((List.nodup_dedup _).subperm within).length_le

/-- The gate waits for every sibling at once. While every look finds routes to too few servers,
whichever they are, the startup never builds its handles, so the process has no lease loop, and it
never gets ready. -/
theorem no_start_without_siblings
    (seen : ∀ view ∈ world.mesh.first :: world.mesh.ticks, ∃ siblings remoteIDs : List String,
      view.routez = .ok remoteIDs ∧ (∀ id ∈ remoteIDs, id = "" ∨ id ∈ siblings) ∧
        siblings.length + 1 < world.config.cluster.declaredSize) (count : Nat) :
    (∀ part ∈ (progress world count).state.recorded, part ∈ [.obsSrv, .embedded, .conn]) ∧
      (∀ activity ∈ (progress world count).state.running,
        activity ∈ [.obsServer, .embeddedServer, .connection]) ∧
      (progress world count).state.health.ready = false := by
  have refused : ∃ err, meshGate world = .gate .routeMesh (some err) := by
    have few : (world.mesh.first :: world.mesh.ticks).any (fun view =>
        view.numUniqueRoutes ≥ requiredRoutes world.config.cluster.declaredSize) = false := by
      rw [List.any_eq_false]
      intro view member
      rcases seen view member with ⟨siblings, remoteIDs, answered, known, missing⟩
      have bound := unique_routes_le view siblings remoteIDs answered known
      rw [requiredRoutes, if_pos (by omega), decide_eq_true_iff]
      omega
    simp only [meshGate, waitForRouteMesh, few]
    exact ⟨_, rfl⟩
  rcases refused with ⟨err, gate⟩
  rcases after_path Started.apply .fresh (program world) count with ⟨done, path⟩
  rw [← progress] at path
  have early : done <+: beforeMesh world := by
    apply done_before done (progress world count).left (beforeMesh world)
      (afterMesh world ++ [.effect .setManagerReady]) .routeMesh err _ path.passed
    rw [← gate, ← path.front, program]
  have earlier : ∀ effect ∈ effects done, effect ∈ effects (beforeMesh world) := by
    intro effect member
    rcases early with ⟨rest, whole⟩
    rw [← whole, effects_append]
    exact List.mem_append_left _ member
  refine ⟨?_, ?_, ?_⟩
  · intro part recorded
    rw [path.state, recorded_iff] at recorded
    rcases recorded with fresh | recorded
    · cases fresh
    · simpa [beforeMesh, bootEmbeddedNATS, substrate, World.asks, effects] using
        earlier _ recorded
  · intro activity running
    rw [path.state, running_iff] at running
    rcases running with fresh | launched
    · cases fresh
    · simpa [beforeMesh, bootEmbeddedNATS, substrate, World.asks, effects] using
        earlier _ launched
  · rw [← Bool.not_eq_true, ready_iff_started]
    intro ready
    have longer := early.length_le
    have whole := congrArg List.length path.front
    rw [ready.2.2, program] at whole
    simp only [List.length_append, List.length_cons, List.length_nil] at whole
    omega

/-- A peer of three that finds one of its siblings. -/
def lonelyPeer : World where
  std := ReloadGuarantees.sampleStd
  host := ReloadGuarantees.sampleHost "first-secret-0001"
  config := ReloadGuarantees.sampleConfig 4222 ["n2:6222"]
  mesh := ⟨⟨.ok [], 0⟩, [⟨.ok ["NB", "NB"], 2⟩], ⟨.ok ["NB", "NB"], 2⟩, "context deadline exceeded"⟩
  call := fun _ => none
  lingers := fun _ => false

theorem lonely_peer_gives_up :
    (start lonelyPeer).stopped.map (fun cause => (cause.1, cause.1.code)) =
        some (.routeMesh, exitDeps) ∧
      .cluster ∉ (start lonelyPeer).state.recorded ∧
      .leadership ∉ (start lonelyPeer).state.running := by
  have held := no_start_without_siblings lonelyPeer
    (by
      intro view member
      simp only [lonelyPeer, List.mem_cons, List.not_mem_nil, or_false] at member
      rcases member with same | same
      · exact ⟨[], [], congrArg RouteView.routez same, by simp, by decide⟩
      · exact ⟨["NB"], ["NB", "NB"], congrArg RouteView.routez same, by simp, by decide⟩)
    (program lonelyPeer).length
  refine ⟨by decide, ?_, ?_⟩
  · intro built
    exact absurd (held.1 .cluster built) (by decide)
  · intro campaigning
    exact absurd (held.2.1 .leadership campaigning) (by decide)

/-! ## What a teardown leaves -/

/-- The step of a drain that is there to end an activity. -/
def Activity.endedBy : Activity → Option String
  | .obsServer => some "obs"
  | .embeddedServer => some "embedded-nats"
  | .connection | .leadership => some "cluster"
  | .historySink => some "embedded-pre-stop"
  | .eventSubscriptions => some "event-subscription"
  | .manager => some "manager"
  | .fanoutServer => some "fanout"
  | .controlServer => some "control"
  | .leaderRouteResponder => some "leader-route-responder"
  | .lateConnection | .storageMonitor | .routeWatcher | .gauges => none

/-- The loop returns when the process's context is done, which `run` sees to when it returns. -/
def Activity.endsWithContext : Activity → Bool
  | .storageMonitor | .routeWatcher | .gauges => true
  | _ => false

/-- The part that gives a drain that step. -/
def Activity.keeper : Activity → Option Part
  | .obsServer => some .obsSrv
  | .embeddedServer | .historySink => some .embedded
  | .connection | .leadership => some .cluster
  | .eventSubscriptions => some .eventSub
  | .manager => some .manager
  | .fanoutServer => some .fanout
  | .controlServer => some .control
  | .leaderRouteResponder => some .leaderRouteResponder
  | .lateConnection | .storageMonitor | .routeWatcher | .gauges => none

/-- How the parts are stopped. -/
structure Stops where
  control : Ctx → Ran
  fanout : Ctx → Ran
  leaderRouteResponder : Ctx → Ran
  obsSrv : Ctx → Ran
  manager : Ctx → Ran
  postgres : PostgresStopper
  eventSub : List (Ctx → Ran)
  signalStopping : Ctx → Int
  closeCluster : Ctx → Int
  embedded : EmbeddedServer

def Started.result (started : Started) (stops : Stops) : StartupResult where
  control := if .control ∈ started.recorded then some stops.control else none
  fanout := if .fanout ∈ started.recorded then some stops.fanout else none
  leaderRouteResponder :=
    if .leaderRouteResponder ∈ started.recorded then some stops.leaderRouteResponder else none
  obsSrv := if .obsSrv ∈ started.recorded then some stops.obsSrv else none
  manager := if .manager ∈ started.recorded then some stops.manager else none
  postgres := if .postgres ∈ started.recorded then some stops.postgres else none
  eventSub := if .eventSub ∈ started.recorded then stops.eventSub else []
  signalStopping := stops.signalStopping
  closeCluster := if .cluster ∈ started.recorded then some stops.closeCluster else none
  embedded := if .embedded ∈ started.recorded then some stops.embedded else none

/-- Each subscription needs a step of its own. -/
def Activity.needs (stops : Stops) : Activity → Nat
  | .eventSubscriptions => stops.eventSub.length
  | _ => 1

/-- The drain has not the steps that are there to end an activity. -/
def Lacks (stops : Stops) (steps : List DrainStep) (activity : Activity) : Prop :=
  ∀ name, activity.endedBy = some name →
    (steps.map DrainStep.name).count name < activity.needs stops

def LeftBehind (stops : Stops) (going : List Activity) (steps : List DrainStep)
    (activity : Activity) : Prop :=
  activity ∈ going ∧ Lacks stops steps activity

/-- One step for everything noted, under its name. -/
theorem step_names (started : Started) (stops : Stops) (withPostgres : Bool) :
    let noted (part : Part) (name : String) : List String :=
      if part ∈ started.recorded then [name] else []
    (buildShutdownSteps (started.result stops) withPostgres).map DrainStep.name =
      noted .control "control" ++ noted .fanout "fanout" ++
        noted .leaderRouteResponder "leader-route-responder" ++ noted .obsSrv "obs" ++
        noted .manager "manager" ++ (if withPostgres then noted .postgres "postgres" else []) ++
        ((if .eventSub ∈ started.recorded then
          List.replicate stops.eventSub.length "event-subscription" else []) ++
        noted .embedded "embedded-pre-stop" ++ noted .cluster "cluster" ++
        noted .embedded "embedded-nats") := by
  have option : ∀ (name : String) (part : Part) (stop : Ctx → Ran),
      (optionalStep name (if part ∈ started.recorded then some stop else none)).map
        DrainStep.name = if part ∈ started.recorded then [name] else [] := by
    intro name part stop
    split <;> rfl
  simp only [buildShutdownSteps, stepsBeforePostgres, stepsAfterPostgres, Started.result,
    List.map_append, option]
  congr 1
  · congr 1
    split
    · split <;> rfl
    · rfl
  · congr 1
    · congr 1
      · congr 1
        · split
          · exact List.map_map.trans List.map_const'
          · rfl
        · split <;> rfl
      · split <;> rfl
    · split <;> rfl

theorem noted_count (part : Part) (recorded : List Part) (name other : String) :
    (if part ∈ recorded then [name] else []).count other =
      if part ∈ recorded ∧ name = other then 1 else 0 := by
  by_cases noted : part ∈ recorded
  · simp [noted, List.count_singleton]
  · simp [noted]

/-- The steps are missing exactly if nothing has noted what they are for. -/
theorem lacks_steps_iff (started : Started) (stops : Stops) (withPostgres : Bool)
    (activity : Activity) (part : Part) (kept : activity.keeper = some part) :
    Lacks stops (buildShutdownSteps (started.result stops) withPostgres) activity ↔
      part ∉ started.recorded ∧ (activity = .eventSubscriptions → stops.eventSub ≠ []) := by
  have postgres : ∀ name, name ≠ "postgres" →
      (if withPostgres then if .postgres ∈ started.recorded then ["postgres"] else []
        else []).count name = 0 := by
    intro name other
    split
    · simp [noted_count, other.symm]
    · rfl
  have subscriptions : ∀ name,
      (if .eventSub ∈ started.recorded then
        List.replicate stops.eventSub.length "event-subscription" else []).count name =
      if .eventSub ∈ started.recorded ∧ "event-subscription" = name then stops.eventSub.length
        else 0 := by
    intro name
    by_cases noted : .eventSub ∈ started.recorded
    · simp [noted, List.count_replicate]
    · simp [noted]
  rw [Lacks, step_names]
  simp only [List.count_append, noted_count, subscriptions]
  cases activity with
  | eventSubscriptions =>
      cases kept
      by_cases noted : .eventSub ∈ started.recorded
      · simp [Activity.endedBy, Activity.needs, postgres, noted]
      · simp [Activity.endedBy, Activity.needs, postgres, noted, List.length_pos_iff]
  | _ => cases kept <;> simp [Activity.endedBy, Activity.needs, postgres]

/-- What goes on though nothing that is noted ends it. -/
def Started.unkept (started : Started) : List Activity :=
  started.running.filter (fun activity =>
    match activity.keeper with
    | none => false
    | some part => part ∉ started.recorded)

/-- What a startup that fails at a gate leaves behind. -/
def Gate.leaves : Gate → Option Activity
  | .serverReady => some .embeddedServer
  | .routeMesh | .jetStreamResponsive | .clusterKV | .buildHandles => some .connection
  | _ => none

/-- At the end, everything is noted. -/
theorem gates_leave :
    checks Started.apply
      (fun gate started => decide (started.unkept = (gate.bind Gate.leaves).toList ∧
        .lateConnection ∉ started.running ∧
        (gate = some .fanoutServe → .fanout ∉ started.recorded))) .fresh
      (program world) = true := by
  simp only [program, afterMesh, peerAddress, dataPlane, controlPlane]
  split <;> split <;> split <;> rfl

theorem returned_facts :
    (start world).state.unkept =
        (((start world).stopped.map Prod.fst).bind Gate.leaves).toList ∧
      .lateConnection ∉ (start world).state.running ∧
      ((start world).stopped.map Prod.fst = some .fanoutServe →
        .fanout ∉ (start world).state.recorded) :=
  of_decide_eq_true (checks_returned Started.apply .fresh (program world) _ (gates_leave world))

theorem unkept_iff (activity : Activity) :
    activity ∈ (start world).state.unkept ↔
      ∃ gate err, (start world).stopped = some (gate, err) ∧ gate.leaves = some activity := by
  rw [(returned_facts world).1, Option.mem_toList, Option.bind_eq_some_iff]
  constructor
  · rintro ⟨gate, stopped, leaves⟩
    rcases Option.map_eq_some_iff.1 stopped with ⟨⟨_, err⟩, cause, rfl⟩
    exact ⟨_, err, cause, leaves⟩
  · rintro ⟨gate, err, stopped, leaves⟩
    exact ⟨gate, by rw [stopped]; rfl, leaves⟩

/-- What a failed call goes on with has no step. -/
theorem lingering_lacks (stops : Stops) (withPostgres : Bool) (gate : Gate) (err : String)
    (activity : Activity) (stopped : (start world).stopped = some (gate, err))
    (lingers : activity ∈ world.lingering gate) :
    Lacks stops (buildShutdownSteps ((start world).state.result stops) withPostgres)
      activity := by
  unfold World.lingering at lingers
  split at lingers
  · cases gate with
    | connect =>
        cases List.mem_singleton.1 lingers
        intro name impossible
        cases impossible
    | fanoutServe =>
        cases List.mem_singleton.1 lingers
        rw [lacks_steps_iff _ stops withPostgres .fanoutServer .fanout rfl]
        refine ⟨(returned_facts world).2.2 ?_, fun impossible => nomatch impossible⟩
        rw [stopped]
        rfl
    | _ => cases lingers
  · cases lingers

/-- Whatever has no keeper goes on with the context, or is the late connection. -/
theorem keeper_none_iff (activity : Activity) :
    activity.keeper = none ↔ activity.endsWithContext = true ∨ activity = .lateConnection := by
  cases activity <;> simp [Activity.keeper, Activity.endsWithContext]

/-- However a startup ends, the drain that follows has a step for everything that goes on, but for
the loops that end with the process's context and for four cases. A NATS server that does not get
ready is never shut down; a connection that comes after its timeout is never closed; a failure
between the connection and the handles leaves the connection open; and the subscriptions of a
fan-out server that fails halfway stay until the connection goes. -/
theorem drain_leaves (stops : Stops) (withPostgres : Bool) (activity : Activity) :
    LeftBehind stops (goesOn world)
        (buildShutdownSteps ((start world).state.result stops) withPostgres) activity ↔
      (activity.endsWithContext = true ∧ activity ∈ (start world).state.running) ∨
        ∃ gate err, (start world).stopped = some (gate, err) ∧
          (gate.leaves = some activity ∨ activity ∈ world.lingering gate) := by
  rw [LeftBehind, goesOn, List.mem_append, List.mem_flatMap]
  constructor
  · rintro ⟨runs | ⟨⟨gate, err⟩, stopped, lingers⟩, lacks⟩
    · cases kept : activity.keeper with
      | none =>
          rcases (keeper_none_iff activity).1 kept with ends | late
          · exact .inl ⟨ends, runs⟩
          · rw [late] at runs
            exact absurd runs (returned_facts world).2.1
      | some part =>
          have unnoted := (lacks_steps_iff _ stops withPostgres activity part kept).1 lacks
          have left : activity ∈ (start world).state.unkept := by
            rw [Started.unkept, List.mem_filter, kept]
            exact ⟨runs, decide_eq_true unnoted.1⟩
          rcases (unkept_iff world activity).1 left with ⟨gate, err, stopped, leaves⟩
          exact .inr ⟨gate, err, stopped, .inl leaves⟩
    · exact .inr ⟨gate, err, Option.mem_toList.1 stopped, .inr lingers⟩
  · rintro (⟨ends, runs⟩ | ⟨gate, err, stopped, leaves | lingers⟩)
    · refine ⟨.inl runs, ?_⟩
      cases activity <;> simp [Activity.endsWithContext, Lacks, Activity.endedBy] at ends ⊢
    · have left := (unkept_iff world activity).2 ⟨gate, err, stopped, leaves⟩
      rw [Started.unkept, List.mem_filter] at left
      refine ⟨.inl left.1, ?_⟩
      cases kept : activity.keeper with
      | none =>
          rw [kept] at left
          cases left.2
      | some part =>
          rw [kept] at left
          rw [lacks_steps_iff _ stops withPostgres activity part kept]
          refine ⟨of_decide_eq_true left.2, ?_⟩
          intro events
          rw [events] at leaves
          cases gate <;> cases leaves
    · exact ⟨.inr ⟨(gate, err), Option.mem_toList.2 stopped, lingers⟩,
        lingering_lacks world stops withPostgres gate err activity stopped lingers⟩

end Moments

end PgmanProxy.Runtime.Startup
