import PgmanProxy.Control.Wrap
import PgmanProxy.Library.Runs

/-!
# A proxy that restarts itself

`POST /v1/restart` with the target `proxy` makes the receiving peer exit, so that its process
supervisor brings it back. The handler answers first and leaves the rest to a goroutine, which
pauses and then starts the shutdown; other requests are served meanwhile. The model keeps
answering requests after the shutdown has begun, which the drain of the listener ends at some
point.
-/

namespace PgmanProxy.Runtime.SelfRestart

open PgmanProxy.Library.GoStrings PgmanProxy.Library.Runs
open PgmanProxy.Control.Wire PgmanProxy.Control.Auth PgmanProxy.Control.AuditSinks
open PgmanProxy.Control.Requests PgmanProxy.Control.Handlers PgmanProxy.Control.Wrap

set_option autoImplicit false

/-! ## Is there a supervisor? -/

inductive SupervisorPresence where
  | none
  | tini
  | systemd
  | processCompose
  | kubernetes
  | assumed
deriving DecidableEq, Repr

def SupervisorPresence.text : SupervisorPresence → String
  | .none => "none"
  | .tini => "tini"
  | .systemd => "systemd"
  | .processCompose => "process-compose"
  | .kubernetes => "kubernetes"
  | .assumed => "assumed"

/-- The environment, and `/proc/1/comm` if it can be read. -/
structure Surroundings where
  getenv : String → String
  comm : Option String

def readProcComm (surroundings : Surroundings) : String :=
  (surroundings.comm.map trimSpace).getD ""

def pid1IsTini (surroundings : Surroundings) : Bool :=
  let name := readProcComm surroundings
  name = "tini" || "/tini".toList.isSuffixOf name.toList

def pid1IsSystemd (surroundings : Surroundings) : Bool := readProcComm surroundings = "systemd"

def processComposeMarks : List String := ["PC_PROC_LOG_DIR", "PC_PROC_NAME", "PC_PROC_PID"]

def detectSupervisor (assumeSupervised : Bool) (surroundings : Surroundings) :
    SupervisorPresence :=
  if assumeSupervised then .assumed
  else if surroundings.getenv "KUBERNETES_SERVICE_HOST" ≠ "" then .kubernetes
  else if surroundings.getenv "NOTIFY_SOCKET" ≠ "" then .systemd
  else if processComposeMarks.any (fun mark => surroundings.getenv mark ≠ "") then .processCompose
  else if pid1IsTini surroundings then .tini
  else if pid1IsSystemd surroundings then .systemd
  else .none

/-- Somebody vouches for the peer: the operator, a mark in the environment, or process 1. -/
def Supervised (assumeSupervised : Bool) (surroundings : Surroundings) : Prop :=
  assumeSupervised = true ∨
    (∃ mark ∈ "KUBERNETES_SERVICE_HOST" :: "NOTIFY_SOCKET" :: processComposeMarks,
      surroundings.getenv mark ≠ "") ∨
    pid1IsTini surroundings = true ∨ pid1IsSystemd surroundings = true

theorem detect_none_iff (assumeSupervised : Bool) (surroundings : Surroundings) :
    detectSupervisor assumeSupervised surroundings = .none ↔
      ¬ Supervised assumeSupervised surroundings := by
  have marked : processComposeMarks.any (fun mark => surroundings.getenv mark ≠ "") = true ↔
      ∃ mark ∈ processComposeMarks, surroundings.getenv mark ≠ "" := by
    simp only [List.any_eq_true, decide_eq_true_eq]
  unfold detectSupervisor Supervised
  rw [List.exists_mem_cons_iff, List.exists_mem_cons_iff, ← marked]
  -- every branch but the last names a supervisor, so each condition has to fail
  simp only [ite_eq_iff, reduceCtorEq, and_false, false_or, and_true, not_or, and_assoc]

theorem presence_none_iff (presence : SupervisorPresence) :
    presence.text = "none" ↔ presence = .none := by
  cases presence <;> decide

/-! ## The peer -/

/-- `selfTerminator`; `shutdown` says whether the hook is wired. -/
structure SelfTerminator where
  localNodeID : String
  presence : SupervisorPresence
  shutdown : Bool

/-- The terminator that `Start` builds. -/
def startTerminator (nodeID : String) (assumeSupervised : Bool) (surroundings : Surroundings) :
    SelfTerminator where
  localNodeID := nodeID
  presence := detectSupervisor assumeSupervised surroundings
  shutdown := true

/-- The server that `Start` builds around it. -/
def startServer (server : Server) (terminator : SelfTerminator) : Server :=
  { server with
    nodeID := terminator.localNodeID
    proxy := some ⟨terminator.presence.text, terminator.localNodeID⟩ }

/-- `proxy.self_restart_initiated` -/
structure Line where
  nodeID : String
  reason : String
  supervisor : String
deriving DecidableEq, Repr

/-- `waiting` are the goroutines in their pause, `exits` the exits without a drain. -/
structure Process where
  audit : Audit
  waiting : Nat
  lines : List Line
  cancelled : Bool
  exits : Nat

def Process.fresh (audit : Audit) : Process := ⟨audit, 0, [], false, 0⟩

def SelfTerminator.selfTerminate (terminator : SelfTerminator) (reason : String)
    (process : Process) : Process :=
  let line := ⟨terminator.localNodeID, reason, terminator.presence.text⟩
  let process := { process with lines := process.lines ++ [line] }
  if terminator.shutdown then { process with cancelled := true }
  else { process with exits := process.exits + 1 }

inductive Event where
  | request (op : Op) (moment : Moment) (request : Request)
  | pauseOver

/-- A request that made `handleRestartProxy` start its goroutine, with the audit it met. -/
structure Restart where
  audit : Audit
  moment : Moment
  request : Request

def completes : Ending → Bool
  | .completeOK _ _ _ => true
  | _ => false

/-- The goroutine is started behind the accepted answer. -/
def goroutines (server : Server) (process : Process) : Event → List Restart
  | .request .restart moment request =>
      match admission server process.audit .restart moment request,
          decodeBody restartRequest request.body with
      | .handle _, .ok body =>
          if body.target = "proxy" && completes (handleRestartProxy server body).ending then
            [⟨process.audit, moment, request⟩]
          else []
      | _, _ => []
  | _ => []

def step (terminator : SelfTerminator) (server : Server) (process : Process) (event : Event) :
    Process :=
  match event with
  | .request op moment request =>
      { process with
        audit := (wrap server process.audit op moment request).audit
        waiting := process.waiting + (goroutines server process event).length }
  | .pauseOver =>
      if process.waiting = 0 then process
      else
        terminator.selfTerminate "operator_restart"
          { process with waiting := process.waiting - 1 }

/-! ## One restart -/

section Earned

variable (server : Server) (terminator : SelfTerminator)

/-- The request came with the token, past a healthy audit, named this peer, and was answered
accepted and put on record under its sender. -/
structure Earned (restart : Restart) : Prop where
  healthy : restart.audit.healthy = true
  named : ∃ body, decodeBody restartRequest restart.request.body = .ok body ∧
    body.target = "proxy" ∧ body.targetNode = terminator.localNodeID ∧ body.targetNode ≠ ""
  settled : ∃ actor record envelope,
    server.auth.verify restart.moment.tokens restart.request.authorization = .ok actor ∧
    (wrap server restart.audit .restart restart.moment restart.request).audit =
      restart.audit.record record ∧
    record.actor = actor ∧ record.target = terminator.localNodeID ∧
    record.outcome = .accepted ∧
    (wrap server restart.audit .restart restart.moment restart.request).response.content =
      .envelope envelope ∧
    envelope.outcome = .accepted

/-- What the handler accepts. -/
theorem restart_proxy_completes (body : RestartRequest)
    (completed :
      completes (handleRestartProxy (startServer server terminator) body).ending = true) :
    body.targetNode = terminator.localNodeID ∧ body.targetNode ≠ "" ∧
      terminator.presence ≠ .none ∧
      ∃ result, handleRestartProxy (startServer server terminator) body =
        .local (.completeOK terminator.localNodeID (some result) 0) := by
  unfold handleRestartProxy at completed ⊢
  simp only [startServer] at completed ⊢
  split at completed
  · cases completed
  · rename_i here
    split at completed
    · cases completed
    · rename_i supervised
      rw [presence_none_iff] at supervised
      rw [if_neg here, if_neg (by rwa [presence_none_iff])]
      simp only [Bool.or_eq_true, decide_eq_true_eq, not_or, not_not] at here
      exact ⟨here.2, here.1, supervised, _, rfl⟩

theorem goroutine_earned (process : Process) (event : Event) (restart : Restart)
    (started : restart ∈ goroutines (startServer server terminator) process event) :
    Earned (startServer server terminator) terminator restart ∧ terminator.presence ≠ .none := by
  unfold goroutines at started
  split at started
  · rename_i moment request
    split at started
    · rename_i env body admitted decoded
      split at started
      · rename_i accepted
        rw [List.mem_singleton] at started
        subst started
        simp only [Bool.and_eq_true, decide_eq_true_eq] at accepted
        rcases restart_proxy_completes server terminator body accepted.2 with
          ⟨here, named, supervised, result, handled⟩
        rcases admission_handle _ _ _ _ _ _ admitted with ⟨-, -, -, guarded⟩
        rcases guarded rfl with ⟨healthy, verified⟩
        have closing : (serve (startServer server terminator) process.audit .restart moment
            request).closing = close (startServer server terminator) .restart moment request
              env.actor (.completeOK terminator.localNodeID (some result) 0) := by
          simp only [serve, admitted, handlerFunc, handleRestart, decoded, accepted.1, handled]
          rfl
        refine ⟨⟨healthy, ⟨body, decoded, accepted.1, here, named⟩, ?_⟩, supervised⟩
        refine ⟨env.actor, recordAt (startServer server terminator) .restart moment request
          terminator.localNodeID env.actor 0 .accepted none "",
          ⟨.restart, moment.requestID, .accepted, some result, none⟩, verified, ?_, rfl, rfl, rfl,
          ?_, rfl⟩
        · simp only [wrap, Served.audited, closing, close]
        · simp only [wrap, respond, closing, close]
      · cases started
    · cases started
  · cases started

/-- A request with the token that names this peer is accepted, while the audit is healthy and
there is a supervisor. -/
theorem goroutine_started (process : Process) (moment : Moment) (request : Request)
    (body : RestartRequest) (actor : String)
    (verified : server.auth.verify moment.tokens request.authorization = .ok actor)
    (healthy : process.audit.healthy = true)
    (decoded : decodeBody restartRequest request.body = .ok body)
    (target : body.target = "proxy") (here : body.targetNode = terminator.localNodeID)
    (named : body.targetNode ≠ "") (supervised : terminator.presence ≠ .none) :
    goroutines (startServer server terminator) process (.request .restart moment request) =
      [⟨process.audit, moment, request⟩] := by
  have admitted : admission (startServer server terminator) process.audit .restart moment
      request = .handle ⟨.restart, moment.requestID, actor, false⟩ := by
    have mutating : Op.restart.mutating = true := rfl
    have anywhere : Op.restart.leaderOnly = false := rfl
    simp [admission, route, startServer, verified, healthy, mutating, anywhere]
  have completed : completes (handleRestartProxy (startServer server terminator) body).ending =
      true := by
    have present : ¬ terminator.presence.text = "none" := by rwa [presence_none_iff]
    simp only [handleRestartProxy, startServer]
    rw [if_neg (by simp [here ▸ named, here]), if_neg present]
    rfl
  simp only [goroutines, admitted, decoded, target, completed]
  rfl

end Earned

/-! ## Runs -/

/-- A restart that was accepted is waiting or has begun. -/
theorem step_accounts (terminator : SelfTerminator) (server : Server) (process : Process)
    (event : Event) :
    (step terminator server process event).lines.length +
        (step terminator server process event).waiting =
      process.lines.length + process.waiting + (goroutines server process event).length := by
  cases event with
  | request op moment request =>
      simp only [step]
      omega
  | pauseOver =>
      simp only [step, goroutines, List.length_nil]
      split
      · rfl
      · simp only [SelfTerminator.selfTerminate]
        split <;>
          · simp only [List.length_append, List.length_singleton]
            omega

/-- With the hook wired, the shutdown has begun once a line says so, and nothing exits past
the drain. -/
structure Drains (process : Process) : Prop where
  cancelled : process.cancelled = true ↔ process.lines ≠ []
  exits : process.exits = 0

theorem step_drains (terminator : SelfTerminator) (hooked : terminator.shutdown = true)
    (server : Server) (process : Process) (event : Event) (drains : Drains process) :
    Drains (step terminator server process event) := by
  cases event with
  | request op moment request => exact ⟨drains.cancelled, drains.exits⟩
  | pauseOver =>
      simp only [step]
      split
      · exact drains
      · rw [SelfTerminator.selfTerminate, if_pos hooked]
        exact ⟨by simp, drains.exits⟩

section Peer

variable (server : Server) (nodeID : String) (assumeSupervised : Bool)
  (surroundings : Surroundings) (audit : Audit) (events : List Event)

/-- The peer that `Start` builds, after these events. -/
def peerAfter : Process :=
  let terminator := startTerminator nodeID assumeSupervised surroundings
  run (step terminator (startServer server terminator)) (.fresh audit) events

/-- The restarts it accepted on the way. -/
def acceptedRestarts : List Restart :=
  let terminator := startTerminator nodeID assumeSupervised surroundings
  trail (step terminator (startServer server terminator))
    (goroutines (startServer server terminator)) (.fresh audit) events

/-- Whatever requests arrive, and whenever the goroutines go on: the shutdown begins once for
every accepted restart that is not waiting any more, always with a drain. Every accepted
restart was earned and found a supervisor; and a further request that earns it is accepted. -/
theorem self_restarts_earned :
    (peerAfter server nodeID assumeSupervised surroundings audit events).lines.length +
        (peerAfter server nodeID assumeSupervised surroundings audit events).waiting =
      (acceptedRestarts server nodeID assumeSupervised surroundings audit events).length ∧
    Drains (peerAfter server nodeID assumeSupervised surroundings audit events) ∧
    (∀ restart ∈ acceptedRestarts server nodeID assumeSupervised surroundings audit events,
      Earned (startServer server (startTerminator nodeID assumeSupervised surroundings))
        (startTerminator nodeID assumeSupervised surroundings) restart) ∧
    (acceptedRestarts server nodeID assumeSupervised surroundings audit events ≠ [] →
      Supervised assumeSupervised surroundings) ∧
    ∀ (moment : Moment) (request : Request) (body : RestartRequest) (actor : String),
      server.auth.verify moment.tokens request.authorization = .ok actor →
      (peerAfter server nodeID assumeSupervised surroundings audit events).audit.healthy = true →
      decodeBody restartRequest request.body = .ok body → body.target = "proxy" →
      body.targetNode = nodeID → nodeID ≠ "" → Supervised assumeSupervised surroundings →
      acceptedRestarts server nodeID assumeSupervised surroundings audit
          (events ++ [.request .restart moment request]) =
        acceptedRestarts server nodeID assumeSupervised surroundings audit events ++
          [⟨(peerAfter server nodeID assumeSupervised surroundings audit events).audit, moment,
            request⟩] := by
  have earned : ∀ restart ∈ acceptedRestarts server nodeID assumeSupervised surroundings audit
      events, Earned (startServer server (startTerminator nodeID assumeSupervised surroundings))
        (startTerminator nodeID assumeSupervised surroundings) restart ∧
      (startTerminator nodeID assumeSupervised surroundings).presence ≠ .none :=
    trail_forall _ _ _ (goroutine_earned server _) (.fresh audit) events
  refine ⟨?_, ?_, ?_, ?_, ?_⟩
  · have counted := trail_length _ _ (fun process : Process =>
      process.lines.length + process.waiting)
      (step_accounts (startTerminator nodeID assumeSupervised surroundings)
        (startServer server (startTerminator nodeID assumeSupervised surroundings)))
      (.fresh audit) events
    exact counted.trans (Nat.zero_add _)
  · exact run_invariant _ Drains (step_drains _ rfl _) _ ⟨by simp [Process.fresh], rfl⟩ events
  · intro restart member
    exact (earned restart member).1
  · intro accepted
    rcases List.exists_mem_of_ne_nil _ accepted with ⟨restart, member⟩
    by_contra unsupervised
    exact (earned restart member).2 ((detect_none_iff _ _).2 unsupervised)
  · intro moment request body actor verified healthy decoded target here named supervised
    have present : (startTerminator nodeID assumeSupervised surroundings).presence ≠ .none := by
      intro absent
      exact (detect_none_iff _ _).1 absent supervised
    have started := goroutine_started server _ _ moment request body actor verified healthy
      decoded target here (here ▸ named) present
    exact (trail_snoc _ _ _ events _).trans (congrArg _ started)

end Peer

end PgmanProxy.Runtime.SelfRestart
