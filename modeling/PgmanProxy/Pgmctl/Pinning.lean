import PgmanProxy.Pgmctl.Commands

/-!
# Cluster pinning

Exactly which invocations put their mutating request on the wire, and what that
means for the cluster id the operator pinned. The conditions are all local: the
id the server reports in `/v1/status` is read by no command.
-/

namespace PgmanProxy.Pgmctl.Pinning

open PgmanProxy.Library.GoStrings PgmanProxy.Pgmctl.Config PgmanProxy.Pgmctl.Commands

set_option autoImplicit false

def Sends (invocation : Invocation) (server : ServerView) : Prop :=
  ∃ mutation, mutatingRequest invocation server = .ok mutation

/-- The confirmation passes: some id is pinned, and it was given with `--cluster` next
to `--force` or typed at the prompt. -/
def Confirmed (invocation : Invocation) (client : Client) : Prop :=
  pinned invocation.flags client.resolved ≠ "" ∧
    (invocation.flags.force = true → invocation.flags.cluster ≠ "") ∧
    (invocation.flags.force = false → invocation.terminal.isTTY = true ∧
      trimSpace invocation.terminal.line = pinned invocation.flags client.resolved)

def TokenAvailable (invocation : Invocation) (client : Client) : Prop :=
  ∃ token, client.tokenSource.token invocation.machine invocation.network = .ok token

/-- The command's own checks: arguments, the confirmation, and for `promote` an open
join window that lists the target. Cancelling an authorization asks for nothing. -/
def CommandCleared (invocation : Invocation) (server : ServerView) (client : Client) : Prop :=
  match invocation.command with
  | .failover => Confirmed invocation client
  | .switchover target => target ≠ "" ∧ Confirmed invocation client
  | .restart target targetNode =>
      (target = "postgres" ∨ target = "proxy") ∧ (target = "proxy" → targetNode ≠ "") ∧
        Confirmed invocation client
  | .promote args =>
      if args.cancel then args.nodes = []
      else
        ∃ target window, args.nodes = [target] ∧ args.acceptDataLoss = true ∧
          trimSpace args.reason ≠ "" ∧ server.statusFailure = none ∧
          server.joinWindow = some window ∧ target ≠ window.publisher ∧
          target ∈ window.peers ∧ Confirmed invocation client

/-- Every local check passes. -/
def Cleared (invocation : Invocation) (server : ServerView) (client : Client) : Prop :=
  preRun invocation.flags = .ok () ∧ setup invocation = .ok client ∧
    CommandCleared invocation server client ∧ TokenAvailable invocation client

theorem confirm_cluster_name_ok_iff (terminal : Terminal) (op target expected : String)
    (force matched : Bool) :
    confirmClusterName terminal op target expected force matched = .ok () ↔
      (force = true → matched = true) ∧
        (force = false → terminal.isTTY = true ∧ trimSpace terminal.line = expected) := by
  unfold confirmClusterName
  cases force with
  | true => cases matched <;> simp
  | false =>
      cases tty : terminal.isTTY with
      | false => simp
      | true =>
          by_cases typed : trimSpace terminal.line = expected
          · simp [typed]
          · simp [typed]

theorem prompt_ok_iff (invocation : Invocation) (client : Client) (op target : String) :
    clusterAffectingPrompt invocation client op target = .ok () ↔
      Confirmed invocation client := by
  unfold clusterAffectingPrompt Confirmed
  by_cases unpinned : pinned invocation.flags client.resolved = ""
  · simp [unpinned]
  · simp only [unpinned, if_false, ne_eq, not_false_eq_true, true_and,
      confirm_cluster_name_ok_iff, decide_eq_true_eq]
    have matches_iff : invocation.flags.cluster = pinned invocation.flags client.resolved ↔
        invocation.flags.cluster ≠ "" := by
      unfold pinned at unpinned ⊢
      by_cases given : invocation.flags.cluster = ""
      · simp only [given, if_true, ne_eq, not_true_eq_false, iff_false] at unpinned ⊢
        exact fun same => unpinned same.symm
      · simp [given]
    rw [matches_iff]

theorem send_ok_iff (invocation : Invocation) (client : Client) (mutation : Mutation) :
    (∃ sent, send invocation client mutation = .ok sent) ↔
      TokenAvailable invocation client := by
  unfold send TokenAvailable
  cases client.tokenSource.token invocation.machine invocation.network <;> simp

/-- Confirm, then send: the tail every confirmed command shares. -/
theorem confirmed_send_ok_iff (invocation : Invocation) (client : Client) (op target : String)
    (mutation : Mutation) :
    (∃ sent, (do
        clusterAffectingPrompt invocation client op target
        send invocation client mutation) = Except.ok sent) ↔
      Confirmed invocation client ∧ TokenAvailable invocation client := by
  rw [← prompt_ok_iff invocation client op target, ← send_ok_iff invocation client mutation]
  cases clusterAffectingPrompt invocation client op target <;> simp [bind, Except.bind]

theorem run_switchover_ok_iff (invocation : Invocation) (client : Client) (target : String) :
    (∃ sent, runSwitchover invocation client target = .ok sent) ↔
      target ≠ "" ∧ Confirmed invocation client ∧ TokenAvailable invocation client := by
  unfold runSwitchover
  by_cases missing : target = ""
  · simp [missing, throw, throwThe, MonadExceptOf.throw, bind, Except.bind]
  · rw [← confirmed_send_ok_iff invocation client "switchover" target]
    simp only [missing, if_false, ne_eq, not_false_eq_true, true_and]
    rfl

theorem run_restart_ok_iff (invocation : Invocation) (client : Client)
    (target targetNode : String) :
    (∃ sent, runRestart invocation client target targetNode = .ok sent) ↔
      (target = "postgres" ∨ target = "proxy") ∧ (target = "proxy" → targetNode ≠ "") ∧
        Confirmed invocation client ∧ TokenAvailable invocation client := by
  unfold runRestart
  by_cases known : target = "postgres" ∨ target = "proxy"
  · have passes : (target ≠ "postgres" && target ≠ "proxy") = false := by
      rcases known with same | same <;> simp [same]
    by_cases nodeless : target = "proxy" ∧ targetNode = ""
    · obtain ⟨proxy, missing⟩ := nodeless
      simp [proxy, missing, throw, throwThe, MonadExceptOf.throw, bind, Except.bind]
    · have addressed : (target = "proxy" && targetNode = "") = false := by
        simpa using nodeless
      have named : target = "proxy" → targetNode ≠ "" :=
        fun proxy missing => nodeless ⟨proxy, missing⟩
      rw [← confirmed_send_ok_iff invocation client (restartLabel target targetNode) targetNode]
      simp only [passes, addressed, known, true_and, Bool.false_eq_true, if_false]
      exact ⟨fun sent => ⟨named, sent⟩, fun sent => sent.2⟩
  · obtain ⟨notPostgres, notProxy⟩ := not_or.1 known
    simp [notPostgres, notProxy, throw, throwThe, MonadExceptOf.throw, bind, Except.bind]

theorem preflight_ok_iff (window : JoinWindow) (target : String) :
    promotePreflight window target = .ok () ↔
      target ≠ window.publisher ∧ target ∈ window.peers := by
  unfold promotePreflight
  by_cases publisher : target = window.publisher
  · simp [publisher]
  · by_cases member : target ∈ window.peers
    · simp [publisher, member]
    · simp [publisher, member]

theorem fetch_status_ok_iff (invocation : Invocation) (client : Client) (server : ServerView)
    (status : EngineStatus) :
    fetchEngineStatus invocation client server = .ok status ↔
      TokenAvailable invocation client ∧ server.statusFailure = none ∧
        status = ⟨server.clusterID, server.joinWindow⟩ := by
  unfold fetchEngineStatus TokenAvailable
  cases client.tokenSource.token invocation.machine invocation.network with
  | error text => simp
  | ok token =>
      cases server.statusFailure with
      | some failure => simp
      | none => simp [eq_comm]

theorem run_promote_ok_iff (invocation : Invocation) (client : Client) (server : ServerView)
    (args : PromoteArgs) (target : String) :
    (∃ sent, runPromote invocation client server args target = .ok sent) ↔
      (∃ window, server.statusFailure = none ∧ server.joinWindow = some window ∧
        target ≠ window.publisher ∧ target ∈ window.peers ∧ Confirmed invocation client) ∧
        TokenAvailable invocation client := by
  unfold runPromote
  cases fetched : fetchEngineStatus invocation client server with
  | error failure =>
      constructor
      · rintro ⟨sent, impossible⟩
        cases impossible
      · rintro ⟨⟨window, reachable, _⟩, token⟩
        have status := (fetch_status_ok_iff invocation client server
          ⟨server.clusterID, server.joinWindow⟩).2 ⟨token, reachable, rfl⟩
        rw [fetched] at status
        cases status
  | ok status =>
      obtain ⟨token, reachable, rfl⟩ := (fetch_status_ok_iff _ _ _ _).1 fetched
      cases opened : server.joinWindow with
      | none => simp [bind, Except.bind, throw, throwThe, MonadExceptOf.throw]
      | some window =>
          have tail := confirmed_send_ok_iff invocation client "promote" target
          cases preflight : promotePreflight window target with
          | error failure =>
              have refused : ¬(target ≠ window.publisher ∧ target ∈ window.peers) := by
                rw [← preflight_ok_iff, preflight]
                simp
              simp only [bind, Except.bind, preflight, reduceCtorEq, exists_false, false_iff]
              rintro ⟨⟨other, _, same, distinct, member, _⟩, _⟩
              cases same
              exact refused ⟨distinct, member⟩
          | ok passed =>
              obtain ⟨distinct, member⟩ := (preflight_ok_iff window target).1 preflight
              simp only [bind, Except.bind, preflight] at tail ⊢
              constructor
              · intro sent
                obtain ⟨confirmed, available⟩ := (tail _).1 sent
                exact ⟨⟨window, reachable, rfl, distinct, member, confirmed⟩, available⟩
              · rintro ⟨⟨_, _, _, _, _, confirmed⟩, available⟩
                exact (tail _).2 ⟨confirmed, available⟩

theorem promote_usage_node_iff (args : PromoteArgs) (target : String) :
    promoteUsage args = .ok (some target) ↔
      args.cancel = false ∧ args.nodes = [target] ∧ args.acceptDataLoss = true ∧
        trimSpace args.reason ≠ "" := by
  obtain ⟨nodes, accept, reason, ttl, replace, cancel⟩ := args
  unfold promoteUsage
  cases cancel with
  | true => cases nodes <;> simp
  | false =>
      match nodes with
      | [] => simp
      | [node] =>
          cases accept with
          | false => simp
          | true => by_cases blank : trimSpace reason = "" <;> simp [blank]
      | first :: second :: rest => simp

theorem promote_usage_cancel_iff (args : PromoteArgs) :
    promoteUsage args = .ok none ↔ args.cancel = true ∧ args.nodes = [] := by
  obtain ⟨nodes, accept, reason, ttl, replace, cancel⟩ := args
  unfold promoteUsage
  cases cancel with
  | true => cases nodes <;> simp
  | false =>
      match nodes with
      | [] => simp
      | [node] =>
          cases accept with
          | false => simp
          | true => by_cases blank : trimSpace reason = "" <;> simp [blank]
      | first :: second :: rest => simp

theorem promote_ok_iff (invocation : Invocation) (server : ServerView) (args : PromoteArgs)
    (client : Client) (command : invocation.command = .promote args) :
    (∃ sent, (do
        let node ← promoteUsage args
        match node with
        | none => runPromoteCancel invocation client
        | some target => runPromote invocation client server args target) = Except.ok sent) ↔
      CommandCleared invocation server client ∧ TokenAvailable invocation client := by
  simp only [CommandCleared, command]
  cases usage : promoteUsage args with
  | error failure =>
      have notCancel := (promote_usage_cancel_iff args).not.1 (by simp [usage])
      have notNode := fun target => (promote_usage_node_iff args target).not.1 (by simp [usage])
      simp only [bind, Except.bind, reduceCtorEq, exists_false, false_iff]
      rintro ⟨cleared, _⟩
      cases cancel : args.cancel with
      | true =>
          simp only [cancel, if_true] at cleared
          exact notCancel ⟨cancel, cleared⟩
      | false =>
          simp only [cancel, Bool.false_eq_true, if_false] at cleared
          obtain ⟨target, _, nodes, accepts, explained, _⟩ := cleared
          exact notNode target ⟨cancel, nodes, accepts, explained⟩
  | ok node =>
      cases node with
      | none =>
          obtain ⟨cancel, nodes⟩ := (promote_usage_cancel_iff args).1 usage
          simp only [bind, Except.bind, cancel, if_true, nodes, true_and, runPromoteCancel]
          exact send_ok_iff invocation client _
      | some target =>
          obtain ⟨cancel, nodes, accepts, explained⟩ := (promote_usage_node_iff args target).1 usage
          simp only [bind, Except.bind, cancel, Bool.false_eq_true, if_false]
          rw [run_promote_ok_iff]
          constructor
          · rintro ⟨⟨window, cleared⟩, token⟩
            exact ⟨⟨target, window, nodes, accepts, explained, cleared⟩, token⟩
          · rintro ⟨⟨other, window, sameNodes, _, _, cleared⟩, token⟩
            rw [nodes] at sameNodes
            cases sameNodes
            exact ⟨⟨window, cleared⟩, token⟩

/-- A command sends its request exactly when every local check passes. -/
theorem sends_iff_cleared (invocation : Invocation) (server : ServerView) :
    Sends invocation server ↔ ∃ client, Cleared invocation server client := by
  unfold Sends Cleared mutatingRequest
  cases usable : preRun invocation.flags with
  | error failure => simp [bind, Except.bind]
  | ok passed =>
      cases ready : setup invocation with
      | error failure =>
          simp only [reduceCtorEq, false_and, and_false, exists_false, iff_false]
          rintro ⟨sent, impossible⟩
          cases command : invocation.command with
          | promote args =>
              simp only [command, bind, Except.bind] at impossible
              cases usage : promoteUsage args <;> simp [usage] at impossible
          | _ => simp [command, bind, Except.bind] at impossible
      | ok client =>
          simp only [Except.ok.injEq, exists_eq_left', true_and]
          cases command : invocation.command with
          | failover =>
              simp only [CommandCleared, command]
              exact confirmed_send_ok_iff invocation client "failover" "" _
          | switchover target =>
              simp only [CommandCleared, command, and_assoc]
              exact run_switchover_ok_iff invocation client target
          | restart target targetNode =>
              simp only [CommandCleared, command, and_assoc]
              exact run_restart_ok_iff invocation client target targetNode
          | promote args =>
              rw [← promote_ok_iff invocation server args client command]
              rfl

/-- Some local check refuses the invocation. -/
def Stopped (invocation : Invocation) (server : ServerView) : Prop :=
  ¬∃ client, Cleared invocation server client

/-- The operator pinned a cluster, and it is this one. -/
def PinnedTo (invocation : Invocation) (client : Client) (clusterID : String) : Prop :=
  pinned invocation.flags client.resolved ≠ "" ∧
    pinned invocation.flags client.resolved = clusterID

def PinMatches (invocation : Invocation) (server : ServerView) : Prop :=
  ∃ client, setup invocation = .ok client ∧ PinnedTo invocation client server.clusterID

/-- Whatever the flags, context and environment: the mutating request goes only to the
pinned cluster exactly when a local check stops the command or the server happens to
report the pinned id. -/
theorem sends_only_to_pinned_iff (invocation : Invocation) (server : ServerView) :
    (∀ client, setup invocation = .ok client → Sends invocation server →
        PinnedTo invocation client server.clusterID) ↔
      Stopped invocation server ∨ PinMatches invocation server := by
  constructor
  · intro confined
    by_cases stopped : Stopped invocation server
    · exact Or.inl stopped
    · obtain ⟨client, cleared⟩ := not_not.1 stopped
      have sends : Sends invocation server := (sends_iff_cleared _ _).2 ⟨client, cleared⟩
      exact Or.inr ⟨client, cleared.2.1, confined client cleared.2.1 sends⟩
  · rintro (stopped | ⟨other, otherReady, same⟩) client ready sends
    · exact absurd ((sends_iff_cleared _ _).1 sends) stopped
    · rw [otherReady] at ready
      cases ready
      exact same

/-- An operator who believes the endpoint belongs to `prod`. -/
def forcedFailover : Invocation where
  command := .failover
  flags := ⟨"table", false, 0, true, "https://db.internal:9091", "", "prod", "", false⟩
  machine :=
    { getenv := fun name => if name = "PGMCTL_TOKEN" then "s3cret" else ""
      defaultPath := "/home/op/.config/pgmctl/config.yaml"
      load := fun _ => .error ⟨true, "no such file or directory"⟩ }
  network :=
    { parseURL := fun _ => .ok ⟨"https", "db.internal:9091"⟩
      buildTLS := fun _ _ => .ok ()
      expandHome := fun path => .ok path
      readFile := fun _ => .error "no such file or directory"
      runCommand := fun _ => .error "not found" }
  terminal := ⟨false, ""⟩
  requestID := "01j"

def stagingServer : ServerView := ⟨"staging", none, none⟩

/-- `pgmctl failover --force --cluster prod` is sent to a server that reports `staging`. -/
theorem forced_failover_sent_to_other_cluster :
    Sends forcedFailover stagingServer ∧
      ∃ client, setup forcedFailover = .ok client ∧ PinnedTo forcedFailover client "prod" ∧
        ¬PinnedTo forcedFailover client stagingServer.clusterID := by
  refine ⟨⟨_, rfl⟩, _, rfl, ⟨by decide, rfl⟩, ?_⟩
  rintro ⟨_, same⟩
  exact absurd same (by decide)

end PgmanProxy.Pgmctl.Pinning
