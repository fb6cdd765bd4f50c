import PgmanProxy.Library.GoJson
import PgmanProxy.Pgmctl.Config

/-!
# The cluster-affecting pgmctl commands

`failover`, `switchover`, `restart` and `promote`, each up to the moment its
mutating request is put on the wire: profile resolution, client construction,
the `--cluster` check against the context, argument checks, the status
pre-flight of `promote` and the typed-name confirmation.
-/

namespace PgmanProxy.Pgmctl.Commands

open PgmanProxy.Library.GoJson PgmanProxy.Library.GoStrings PgmanProxy.Pgmctl.Config

set_option autoImplicit false

def exitUnhealthy : Nat := 2
def exitSubjectNA : Nat := 4
def exitUsage : Nat := 64
def exitConfig : Nat := 78

/-- An error with the exit code the process ends with. -/
structure Failure where
  exit : Nat
  text : String
deriving DecidableEq, Repr

structure GlobalFlags where
  outputFormat : String
  quiet : Bool
  verbose : Nat
  force : Bool
  endpoint : String
  context : String
  cluster : String
  configPath : String
  insecureSkipTLSVerify : Bool
deriving DecidableEq, Repr

structure URL where
  scheme : String
  host : String
deriving DecidableEq, Repr

/-- Standard input and error, and the line the operator types. -/
structure Terminal where
  isTTY : Bool
  line : String
deriving DecidableEq, Repr

/-- What the client package asks of the outside world. -/
structure Network where
  parseURL : String → Except String URL
  buildTLS : TLSBlock → Bool → Except String Unit
  expandHome : String → Except String String
  readFile : String → Except String String
  runCommand : List String → Except String String

structure JoinWindow where
  publisher : String
  peers : List String
deriving DecidableEq, Repr

/-- The slice of `/v1/status` the commands look at. -/
structure EngineStatus where
  clusterID : String
  joinWindow : Option JoinWindow
deriving DecidableEq, Repr

structure PromoteArgs where
  nodes : List String
  acceptDataLoss : Bool
  reason : String
  ttl : Int
  replace : Bool
  cancel : Bool
deriving DecidableEq, Repr

inductive Command where
  | failover
  | switchover (target : String)
  | restart (target targetNode : String)
  | promote (args : PromoteArgs)
deriving DecidableEq, Repr

structure Invocation where
  command : Command
  flags : GlobalFlags
  machine : Machine
  network : Network
  terminal : Terminal
  requestID : String

/-- The server at the resolved endpoint: what it reports, or why it cannot be asked. -/
structure ServerView where
  clusterID : String
  joinWindow : Option JoinWindow
  statusFailure : Option Failure

structure Mutation where
  method : String
  path : String
  body : Option Json

/-! ## Client construction -/

def stripBrackets (host : String) : String :=
  let bracket := fun rune => rune = '[' || rune = ']'
  String.ofList ((host.toList.dropWhile bracket).rdropWhile bracket)

/-- The host without its port; a colon inside brackets is part of an address. -/
def stripPort (host : String) : String :=
  let runes := host.toList
  let after := runes.reverse.takeWhile (fun rune => rune != ':')
  if ':' ∈ runes && ']' ∉ after then
    String.ofList (runes.take (runes.length - after.length - 1))
  else host

def isLoopbackHost (host : String) : Bool :=
  let bare := stripBrackets (stripPort host)
  if bare = "" then false
  else bare = "127.0.0.1" || bare = "::1" || bare = "localhost" || (cutLead "127." bare).isSome

inductive TokenSource where
  | env (name : String)
  | file (path : String)
  | command (argv : List String)
deriving DecidableEq, Repr

def newTokenSource (network : Network) (resolved : Resolved) : Except String TokenSource :=
  if resolved.tokenEnv ≠ "" then .ok (.env resolved.tokenEnv)
  else if resolved.tokenFile ≠ "" then
    match network.expandHome resolved.tokenFile with
    | .error text => .error text
    | .ok path => .ok (.file path)
  else if !resolved.tokenCommand.isEmpty then .ok (.command resolved.tokenCommand)
  else .error "no token source resolved"

def TokenSource.token (machine : Machine) (network : Network) :
    TokenSource → Except String String
  | .env name =>
      if machine.getenv name = "" then .error ("env " ++ name ++ " is empty or unset")
      else .ok (trimSpace (machine.getenv name))
  | .file path =>
      match network.readFile path with
      | .error text => .error ("read token file " ++ path ++ ": " ++ text)
      | .ok raw =>
          if trimSpace raw = "" then .error ("token file " ++ path ++ " is empty")
          else .ok (trimSpace raw)
  | .command argv =>
      let printed := "[" ++ " ".intercalate argv ++ "]"
      match network.runCommand argv with
      | .error text => .error ("token command " ++ printed ++ " failed: " ++ text)
      | .ok output =>
          if trimSpace output = "" then
            .error ("token command " ++ printed ++ " produced empty output")
          else .ok (trimSpace output)

structure Client where
  resolved : Resolved
  tokenSource : TokenSource
deriving DecidableEq, Repr

def newClient (network : Network) (flags : GlobalFlags) (resolved : Resolved) :
    Except String Client :=
  match network.parseURL resolved.endpoint with
  | .error text => .error ("parse endpoint " ++ quote resolved.endpoint ++ ": " ++ text)
  | .ok base =>
      if base.scheme ≠ "https" && !isLoopbackHost base.host then
        .error ("endpoint " ++ quote resolved.endpoint ++
          " must use https:// unless host is loopback")
      else
        match network.buildTLS resolved.tls flags.insecureSkipTLSVerify with
        | .error text => .error text
        | .ok () =>
            match newTokenSource network resolved with
            | .error text => .error text
            | .ok source => .ok ⟨resolved, source⟩

def setup (invocation : Invocation) : Except Failure Client :=
  let flags := invocation.flags
  match resolve invocation.machine ⟨flags.endpoint, flags.context, flags.configPath⟩ with
  | .error text => .error ⟨exitConfig, text⟩
  | .ok resolved =>
      match newClient invocation.network flags resolved with
      | .error text => .error ⟨exitConfig, text⟩
      | .ok client =>
          if flags.cluster ≠ "" && resolved.expectedCluster ≠ "" &&
              flags.cluster ≠ resolved.expectedCluster then
            .error ⟨exitConfig, "--cluster " ++ quote flags.cluster ++
              " does not match the active context's expected_cluster " ++
              quote resolved.expectedCluster⟩
          else .ok client

/-! ## Confirmation -/

/-- `ConfirmClusterName`; both refusals exit with the usage code except the `--force`
one, which carries no code of its own. -/
def confirmClusterName (terminal : Terminal) (op target expected : String)
    (force matched : Bool) : Except Failure Unit :=
  if force then
    if !matched then
      .error ⟨exitUnhealthy, "--force requires a matching --cluster " ++ expected ++
        "; refusing to " ++ op ++ " without typed cluster-name confirmation"⟩
    else .ok ()
  else if !terminal.isTTY then
    .error ⟨exitUsage, "stdin/stdout is not a TTY and no override flag was supplied: pass " ++
      "--force --cluster " ++ expected ++ " to confirm " ++ op ++ " on " ++ target⟩
  else if trimSpace terminal.line = expected then .ok ()
  else .error ⟨exitUsage, "operation refused by operator"⟩

/-- The cluster id the operator pinned: `--cluster`, or else the context's
`expected_cluster`. A name typed at the prompt has to repeat it. -/
def pinned (flags : GlobalFlags) (resolved : Resolved) : String :=
  if flags.cluster = "" then resolved.expectedCluster else flags.cluster

def clusterAffectingPrompt (invocation : Invocation) (client : Client) (op target : String) :
    Except Failure Unit :=
  let expected := pinned invocation.flags client.resolved
  if expected = "" then
    .error ⟨exitConfig, "cluster-affecting operations require an expected cluster id; set " ++
      "--cluster or activate a context with expected_cluster"⟩
  else
    confirmClusterName invocation.terminal op target expected invocation.flags.force
      (invocation.flags.cluster = expected)

/-! ## The commands -/

/-- `PostJSON` and `DeleteJSON` up to the exchange: the bearer token is read last. -/
def send (invocation : Invocation) (client : Client) (mutation : Mutation) :
    Except Failure Mutation :=
  match client.tokenSource.token invocation.machine invocation.network with
  | .error text => .error ⟨exitUnhealthy, "resolve bearer token: " ++ text⟩
  | .ok _ => .ok mutation

def runFailover (invocation : Invocation) (client : Client) : Except Failure Mutation := do
  clusterAffectingPrompt invocation client "failover" ""
  send invocation client
    ⟨"POST", "/v1/failover", some (.obj [("request_id", .str invocation.requestID)])⟩

def runSwitchover (invocation : Invocation) (client : Client) (target : String) :
    Except Failure Mutation := do
  if target = "" then throw ⟨exitUsage, "--target is required"⟩
  clusterAffectingPrompt invocation client "switchover" target
  send invocation client ⟨"POST", "/v1/switchover", some (.obj
    [("request_id", .str invocation.requestID), ("target", .str target)])⟩

def restartLabel (target targetNode : String) : String :=
  if targetNode = "" then "restart " ++ target else "restart " ++ target ++ " on " ++ targetNode

def runRestart (invocation : Invocation) (client : Client) (target targetNode : String) :
    Except Failure Mutation := do
  if target ≠ "postgres" && target ≠ "proxy" then
    throw ⟨exitUsage, "--target must be 'postgres' or 'proxy', got " ++ quote target⟩
  if target = "proxy" && targetNode = "" then
    throw ⟨exitUsage, "--target-node is required when --target=proxy (the receiving peer must " ++
      "match this id)"⟩
  clusterAffectingPrompt invocation client (restartLabel target targetNode) targetNode
  send invocation client ⟨"POST", "/v1/restart", some (.obj
    [("request_id", .str invocation.requestID), ("target", .str target),
     ("target_node", .str targetNode)])⟩

/-- `fetchEngineStatus`, which needs the bearer token as well. -/
def fetchEngineStatus (invocation : Invocation) (client : Client) (server : ServerView) :
    Except Failure EngineStatus :=
  match client.tokenSource.token invocation.machine invocation.network with
  | .error text => .error ⟨exitUnhealthy, "resolve bearer token: " ++ text⟩
  | .ok _ =>
      match server.statusFailure with
      | some failure => .error failure
      | none => .ok ⟨server.clusterID, server.joinWindow⟩

/-- The refusals of `printPromotePreflight`. -/
def promotePreflight (window : JoinWindow) (target : String) : Except Failure Unit :=
  if target = window.publisher then
    .error ⟨exitUsage, target ++ " is the join-window publisher; it needs no authorization"⟩
  else if target ∉ window.peers then
    .error ⟨exitUsage, target ++ " is not a member of the cluster"⟩
  else .ok ()

def runPromote (invocation : Invocation) (client : Client) (server : ServerView)
    (args : PromoteArgs) (target : String) : Except Failure Mutation := do
  let status ← fetchEngineStatus invocation client server
  match status.joinWindow with
  | none =>
      throw ⟨exitSubjectNA, "the cluster is not in a join window, so there is nothing to " ++
        "override; use 'pgmctl switchover --target NODE' or 'pgmctl failover'"⟩
  | some window =>
      promotePreflight window target
      clusterAffectingPrompt invocation client "promote" target
      send invocation client ⟨"POST", "/v1/promotion-authorization", some (.obj
        [("accept_data_loss", .bool true), ("reason", .str args.reason),
         ("replace", .bool args.replace), ("request_id", .str invocation.requestID),
         ("target", .str target), ("ttl_seconds", .num (toString (args.ttl.tdiv 1000000000)))])⟩

def runPromoteCancel (invocation : Invocation) (client : Client) : Except Failure Mutation :=
  send invocation client ⟨"DELETE", "/v1/promotion-authorization", none⟩

/-- The checks `promote` makes before it sets up its client. -/
def promoteUsage (args : PromoteArgs) : Except Failure (Option String) :=
  if args.cancel then
    if args.nodes ≠ [] then .error ⟨exitUsage, "--cancel takes no NODE"⟩ else .ok none
  else
    match args.nodes with
    | [node] =>
        if !args.acceptDataLoss then
          .error ⟨exitUsage, "--accept-data-loss is required: promoting " ++ node ++
            " abandons every write the join-window publisher acknowledged that " ++ node ++
            " has not received"⟩
        else if trimSpace args.reason = "" then
          .error ⟨exitUsage, "--reason is required; it is recorded with the authorization and " ++
            "every event"⟩
        else .ok (some node)
    | _ =>
        .error ⟨exitUsage, "NODE is required: pgmctl promote NODE --accept-data-loss " ++
          "--reason TEXT"⟩

/-- `PersistentPreRunE` -/
def preRun (flags : GlobalFlags) : Except Failure Unit :=
  if flags.quiet && flags.verbose > 0 then
    .error ⟨exitUsage, "--quiet and --verbose are mutually exclusive"⟩
  else if flags.outputFormat ∈ ["table", "json", "yaml", "wide", ""] then .ok ()
  else
    .error ⟨exitUsage, "unknown output format " ++ quote flags.outputFormat ++
      " (valid: table, json, yaml, wide)"⟩

/-- The mutating request an invocation puts on the wire, or what stopped it. -/
def mutatingRequest (invocation : Invocation) (server : ServerView) :
    Except Failure Mutation := do
  preRun invocation.flags
  match invocation.command with
  | .failover =>
      let client ← setup invocation
      runFailover invocation client
  | .switchover target =>
      let client ← setup invocation
      runSwitchover invocation client target
  | .restart target targetNode =>
      let client ← setup invocation
      runRestart invocation client target targetNode
  | .promote args =>
      let node ← promoteUsage args
      let client ← setup invocation
      match node with
      | none => runPromoteCancel invocation client
      | some target => runPromote invocation client server args target

end PgmanProxy.Pgmctl.Commands
