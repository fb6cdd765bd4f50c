import PgmanProxy.Library.GoStrings

/-!
# The peer's configuration and its validation

The record keeps every field that validation, the embedded server's options or
the managed Postgres files read. Durations are nanoseconds. `Validate` works on
a copy, so the cluster name it fills in from the cluster id is not seen outside.
-/

namespace PgmanProxy.Validation

open PgmanProxy.Library.GoStrings

set_option autoImplicit false

structure EndpointConfig where
  host : String
  port : Int
deriving DecidableEq, Repr

structure RoutesListenCfg where
  host : String
  port : Int
  enabled : Bool
deriving DecidableEq, Repr

structure ClusterTLSCfg where
  certFile : String
  keyFile : String
  caFile : String
  plaintextExplicitAck : Bool
deriving DecidableEq, Repr

structure ClusterConfig where
  id : String
  name : String
  declaredSize : Int
  clientListen : EndpointConfig
  routesListen : RoutesListenCfg
  routePeers : List String
  tls : ClusterTLSCfg
  username : String
  passwordEnv : String
  passwordFile : String
  jetStreamDir : String
  readyTimeout : Int
deriving DecidableEq, Repr

structure NATSConfig where
  url : String
  connectTimeout : Int
  credsFile : String
  tokenEnv : String
deriving DecidableEq, Repr

structure ProxyConfig where
  listenAddr : String
  switchPolicy : String
deriving DecidableEq, Repr

structure PostgresConfig where
  binDir : String
  dataDir : String
  localDSNEnv : String
  replicationAddr : String
  tlsMode : String
  tlsDisableExplicitAck : Bool
  hbaExtras : List String
  confExtras : List String
deriving DecidableEq, Repr

structure ControlConfig where
  listenAddr : String
  tokenEnv : String
  tokenFile : String
  leaderRouteMode : String
  leaderRouteTimeout : Int
  tls : ClusterTLSCfg
deriving DecidableEq, Repr

structure Config where
  deploymentMode : String
  cluster : ClusterConfig
  nodeID : String
  peers : List String
  nats : NATSConfig
  proxy : ProxyConfig
  postgres : PostgresConfig
  control : ControlConfig
  drainBudget : Int
deriving DecidableEq, Repr

/-- `nodeIDRegexp`: `^[a-z0-9][a-z0-9-]{0,62}$`. -/
def isNodeID (text : String) : Bool :=
  let alnum (rune : Char) : Bool := ('a' ≤ rune && rune ≤ 'z') || ('0' ≤ rune && rune ≤ '9')
  match text.toList with
  | [] => false
  | first :: rest =>
      alnum first && rest.length ≤ 62 && rest.all (fun rune => alnum rune || rune = '-')

/-- An identifier is not empty and has letters, digits and hyphens only. -/
theorem node_id_runes (text : String) (valid : isNodeID text = true) :
    text ≠ "" ∧ ∀ rune ∈ text.toList,
      ((('a' ≤ rune && rune ≤ 'z') || ('0' ≤ rune && rune ≤ '9')) || rune = '-') = true := by
  unfold isNodeID at valid
  extract_lets alnum at valid
  split at valid
  · cases valid
  · rename_i first rest runes
    simp only [Bool.and_eq_true, List.all_eq_true] at valid
    obtain ⟨⟨head, _⟩, tail⟩ := valid
    constructor
    · intro empty
      rw [empty] at runes
      cases runes
    · intro rune present
      rw [runes] at present
      rcases List.mem_cons.1 present with rfl | later
      · exact Bool.or_eq_true_iff.2 (.inl head)
      · exact tail rune later

/-- `MultiError.Add` of `text` when the rule is broken. -/
def issueIf (broken : Bool) (text : String) : List String :=
  if broken then [text] else []

def validSwitchPolicy (policy : String) : Bool :=
  policy ∈ ["hard_close", "drain", "pause"]

def validDeploymentMode (mode : String) : Bool :=
  mode ∈ ["standalone", "microservice", "sidecar"]

def validLeaderRouteMode (mode : String) : Bool :=
  mode ∈ ["forward", "redirect"]

section Rules

variable (std : Stdlib)

/-- A bare `:port` binds all interfaces and is not loopback. -/
def isLoopbackAddr (address : String) : Except String Bool :=
  match splitHostPort address with
  | .error text => .error text
  | .ok (host, _) =>
      if host = "" then .ok false
      else
        match std.parseIP host with
        | some loopback => .ok loopback
        | none => .ok (host = "localhost" || host = "ip6-localhost")

def identifierIssues (field value : String) : List String :=
  if value = "" then [field ++ " is required"]
  else issueIf (!isNodeID value) (field ++ " " ++ quote value ++ " is not a valid identifier")

def peersIssues (config : Config) : List String :=
  if config.peers = [] then ["peers must contain at least one entry"]
  else
    config.peers.flatMap (fun peer =>
      issueIf (!isNodeID peer) ("peers entry " ++ quote peer ++ " is not a valid identifier")) ++
    issueIf (config.nodeID ≠ "" && config.nodeID ∉ config.peers)
      ("peers must contain node.id " ++ quote config.nodeID)

def natsIssues (nats : NATSConfig) : List String :=
  issueIf (nats.url ≠ "")
    ("nats.url is no longer supported (feature 002 removed external NATS); see cluster.* for " ++
      "the embedded coordination plane and the migration guide in " ++
      "specs/002-embedded-nats-cluster/quickstart.md") ++
  issueIf (nats.credsFile ≠ "" || nats.tokenEnv ≠ "")
    ("nats.creds_file / nats.token_env are no longer supported (feature 002); cluster " ++
      "credentials live under cluster.username + cluster.password (RD-001a)") ++
  issueIf (nats.connectTimeout ≤ 0)
    ("nats.connect_timeout must be > 0 (used for the loopback dial into the embedded NATS server)")

/-- The rules of a routes listener that other hosts can reach. -/
def exposedRoutesIssues (cluster : ClusterConfig) : List String :=
  issueIf (cluster.username = "")
    ("cluster.username is required when cluster.routes_listen is non-loopback " ++
      "(FR-009 / RD-001a)") ++
  issueIf (cluster.passwordEnv = "" && cluster.passwordFile = "")
    ("cluster.password_env or cluster.password_file is required when cluster.routes_listen is " ++
      "non-loopback (FR-010 / RD-001a)") ++
  issueIf (!(cluster.tls.certFile ≠ "" && cluster.tls.keyFile ≠ "") &&
      !cluster.tls.plaintextExplicitAck)
    ("cluster-routes plaintext bind on non-loopback rejected without " ++
      "cluster.tls.plaintext_explicit_ack=true (FR-010b)") ++
  issueIf (decide (cluster.tls.certFile = "") != decide (cluster.tls.keyFile = ""))
    "cluster.tls.cert_file and cluster.tls.key_file must both be set or both be empty (FR-010b)"

def routesIssues (cluster : ClusterConfig) : List String :=
  if cluster.routesListen.enabled && cluster.declaredSize > 1 then
    let routesAddr := cluster.routesListen.host ++ ":" ++ toString cluster.routesListen.port
    match isLoopbackAddr std routesAddr with
    | .error text =>
        ["cluster.routes_listen " ++ quote routesAddr ++ " is not a valid host:port: " ++ text]
    | .ok true => []
    | .ok false => exposedRoutesIssues cluster
  else []

def validateCluster (cluster : ClusterConfig) : List String :=
  issueIf (cluster.declaredSize < 1)
    ("cluster.declared_size must be >= 1, got " ++ toString cluster.declaredSize ++ " (FR-011a)") ++
  issueIf (cluster.readyTimeout ≤ 0)
    ("cluster.ready_timeout must be > 0 (bounds the embedded nats-server boot wait — distinct " ++
      "from nats.connect_timeout which bounds client dials)") ++
  issueIf (cluster.declaredSize > 1 && cluster.routePeers = [])
    ("cluster.route_peers must contain at least one entry when cluster.declared_size > 1 " ++
      "(FR-008)") ++
  issueIf (cluster.declaredSize ≥ 2 && cluster.jetStreamDir = "")
    "cluster.jetstream_dir is required when cluster.declared_size >= 2 (FR-011)" ++
  issueIf (cluster.declaredSize > 1 && !cluster.routesListen.enabled)
    "cluster.routes_listen.enabled MUST be true when cluster.declared_size > 1" ++
  routesIssues std cluster ++
  issueIf (cluster.passwordEnv ≠ "" && cluster.passwordFile ≠ "")
    "cluster.password_env and cluster.password_file are mutually exclusive (FR-010)"

def postgresIssues (postgres : PostgresConfig) : List String :=
  issueIf (postgres.binDir = "") "postgres.bin_dir is required" ++
  issueIf (postgres.dataDir = "") "postgres.data_dir is required" ++
  issueIf (postgres.localDSNEnv = "")
    "postgres.local_dsn_env is required (env-var name holding the DSN)" ++
  (if postgres.replicationAddr = "" then []
    else
      match splitHostPort postgres.replicationAddr with
      | .ok _ => []
      | .error text =>
          ["postgres.replication_addr " ++ quote postgres.replicationAddr ++
            " must be host:port: " ++ text]) ++
  issueIf (postgres.tlsMode = "disable" && !postgres.tlsDisableExplicitAck)
    ("postgres.tls_mode=disable rejected without postgres.tls_disable_explicit_ack=true (FR-018)")

def controlListenIssues (control : ControlConfig) : List String :=
  if control.listenAddr = "" then []
  else
    issueIf (decide (control.tls.certFile = "") != decide (control.tls.keyFile = ""))
      ("control.tls.cert_file and control.tls.key_file must both be set or both be empty " ++
        "(FR-033)") ++
    match isLoopbackAddr std control.listenAddr with
    | .error text =>
        ["control.listen_addr " ++ quote control.listenAddr ++
          " is not a valid host:port: " ++ text]
    | .ok true => []
    | .ok false =>
        issueIf (!(control.tls.certFile ≠ "" && control.tls.keyFile ≠ "") &&
            !control.tls.plaintextExplicitAck)
          ("control plane plaintext bind on non-loopback rejected without " ++
            "control.tls.plaintext_explicit_ack=true (FR-033)")

def controlIssues (control : ControlConfig) : List String :=
  issueIf (control.tokenEnv ≠ "" && control.tokenFile ≠ "")
    "control.auth.token_env and control.auth.token_file are mutually exclusive" ++
  -- the source's `|| true` makes the token source mandatory whatever reads allow
  issueIf (control.tokenEnv = "" && control.tokenFile = "")
    ("no control-plane token source configured: set control.auth.token_env or " ++
      "control.auth.token_file (FR-025)") ++
  issueIf (!validLeaderRouteMode control.leaderRouteMode)
    ("control.leader_route_mode " ++ quote control.leaderRouteMode ++
      " must be one of: forward, redirect (FR-026)") ++
  issueIf (control.leaderRouteTimeout ≤ 0 || control.leaderRouteTimeout > 300000000000)
    ("control.leader_route_timeout " ++ std.durationString control.leaderRouteTimeout ++
      " outside (0, 5m] (FR-034)") ++
  controlListenIssues std control

/-- Every issue `Validate` collects, in order. -/
def issues (config : Config) : List String :=
  issueIf (!validDeploymentMode config.deploymentMode)
    ("deployment_mode " ++ quote config.deploymentMode ++
      " must be one of: standalone, microservice, sidecar (FR-013)") ++
  identifierIssues "cluster.id" config.cluster.id ++
  identifierIssues "node.id" config.nodeID ++
  peersIssues config ++
  natsIssues config.nats ++
  validateCluster std config.cluster ++
  issueIf (config.proxy.listenAddr = "") "proxy.listen_addr is required" ++
  issueIf (!validSwitchPolicy config.proxy.switchPolicy)
    ("proxy.switch_policy " ++ quote config.proxy.switchPolicy ++
      " must be one of: hard_close, drain, pause") ++
  postgresIssues config.postgres ++
  controlIssues std config.control ++
  issueIf (config.drainBudget < 0) "shutdown.drain_budget must be non-negative"

def validate (config : Config) : Except String Unit :=
  let found := issues std config
  if found = [] then .ok ()
  else
    .error ("config validation failed (" ++ toString found.length ++ " issue(s)):\n" ++
      "\n".intercalate (found.map (fun issue => "  - " ++ issue)))

variable {std}

theorem no_issues_of_validate (config : Config) (accepted : validate std config = .ok ()) :
    issues std config = [] := by
  unfold validate at accepted
  by_cases clean : issues std config = []
  · exact clean
  · simp only [clean, if_false] at accepted
    cases accepted

/-- The rules of an accepted configuration that later code relies on. -/
theorem validate_ok (config : Config) (accepted : validate std config = .ok ()) :
    identifierIssues "cluster.id" config.cluster.id = [] ∧
      identifierIssues "node.id" config.nodeID = [] ∧ peersIssues config = [] ∧
      routesIssues std config.cluster = [] := by
  have clean := no_issues_of_validate config accepted
  simp only [issues, validateCluster, List.append_eq_nil_iff] at clean
  obtain ⟨⟨⟨⟨⟨⟨⟨⟨⟨⟨_, clusterID⟩, nodeID⟩, peers⟩, _⟩, ⟨_, routes⟩, _⟩, _⟩, _⟩, _⟩, _⟩, _⟩ := clean
  exact ⟨clusterID, nodeID, peers, routes⟩

theorem no_issue (broken : Bool) (text : String) (clean : issueIf broken text = []) :
    broken = false := by
  cases broken with
  | true => cases clean
  | false => rfl

end Rules

end PgmanProxy.Validation
