import PgmanProxy.Library.GoStrings

/-!
# The settings of a peer and their texts

A setting is a field of the configuration that the environment or a flag can set. Its kind
says which values it takes and how a text is read. The fields that only the configuration
file sets are carried along unchanged and are not listed. `time.ParseDuration` and the two
`strconv` readers are called, never looked into.
-/

namespace PgmanProxy.Config.Settings

open PgmanProxy.Library.GoStrings

set_option autoImplicit false

inductive Kind where
  | text
  | csv
  | lines
  | int
  | bool
  | duration
deriving DecidableEq, Repr

/-- Durations are in nanoseconds. -/
def Kind.Value : Kind → Type
  | .text => String
  | .csv | .lines => List String
  | .int | .duration => Int
  | .bool => Bool

def Kind.zero : (kind : Kind) → kind.Value
  | .text => ""
  | .csv | .lines => ([] : List String)
  | .int | .duration => (0 : Int)
  | .bool => false

/-- Reading a text of this kind can fail. -/
def Kind.fallible : Kind → Bool
  | .text | .csv | .lines => false
  | .int | .bool | .duration => true

inductive Setting where
  | deploymentMode
  | clusterID
  | clusterName
  | clusterUsername
  | clusterPasswordEnv
  | clusterPasswordFile
  | clusterJetStreamDir
  | clusterTLSCertFile
  | clusterTLSKeyFile
  | clusterTLSCAFile
  | clusterRoutePeers
  | nodeID
  | peers
  | proxyListenAddr
  | proxySwitchPolicy
  | postgresBinDir
  | postgresDataDir
  | postgresLocalDSNEnv
  | postgresReplicationAddr
  | postgresLocalPGAddr
  | postgresTLSMode
  | postgresHBAExtras
  | postgresConfExtras
  | obsLogLevel
  | obsMetricsAddr
  | obsHealthAddr
  | controlListenAddr
  | controlLeaderRouteMode
  | controlAuthTokenEnv
  | controlAuthTokenFile
  | controlTLSCertFile
  | controlTLSKeyFile
  | clusterDeclaredSize
  | clusterClientListenPort
  | clusterRoutesListenPort
  | clusterReplicationFactorOverride
  | clusterTLSPlaintextExplicitAck
  | clusterReadyTimeout
  | natsConnectTimeout
  | natsReconnectWait
  | proxyDialTimeout
  | postgresPort
  | postgresTLSDisableExplicitAck
  | controlLeaderRouteTimeout
  | controlAuthAllowUnauthReads
  | controlTLSPlaintextExplicitAck
  | shutdownDrainBudget
  | policyAutoDemoteEnabled
  | policyAutoRebootstrapEnabled
  | policyLivenessInterval
  | policyFailoverDelay
  | clusterLeaseTTL
  | policyAutoDemoteCooldown
  | policyAutoDemoteLeadershipStabilityWindow
  | policyAutoDemoteProbeTimeout
  | policyAutoRebootstrapCooldown
  | policyAutoRebootstrapPersistenceWindow
deriving DecidableEq, Repr

def Setting.kind : Setting → Kind
  | .clusterRoutePeers | .peers => .csv
  | .postgresHBAExtras | .postgresConfExtras => .lines
  | .clusterDeclaredSize | .clusterClientListenPort | .clusterRoutesListenPort |
    .clusterReplicationFactorOverride | .postgresPort => .int
  | .clusterTLSPlaintextExplicitAck | .postgresTLSDisableExplicitAck |
    .controlAuthAllowUnauthReads | .controlTLSPlaintextExplicitAck | .policyAutoDemoteEnabled |
    .policyAutoRebootstrapEnabled => .bool
  | .clusterReadyTimeout | .natsConnectTimeout | .natsReconnectWait | .proxyDialTimeout |
    .controlLeaderRouteTimeout | .shutdownDrainBudget | .policyLivenessInterval |
    .policyFailoverDelay | .clusterLeaseTTL | .policyAutoDemoteCooldown |
    .policyAutoDemoteLeadershipStabilityWindow | .policyAutoDemoteProbeTimeout |
    .policyAutoRebootstrapCooldown | .policyAutoRebootstrapPersistenceWindow => .duration
  | _ => .text

abbrev Setting.Value (key : Setting) : Type := key.kind.Value

/-- The configuration as far as it has settings. -/
abbrev Resolved := (key : Setting) → key.Value

def Setting.envKey : Setting → String
  | .deploymentMode => "PGMAN_PROXY_DEPLOYMENT_MODE"
  | .clusterID => "PGMAN_PROXY_CLUSTER_ID"
  | .clusterName => "PGMAN_PROXY_CLUSTER_NAME"
  | .clusterUsername => "PGMAN_PROXY_CLUSTER_USERNAME"
  | .clusterPasswordEnv => "PGMAN_PROXY_CLUSTER_PASSWORD_ENV"
  | .clusterPasswordFile => "PGMAN_PROXY_CLUSTER_PASSWORD_FILE"
  | .clusterJetStreamDir => "PGMAN_PROXY_CLUSTER_JETSTREAM_DIR"
  | .clusterTLSCertFile => "PGMAN_PROXY_CLUSTER_TLS_CERT_FILE"
  | .clusterTLSKeyFile => "PGMAN_PROXY_CLUSTER_TLS_KEY_FILE"
  | .clusterTLSCAFile => "PGMAN_PROXY_CLUSTER_TLS_CA_FILE"
  | .clusterRoutePeers => "PGMAN_PROXY_CLUSTER_ROUTE_PEERS"
  | .nodeID => "PGMAN_PROXY_NODE_ID"
  | .peers => "PGMAN_PROXY_PEERS"
  | .proxyListenAddr => "PGMAN_PROXY_PROXY_LISTEN_ADDR"
  | .proxySwitchPolicy => "PGMAN_PROXY_PROXY_SWITCH_POLICY"
  | .postgresBinDir => "PGMAN_PROXY_POSTGRES_BIN_DIR"
  | .postgresDataDir => "PGMAN_PROXY_POSTGRES_DATA_DIR"
  | .postgresLocalDSNEnv => "PGMAN_PROXY_POSTGRES_LOCAL_DSN_ENV"
  | .postgresReplicationAddr => "PGMAN_PROXY_POSTGRES_REPLICATION_ADDR"
  | .postgresLocalPGAddr => "PGMAN_PROXY_POSTGRES_LOCAL_PG_ADDR"
  | .postgresTLSMode => "PGMAN_PROXY_POSTGRES_TLS_MODE"
  | .postgresHBAExtras => "PGMAN_PROXY_POSTGRES_HBA_EXTRAS"
  | .postgresConfExtras => "PGMAN_PROXY_POSTGRES_CONF_EXTRAS"
  | .obsLogLevel => "PGMAN_PROXY_OBS_LOG_LEVEL"
  | .obsMetricsAddr => "PGMAN_PROXY_OBS_METRICS_ADDR"
  | .obsHealthAddr => "PGMAN_PROXY_OBS_HEALTH_ADDR"
  | .controlListenAddr => "PGMAN_PROXY_CONTROL_LISTEN_ADDR"
  | .controlLeaderRouteMode => "PGMAN_PROXY_CONTROL_LEADER_ROUTE_MODE"
  | .controlAuthTokenEnv => "PGMAN_PROXY_CONTROL_AUTH_TOKEN_ENV"
  | .controlAuthTokenFile => "PGMAN_PROXY_CONTROL_AUTH_TOKEN_FILE"
  | .controlTLSCertFile => "PGMAN_PROXY_CONTROL_TLS_CERT_FILE"
  | .controlTLSKeyFile => "PGMAN_PROXY_CONTROL_TLS_KEY_FILE"
  | .clusterDeclaredSize => "PGMAN_PROXY_CLUSTER_DECLARED_SIZE"
  | .clusterClientListenPort => "PGMAN_PROXY_CLUSTER_CLIENT_LISTEN_PORT"
  | .clusterRoutesListenPort => "PGMAN_PROXY_CLUSTER_ROUTES_LISTEN_PORT"
  | .clusterReplicationFactorOverride => "PGMAN_PROXY_CLUSTER_REPLICATION_FACTOR_OVERRIDE"
  | .clusterTLSPlaintextExplicitAck => "PGMAN_PROXY_CLUSTER_TLS_PLAINTEXT_EXPLICIT_ACK"
  | .clusterReadyTimeout => "PGMAN_PROXY_CLUSTER_READY_TIMEOUT"
  | .natsConnectTimeout => "PGMAN_PROXY_NATS_CONNECT_TIMEOUT"
  | .natsReconnectWait => "PGMAN_PROXY_NATS_RECONNECT_WAIT"
  | .proxyDialTimeout => "PGMAN_PROXY_PROXY_DIAL_TIMEOUT"
  | .postgresPort => "PGMAN_PROXY_POSTGRES_PORT"
  | .postgresTLSDisableExplicitAck => "PGMAN_PROXY_POSTGRES_TLS_DISABLE_EXPLICIT_ACK"
  | .controlLeaderRouteTimeout => "PGMAN_PROXY_CONTROL_LEADER_ROUTE_TIMEOUT"
  | .controlAuthAllowUnauthReads => "PGMAN_PROXY_CONTROL_AUTH_ALLOW_UNAUTH_READS"
  | .controlTLSPlaintextExplicitAck => "PGMAN_PROXY_CONTROL_TLS_PLAINTEXT_EXPLICIT_ACK"
  | .shutdownDrainBudget => "PGMAN_PROXY_SHUTDOWN_DRAIN_BUDGET"
  | .policyAutoDemoteEnabled => "PGMAN_PROXY_POLICY_AUTO_DEMOTE_ENABLED"
  | .policyAutoRebootstrapEnabled => "PGMAN_PROXY_POLICY_AUTO_REBOOTSTRAP_ENABLED"
  | .policyLivenessInterval => "PGMAN_PROXY_POLICY_LIVENESS_INTERVAL"
  | .policyFailoverDelay => "PGMAN_PROXY_POLICY_FAILOVER_DELAY"
  | .clusterLeaseTTL => "PGMAN_PROXY_CLUSTER_LEASE_TTL"
  | .policyAutoDemoteCooldown => "PGMAN_PROXY_POLICY_AUTO_DEMOTE_COOLDOWN"
  | .policyAutoDemoteLeadershipStabilityWindow =>
      "PGMAN_PROXY_POLICY_AUTO_DEMOTE_LEADERSHIP_STABILITY_WINDOW"
  | .policyAutoDemoteProbeTimeout => "PGMAN_PROXY_POLICY_AUTO_DEMOTE_PROBE_TIMEOUT"
  | .policyAutoRebootstrapCooldown => "PGMAN_PROXY_POLICY_AUTO_REBOOTSTRAP_COOLDOWN"
  | .policyAutoRebootstrapPersistenceWindow =>
      "PGMAN_PROXY_POLICY_AUTO_REBOOTSTRAP_PERSISTENCE_WINDOW"

/-- The table of setters that cannot fail, and the one of those that can. -/
def passthrough : List Setting :=
  [.deploymentMode, .clusterID, .clusterName, .clusterUsername, .clusterPasswordEnv,
    .clusterPasswordFile, .clusterJetStreamDir, .clusterTLSCertFile, .clusterTLSKeyFile,
    .clusterTLSCAFile, .clusterRoutePeers, .nodeID, .peers, .proxyListenAddr,
    .proxySwitchPolicy, .postgresBinDir, .postgresDataDir, .postgresLocalDSNEnv,
    .postgresReplicationAddr, .postgresLocalPGAddr, .postgresTLSMode, .postgresHBAExtras,
    .postgresConfExtras, .obsLogLevel, .obsMetricsAddr, .obsHealthAddr, .controlListenAddr,
    .controlLeaderRouteMode, .controlAuthTokenEnv, .controlAuthTokenFile, .controlTLSCertFile,
    .controlTLSKeyFile]

def parsed : List Setting :=
  [.clusterDeclaredSize, .clusterClientListenPort, .clusterRoutesListenPort,
    .clusterReplicationFactorOverride, .clusterTLSPlaintextExplicitAck, .clusterReadyTimeout,
    .natsConnectTimeout, .natsReconnectWait, .proxyDialTimeout, .postgresPort,
    .postgresTLSDisableExplicitAck, .controlLeaderRouteTimeout, .controlAuthAllowUnauthReads,
    .controlTLSPlaintextExplicitAck, .shutdownDrainBudget, .policyAutoDemoteEnabled,
    .policyAutoRebootstrapEnabled, .policyLivenessInterval, .policyFailoverDelay,
    .clusterLeaseTTL, .policyAutoDemoteCooldown, .policyAutoDemoteLeadershipStabilityWindow,
    .policyAutoDemoteProbeTimeout, .policyAutoRebootstrapCooldown,
    .policyAutoRebootstrapPersistenceWindow]

theorem setting_listed (key : Setting) :
    key ∈ if key.kind.fallible then parsed else passthrough := by
  cases key <;> decide

/-- `Defaults`; what it leaves out is zero. -/
def defaults : Resolved
  | .deploymentMode => "standalone"
  | .clusterClientListenPort => (4222 : Int)
  | .clusterRoutesListenPort => (6222 : Int)
  | .clusterReadyTimeout => (45000000000 : Int)
  | .natsConnectTimeout => (10000000000 : Int)
  | .natsReconnectWait => (2000000000 : Int)
  | .proxyDialTimeout => (5000000000 : Int)
  | .proxySwitchPolicy => "hard_close"
  | .postgresPort => (5432 : Int)
  | .postgresTLSMode => "verify-full"
  | .policyFailoverDelay => (30000000000 : Int)
  | .policyLivenessInterval => (2000000000 : Int)
  | .obsLogLevel => "info"
  | .obsMetricsAddr => ":9090"
  | .obsHealthAddr => ":9090"
  | .controlLeaderRouteMode => "forward"
  | .controlLeaderRouteTimeout => (30000000000 : Int)
  | .shutdownDrainBudget => (30000000000 : Int)
  | key => key.kind.zero

/-! ## Reading texts -/

def parseCSV (text : String) : List String :=
  ((split ',' text).map trimSpace).filter (fun part => part ≠ "")

/-- `strings.ReplaceAll` of the two runes backslash and n by a newline. -/
def unescape : List Char → List Char
  | '\\' :: 'n' :: rest => '\n' :: unescape rest
  | rune :: rest => rune :: unescape rest
  | [] => []

/-- The cut set of `parseLines`. -/
def isLineEnd (rune : Char) : Bool := rune = '\r' || rune = ' '

def parseLines (text : String) : List String :=
  ((split '\n' (String.ofList (unescape text.toList))).map (trimRight isLineEnd)).filter
    (fun line => line ≠ "")

structure Parsers where
  /-- `strconv.Atoi` -/
  atoi : String → Except String Int
  /-- `strconv.ParseBool` -/
  parseBool : String → Except String Bool
  /-- `time.ParseDuration` -/
  parseDuration : String → Except String Int

/-- The setters of `applyEnv` on a text: `intSet`, `boolSet` and `durSet` are the last three. -/
def parse (parsers : Parsers) : (kind : Kind) → String → Except String kind.Value
  | .text, text => .ok text
  | .csv, text => .ok (parseCSV text)
  | .lines, text => .ok (parseLines text)
  | .int, text =>
      match parsers.atoi text with
      | .error err => .error ("invalid integer " ++ quote text ++ ": " ++ err)
      | .ok number => .ok number
  | .bool, text =>
      match parsers.parseBool text with
      | .error err => .error ("invalid bool " ++ quote text ++ ": " ++ err)
      | .ok flag => .ok flag
  | .duration, text =>
      match parsers.parseDuration text with
      | .error err => .error ("invalid duration " ++ quote text ++ ": " ++ err)
      | .ok duration =>
          if duration < 0 then .error "duration must be non-negative" else .ok duration

theorem parse_safe (parsers : Parsers) (kind : Kind) (text : String)
    (safe : kind.fallible = false) : ∃ value, parse parsers kind text = .ok value := by
  cases kind with
  | text | csv | lines => exact ⟨_, rfl⟩
  | int | bool | duration => cases safe

end PgmanProxy.Config.Settings
