import PgmanProxy.Embedded.Reload
import PgmanProxy.Library.Runs
import PgmanProxy.Validation

/-!
# The SIGHUP reload

On each signal the handler re-reads the configuration, rebuilds the old side of
the comparison from the in-memory configuration and whatever the secret source
holds now, and hands the new options to the running server when the routes or
the password differ. NATS is assumed to apply exactly the options it is given.
-/

namespace PgmanProxy.Runtime.Reload

open PgmanProxy.Embedded.Reload
open PgmanProxy.Embedded.ServerOptions
open PgmanProxy.Library.GoStrings
open PgmanProxy.Library.Runs
open PgmanProxy.Validation

set_option autoImplicit false

/-- What a pass reads: the outcome of `config.Load`, the environment and the files. -/
structure Reading where
  config : Except String Config
  host : Host

def resolveClusterPassword (host : Host) (cluster : ClusterConfig) : Except String String :=
  if cluster.passwordEnv ≠ "" then
    let value := host.getenv cluster.passwordEnv
    if value = "" then
      .error ("cluster.password_env=" ++ quote cluster.passwordEnv ++
        " resolves to an empty string (FR-010)")
    else .ok value
  else if cluster.passwordFile ≠ "" then
    match host.readFile cluster.passwordFile with
    | .error text =>
        .error ("read cluster.password_file " ++ quote cluster.passwordFile ++ ": " ++ text)
    | .ok data =>
        let value := trimRight (fun rune => rune ∈ ['\r', '\n', ' ']) data
        if value = "" then
          .error ("cluster.password_file " ++ quote cluster.passwordFile ++
            " is empty after trimming")
        else .ok value
  else .ok ""

def firstNonEmpty (first second : String) : String :=
  if first ≠ "" then first else second

def routesEnabled (cluster : ClusterConfig) : Bool :=
  cluster.routesListen.enabled && cluster.declaredSize > 1

def optionsInput (config : Config) (credential : ClusterCredential) : OptionsInput where
  nodeID := config.nodeID
  clusterName := firstNonEmpty config.cluster.name config.cluster.id
  clientHost := config.cluster.clientListen.host
  clientPort := config.cluster.clientListen.port
  routesEnabled := routesEnabled config.cluster
  routesHost := config.cluster.routesListen.host
  routesPort := config.cluster.routesListen.port
  routePeers := config.cluster.routePeers
  credential := credential
  tlsCertFile := config.cluster.tls.certFile
  tlsKeyFile := config.cluster.tls.keyFile
  tlsCAFile := config.cluster.tls.caFile
  jetStreamDir := config.cluster.jetStreamDir

/-- The credential of a configuration; none at all without username and password. -/
def clusterCredential (cluster : ClusterConfig) (password : String) :
    Except String ClusterCredential :=
  if cluster.username ≠ "" ∨ password ≠ "" then
    loadClusterCredential cluster.username password
  else .ok ClusterCredential.zero

section Handling

variable (std : Stdlib)

def optionsFromConfig (host : Host) (config : Config) (password : String) :
    Except String Options :=
  match clusterCredential config.cluster password with
  | .error text => .error ("load cluster credential: " ++ text)
  | .ok credential => buildOptions std host (optionsInput config credential)

/-- The embedded server: its options and the reading they were built from. -/
structure RunningServer where
  config : Config
  host : Host
  password : String
  options : Options
  built : optionsFromConfig std host config password = .ok options

def buildServer (host : Host) (config : Config) (password : String) :
    Except String (RunningServer std) :=
  match built : optionsFromConfig std host config password with
  | .error text => .error text
  | .ok options => .ok ⟨config, host, password, options, built⟩

structure ReloadHandler where
  currentCfg : Config
  embedded : RunningServer std

/-- `bootEmbeddedNATS`, up to the texts of its errors, and the handler installed with it. -/
def boot (host : Host) (config : Config) : Except String (ReloadHandler std) :=
  match resolveClusterPassword host config.cluster with
  | .error text => .error text
  | .ok password =>
      match buildServer std host config password with
      | .error text => .error text
      | .ok server => .ok ⟨config, server⟩

/-- Both sides of the comparison, as `applyOnce` builds them. -/
structure Prepared where
  oldOpts : Options
  new : RunningServer std
  diff : ReloadDiff

def rememberedPassword (handler : ReloadHandler std) (host : Host) : String :=
  match resolveClusterPassword host handler.currentCfg.cluster with
  | .ok password => password
  | .error _ => ""

/-- The old options: the in-memory configuration under the secrets of the moment. -/
def remembered (handler : ReloadHandler std) (host : Host) : Except String Options :=
  optionsFromConfig std host handler.currentCfg (rememberedPassword std handler host)

def prepare (handler : ReloadHandler std) (reading : Reading) : Except String (Prepared std) :=
  match reading.config with
  | .error text => .error ("config re-read: " ++ text)
  | .ok newCfg =>
      match validate std newCfg with
      | .error text => .error ("config re-validate: " ++ text)
      | .ok () =>
          match resolveClusterPassword reading.host newCfg.cluster with
          | .error text => .error ("resolve new cluster password: " ++ text)
          | .ok newPw =>
              match remembered std handler reading.host with
              | .error text => .error ("build old options: " ++ text)
              | .ok oldOpts =>
                  match buildServer std reading.host newCfg newPw with
                  | .error text => .error ("build new options: " ++ text)
                  | .ok new =>
                      .ok ⟨oldOpts, new, computeDiff
                        ⟨oldOpts, new.options, rememberedPassword std handler reading.host, newPw⟩⟩

inductive Outcome where
  | applied
  | partialSkipped
deriving DecidableEq, Repr

/-- A pass that returned nil: its outcome label and the diff it emitted, if any. -/
structure Report where
  outcome : Outcome
  emitted : Option ReloadDiff
deriving DecidableEq, Repr

/-- One pass: the options handed to NATS, the handler after it and what it returned. -/
structure Pass where
  handed : Option Options
  handler : ReloadHandler std
  result : Except String Report

/-- Of the in-memory configuration only the route list advances. -/
def advanceRoutes (config : Config) (peers : List String) : Config :=
  { config with cluster := { config.cluster with routePeers := peers } }

/-- `applyOnce`; `nats` is the answer of `ReloadOptions`, should it be called. -/
def applyOnce (handler : ReloadHandler std) (reading : Reading) (nats : Except String Unit) :
    Pass std :=
  match prepare std handler reading with
  | .error text => ⟨none, handler, .error text⟩
  | .ok prepared =>
      let diff := prepared.diff
      if diff.isEmpty then ⟨none, handler, .ok ⟨.applied, none⟩⟩
      else if diff.hasAllowListed then
        match nats with
        | .error text =>
            ⟨some prepared.new.options, handler, .error ("nats reload: " ++ text)⟩
        | .ok () =>
            let outcome := if diff.skippedKeys.isEmpty then Outcome.applied else .partialSkipped
            ⟨some prepared.new.options,
              ⟨advanceRoutes handler.currentCfg prepared.new.config.cluster.routePeers,
                prepared.new⟩,
              .ok ⟨outcome, some diff⟩⟩
      else ⟨none, handler, .ok ⟨.partialSkipped, some diff⟩⟩

/-- What the configuration and the secret source, as read, ask the server to run. -/
def resolved (reading : Reading) : Except String Options :=
  match reading.config with
  | .error text => .error text
  | .ok config =>
      match resolveClusterPassword reading.host config.cluster with
      | .error text => .error text
      | .ok password => optionsFromConfig std reading.host config password

variable {std}

theorem build_server_ok (host : Host) (config : Config) (password : String)
    (server : RunningServer std) (built : buildServer std host config password = .ok server) :
    server.config = config ∧ server.host = host ∧ server.password = password := by
  unfold buildServer at built
  split at built
  · cases built
  · cases built
    exact ⟨rfl, rfl, rfl⟩

theorem boot_ok (host : Host) (config : Config) (handler : ReloadHandler std)
    (booted : boot std host config = .ok handler) :
    resolveClusterPassword host config.cluster = .ok handler.embedded.password ∧
      handler.currentCfg = config ∧ handler.embedded.config = config ∧
      handler.embedded.host = host := by
  unfold boot at booted
  split at booted
  · cases booted
  rename_i password secret
  split at booted
  · cases booted
  rename_i server built
  cases booted
  obtain ⟨sameConfig, sameHost, samePassword⟩ := build_server_ok _ _ _ server built
  exact ⟨by rw [secret, samePassword], rfl, sameConfig, sameHost⟩

/-- Everything known of a pass that got as far as the comparison. -/
theorem prepare_ok (handler : ReloadHandler std) (reading : Reading) (prepared : Prepared std)
    (reached : prepare std handler reading = .ok prepared) :
    reading.config = .ok prepared.new.config ∧ prepared.new.host = reading.host ∧
      resolveClusterPassword reading.host prepared.new.config.cluster =
        .ok prepared.new.password ∧
      resolved std reading = .ok prepared.new.options ∧
      remembered std handler reading.host = .ok prepared.oldOpts ∧
      (prepared.diff.hasAllowListed = false ↔
        SameSurfaces prepared.oldOpts prepared.new.options) := by
  unfold prepare at reached
  split at reached
  · cases reached
  rename_i newCfg loaded
  split at reached
  · cases reached
  split at reached
  · cases reached
  rename_i newPw secret
  split at reached
  · cases reached
  rename_i oldOpts old
  split at reached
  · cases reached
  rename_i new built
  cases reached
  obtain ⟨sameConfig, sameHost, samePassword⟩ := build_server_ok _ _ _ new built
  have options := new.built
  rw [sameConfig, sameHost, samePassword] at options
  refine ⟨?_, sameHost, ?_, ?_, old, ?_⟩
  · rw [loaded, sameConfig]
  · rw [sameConfig, samePassword, secret]
  · simp only [resolved, loaded, secret, options]
  · exact no_allow_listed_iff _

theorem empty_not_allow_listed (diff : ReloadDiff) (empty : diff.isEmpty = true) :
    diff.hasAllowListed = false := by
  simp only [ReloadDiff.isEmpty, Bool.and_eq_true, Bool.not_eq_true'] at empty
  simp [ReloadDiff.hasAllowListed, empty]

/-- A pass that returns nil runs the new options if it found an allow-listed change and
leaves everything as it was otherwise. -/
theorem apply_once_ok (handler : ReloadHandler std) (reading : Reading)
    (nats : Except String Unit) (report : Report)
    (returned : (applyOnce std handler reading nats).result = .ok report) :
    ∃ prepared, prepare std handler reading = .ok prepared ∧
      (applyOnce std handler reading nats).handler =
        if prepared.diff.hasAllowListed then
          ⟨advanceRoutes handler.currentCfg prepared.new.config.cluster.routePeers, prepared.new⟩
        else handler := by
  cases reached : prepare std handler reading with
  | error text =>
      rw [applyOnce, reached] at returned
      cases returned
  | ok prepared =>
      refine ⟨prepared, rfl, ?_⟩
      rw [applyOnce, reached] at returned ⊢
      by_cases empty : prepared.diff.isEmpty = true
      · simp [empty, empty_not_allow_listed prepared.diff empty]
      · by_cases listed : prepared.diff.hasAllowListed = true
        · cases nats with
          | error text =>
              simp [empty, listed] at returned
          | ok _ => simp [empty, listed]
        · simp [empty, listed]

/-- Options are handed over only as the whole new set. -/
theorem apply_once_handed (handler : ReloadHandler std) (reading : Reading)
    (nats : Except String Unit) (options : Options)
    (handed : (applyOnce std handler reading nats).handed = some options) :
    ∃ prepared, prepare std handler reading = .ok prepared ∧ prepared.new.options = options := by
  cases reached : prepare std handler reading with
  | error text =>
      rw [applyOnce, reached] at handed
      cases handed
  | ok prepared =>
      refine ⟨prepared, rfl, ?_⟩
      rw [applyOnce, reached] at handed
      by_cases empty : prepared.diff.isEmpty = true
      · simp [empty] at handed
      · by_cases listed : prepared.diff.hasAllowListed = true
        · cases nats with
          | error text => simpa [empty, listed] using handed
          | ok _ => simpa [empty, listed] using handed
        · simp [empty, listed] at handed

end Handling

end PgmanProxy.Runtime.Reload
