import PgmanProxy.Runtime.Reload

/-!
# What a reload guarantees

Two questions about the SIGHUP path: does the running server end up with the
password and the routes the pass has read, over whole histories of edits and
signals; and does a reload touch anything besides them.
-/

namespace PgmanProxy.Runtime.ReloadGuarantees

open PgmanProxy.Embedded.Reload
open PgmanProxy.Embedded.ServerOptions
open PgmanProxy.Library.GoStrings
open PgmanProxy.Library.Runs
open PgmanProxy.Runtime.Reload
open PgmanProxy.Validation

set_option autoImplicit false

section Histories

variable (std : Stdlib)

/-- The handler together with the outside it reads from. -/
structure World where
  handler : ReloadHandler std
  reading : Reading

inductive Event where
  | editConfig (loaded : Except String Config)
  | setEnv (name value : String)
  | writeFile (path : String) (content : Except String String)
  | sighup (nats : Except String Unit)

def Host.setEnv (host : Host) (name value : String) : Host :=
  { host with getenv := fun asked => if asked = name then value else host.getenv asked }

def Host.writeFile (host : Host) (path : String) (content : Except String String) : Host :=
  { host with readFile := fun asked => if asked = path then content else host.readFile asked }

def World.pass (world : World std) (nats : Except String Unit) : Pass std :=
  applyOnce std world.handler world.reading nats

def step (world : World std) : Event → World std
  | .editConfig loaded => { world with reading := { world.reading with config := loaded } }
  | .setEnv name value =>
      { world with reading := { world.reading with
          host := Host.setEnv world.reading.host name value } }
  | .writeFile path content =>
      { world with reading := { world.reading with
          host := Host.writeFile world.reading.host path content } }
  | .sighup nats => { world with handler := (world.pass std nats).handler }

variable {std}

/-- The same cluster password and the same set of route hosts. -/
def Agrees (running wanted : Options) : Prop :=
  running.cluster.password = wanted.cluster.password ∧
    ∀ host, host ∈ routeHosts running ↔ host ∈ routeHosts wanted

def Returned (pass : Pass std) : Prop := ∃ report, pass.result = .ok report

def Effective (handler : ReloadHandler std) (reading : Reading) : Prop :=
  ∃ wanted, resolved std reading = .ok wanted ∧ Agrees handler.embedded.options wanted

/-- The in-memory configuration, under the secrets of the moment, either gives something
else than the configuration now read or gives what the server runs. -/
def MemoryHonest (world : World std) : Prop :=
  ∀ old wanted, remembered std world.handler world.reading.host = .ok old →
    resolved std world.reading = .ok wanted → SameSurfaces old wanted →
    Agrees world.handler.embedded.options old

theorem agrees_of_same_surfaces (running old wanted : Options) (same : SameSurfaces old wanted) :
    Agrees running old ↔ Agrees running wanted := by
  obtain ⟨password, hosts⟩ := same
  unfold Agrees
  rw [password]
  apply and_congr_right
  intro _
  apply forall_congr'
  intro host
  rw [hosts.mem_iff]

theorem agrees_refl (options : Options) : Agrees options options :=
  ⟨rfl, fun _ => Iff.rfl⟩

theorem not_effective_of_password (handler : ReloadHandler std) (reading : Reading)
    (running wanted : String) (runs : handler.embedded.options.cluster.password = running)
    (asked : (resolved std reading).map (fun options => options.cluster.password) = .ok wanted)
    (differ : running ≠ wanted) : ¬Effective handler reading := by
  rintro ⟨options, read, password, -⟩
  rw [read] at asked
  rw [runs] at password
  exact differ (password.trans (Except.ok.inj asked))

/-- One pass that returns nil is effective exactly when the memory it compared against
was honest. -/
theorem pass_effective_iff (world : World std) (nats : Except String Unit)
    (returned : Returned (world.pass std nats)) :
    Effective (world.pass std nats).handler world.reading ↔ MemoryHonest world := by
  obtain ⟨report, result⟩ := returned
  obtain ⟨prepared, reached, server⟩ := apply_once_ok _ _ nats report result
  obtain ⟨-, -, -, wanted, old, unlisted⟩ := prepare_ok _ _ prepared reached
  have only : ∀ handler : ReloadHandler std, Effective handler world.reading ↔
      Agrees handler.embedded.options prepared.new.options := by
    intro handler
    simp [Effective, wanted]
  have honest : MemoryHonest world ↔
      (SameSurfaces prepared.oldOpts prepared.new.options →
        Agrees world.handler.embedded.options prepared.oldOpts) := by
    simp [MemoryHonest, wanted, old]
  rw [only, honest, World.pass, server]
  by_cases listed : prepared.diff.hasAllowListed = true
  · have changed : ¬SameSurfaces prepared.oldOpts prepared.new.options := by
      rw [← unlisted, listed]
      exact Bool.noConfusion
    rw [if_pos listed]
    exact iff_of_true (agrees_refl _) (fun same => absurd same changed)
  · have same := unlisted.1 (Bool.eq_false_iff.2 listed)
    rw [if_neg listed, ← agrees_of_same_surfaces _ _ _ same]
    exact ⟨fun agrees _ => agrees, fun agrees => agrees same⟩

/-- A signal whose pass returns nil leaves the server with what the pass read. -/
def PassEffective (world : World std) : Event → Prop
  | .sighup nats => Returned (world.pass std nats) →
      Effective (world.pass std nats).handler world.reading
  | _ => True

def PassFromHonestMemory (world : World std) : Event → Prop
  | .sighup nats => Returned (world.pass std nats) → MemoryHonest world
  | _ => True

/-- Over every history of edits and signals: each pass that returns nil is effective
exactly when each starts from an honest memory. -/
theorem reloads_effective_iff_memory_honest {std : Stdlib} (start : World std)
    (events : List Event) :
    StepsMeet (step std) PassEffective start events ↔
      StepsMeet (step std) PassFromHonestMemory start events := by
  apply steps_meet_congr
  intro world event
  cases event with
  | editConfig loaded => exact Iff.rfl
  | setEnv name value => exact Iff.rfl
  | writeFile path content => exact Iff.rfl
  | sighup nats => exact forall_congr' (pass_effective_iff world nats)

end Histories

/-! ## Rotating the password in place -/

def sampleStd : Stdlib where
  parseIP := fun host => if host = "0.0.0.0" then some false else none
  durationString := fun _ => "5s"
  parseURL := fun raw =>
    match cutLead "nats-route://" raw with
    | some host => .ok ⟨"nats-route", none, host⟩
    | none => .error "unsupported"
  x509KeyPair := fun _ _ => .error "no key pair"
  certsFromPEM := fun _ => none

/-- A valid three-peer configuration whose password sits in a file. -/
def sampleConfig (clientPort : Int) (routePeers : List String) : Config where
  deploymentMode := "standalone"
  cluster :=
    { id := "prod"
      name := ""
      declaredSize := 3
      clientListen := ⟨"127.0.0.1", clientPort⟩
      routesListen := ⟨"0.0.0.0", 6222, true⟩
      routePeers := routePeers
      tls := ⟨"", "", "", true⟩
      username := "routes"
      passwordEnv := ""
      passwordFile := "/run/secrets/cluster"
      jetStreamDir := "/var/lib/js"
      readyTimeout := 30000000000 }
  nodeID := "n1"
  peers := ["n1", "n2", "n3"]
  nats := ⟨"", 5000000000, "", ""⟩
  proxy := ⟨":5432", "drain"⟩
  postgres := ⟨"/usr/lib/postgresql/bin", "/var/lib/pg", "PG_DSN", "", "require", false, [], []⟩
  control := ⟨"", "PGMAN_TOKEN", "", "forward", 5000000000, ⟨"", "", "", false⟩⟩
  drainBudget := 0

def sampleHost (password : String) : Host where
  getenv := fun _ => ""
  readFile := fun path =>
    if path = "/run/secrets/cluster" then .ok password else .error "no such file"

def sampleOptions : Options where
  serverName := "n1"
  host := "127.0.0.1"
  port := 4222
  noLog := true
  noSigs := true
  logtime := false
  jetStream := true
  storeDir := "/var/lib/js"
  cluster := ⟨"prod", "0.0.0.0", 6222, "routes", "first-secret-0001", none⟩
  routes := [⟨"nats-route", some ("routes", "first-secret-0001"), "n2:6222"⟩]

theorem sample_options_built :
    optionsFromConfig sampleStd (sampleHost "first-secret-0001\n")
      (sampleConfig 4222 ["n2:6222"]) "first-secret-0001" = .ok sampleOptions := by
  decide

/-- The handler as boot leaves it. -/
def sampleHandler : ReloadHandler sampleStd where
  currentCfg := sampleConfig 4222 ["n2:6222"]
  embedded :=
    { config := sampleConfig 4222 ["n2:6222"]
      host := sampleHost "first-secret-0001\n"
      password := "first-secret-0001"
      options := sampleOptions
      built := sample_options_built }

def sampleWorld : World sampleStd :=
  ⟨sampleHandler, ⟨.ok (sampleConfig 4222 ["n2:6222"]), sampleHost "first-secret-0001\n"⟩⟩

def rewriteSecret : Event :=
  .writeFile "/run/secrets/cluster" (.ok "second-secret-002\n")

/-- The world when the signal arrives, after the secret file was rewritten. -/
def rotatedWorld : World sampleStd := run (step sampleStd) sampleWorld [rewriteSecret]

theorem rotated_password_reported_but_not_applied :
    (rotatedWorld.pass sampleStd (.ok ())).result = .ok ⟨.applied, none⟩ ∧
      (rotatedWorld.pass sampleStd (.ok ())).handler.embedded.options.cluster.password =
        "first-secret-0001" ∧
      (resolved sampleStd rotatedWorld.reading).map (fun options => options.cluster.password) =
        .ok "second-secret-002" ∧
      ¬StepsMeet (step sampleStd) PassEffective sampleWorld [rewriteSecret, .sighup (.ok ())] := by
  have returned : (rotatedWorld.pass sampleStd (.ok ())).result = .ok ⟨.applied, none⟩ := by
    decide
  have kept : (rotatedWorld.pass sampleStd (.ok ())).handler.embedded.options.cluster.password =
      "first-secret-0001" := by
    decide
  have asked : (resolved sampleStd rotatedWorld.reading).map
      (fun options => options.cluster.password) = .ok "second-secret-002" := by
    decide
  refine ⟨returned, kept, asked, ?_⟩
  intro meets
  have effective : PassEffective rotatedWorld (.sighup (.ok ())) :=
    steps_meet_at (step sampleStd) PassEffective sampleWorld [rewriteSecret] [] _ meets
  exact not_effective_of_password _ _ _ _ kept asked (by decide) (effective ⟨_, returned⟩)

/-! ## The frame of a reload

The startup-only keys of a configuration, with the defaults the options get, and
the options they determine when both allow-listed surfaces are blanked out.
-/

structure ClusterKeys where
  name : String
  host : String
  port : Int
  username : String
  tlsConfig : Option TLSConfig
deriving DecidableEq, Repr

/-- `cluster` is `none` when the routes listener is off. -/
structure StartupKeys where
  nodeID : String
  clientHost : String
  clientPort : Int
  jetStreamDir : String
  cluster : Option ClusterKeys
deriving DecidableEq, Repr

/-- The TLS material that the files hold, when both names are set. -/
def loadedTLS (std : Stdlib) (host : Host) (tls : ClusterTLSCfg) : Option TLSConfig :=
  if tls.certFile ≠ "" ∧ tls.keyFile ≠ "" then
    (buildClusterTLSConfig std host tls.certFile tls.keyFile tls.caFile).toOption
  else none

def startupKeys (std : Stdlib) (host : Host) (config : Config) : StartupKeys where
  nodeID := config.nodeID
  clientHost := defaultStr config.cluster.clientListen.host "127.0.0.1"
  clientPort := defaultInt config.cluster.clientListen.port 4222
  jetStreamDir := config.cluster.jetStreamDir
  cluster :=
    if routesEnabled config.cluster then
      some
        { name := firstNonEmpty config.cluster.name config.cluster.id
          host := defaultStr config.cluster.routesListen.host "0.0.0.0"
          port := defaultInt config.cluster.routesListen.port 6222
          username := trimSpace config.cluster.username
          tlsConfig := loadedTLS std host config.cluster.tls }
    else none

def ClusterKeys.opts (keys : ClusterKeys) : ClusterOpts :=
  ⟨keys.name, keys.host, keys.port, keys.username, "", keys.tlsConfig⟩

def StartupKeys.options (keys : StartupKeys) : Options where
  serverName := keys.nodeID
  host := keys.clientHost
  port := keys.clientPort
  noLog := true
  noSigs := true
  logtime := false
  jetStream := true
  storeDir := keys.jetStreamDir
  cluster := (keys.cluster.map ClusterKeys.opts).getD ClusterOpts.zero
  routes := []

/-- The options without the route list and the cluster password. -/
def frame (options : Options) : Options :=
  { options with cluster := { options.cluster with password := "" }, routes := [] }

section Frame

variable {std : Stdlib}

/-- Configured or not, a loaded credential is the trimmed user name and password. -/
theorem credential_trimmed (cluster : ClusterConfig) (password : String)
    (credential : ClusterCredential)
    (loaded : clusterCredential cluster password = .ok credential) :
    credential = ⟨trimSpace cluster.username, trimSpace password⟩ := by
  unfold clusterCredential at loaded
  split at loaded
  · unfold loadClusterCredential at loaded
    cases checked : (ClusterCredential.mk (trimSpace cluster.username)
        (trimSpace password)).validate with
    | error text =>
        simp [checked, bind, Except.bind] at loaded
    | ok _ =>
        simp [checked, bind, Except.bind, pure, Except.pure] at loaded
        exact loaded.symm
  · rename_i blank
    have noUsername : cluster.username = "" := by
      by_contra set
      exact blank (Or.inl set)
    have noPassword : password = "" := by
      by_contra set
      exact blank (Or.inr set)
    cases loaded
    rw [noUsername, noPassword]
    rfl

theorem cluster_tls_loaded (host : Host) (tls : ClusterTLSCfg) (tlsConfig : Option TLSConfig)
    (loaded : clusterTLS std host tls.certFile tls.keyFile tls.caFile = .ok tlsConfig) :
    tlsConfig = loadedTLS std host tls := by
  unfold clusterTLS at loaded
  unfold loadedTLS
  by_cases both : tls.certFile ≠ "" ∧ tls.keyFile ≠ ""
  · rw [if_pos both] at loaded ⊢
    cases read : buildClusterTLSConfig std host tls.certFile tls.keyFile tls.caFile with
    | error text =>
        rw [read] at loaded
        cases loaded
    | ok material =>
        rw [read] at loaded
        cases loaded
        rfl
  · rw [if_neg both] at loaded ⊢
    cases loaded
    rfl

/-- Built options are their startup keys plus the two allow-listed surfaces. -/
theorem built_frame (host : Host) (config : Config) (password : String) (options : Options)
    (built : optionsFromConfig std host config password = .ok options) :
    frame options = (startupKeys std host config).options ∧
      firstNonEmpty config.cluster.name config.cluster.id ≠ "" := by
  unfold optionsFromConfig at built
  split at built
  · cases built
  rename_i credential loaded
  obtain ⟨named, ⟨off, shape⟩ | ⟨on, tlsConfig, routes, tls, -, shape⟩⟩ :=
    build_options_ok _ options built
  · have off : routesEnabled config.cluster = false := off
    refine ⟨?_, named⟩
    rw [shape]
    simp [frame, baseOptions, startupKeys, StartupKeys.options, off, optionsInput,
      ClusterOpts.zero]
  · have on : routesEnabled config.cluster = true := on
    refine ⟨?_, named⟩
    rw [shape, cluster_tls_loaded host config.cluster.tls tlsConfig tls]
    simp [frame, baseOptions, clusterOpts, startupKeys, StartupKeys.options, on, optionsInput,
      ClusterKeys.opts, credential_trimmed _ _ _ loaded]

/-- Startup keys are determined by the options they lead to; the name guard tells an
enabled routes listener from a disabled one. -/
theorem startup_options_inj (left right : StartupKeys)
    (leftNamed : ∀ keys ∈ left.cluster, keys.name ≠ "")
    (rightNamed : ∀ keys ∈ right.cluster, keys.name ≠ "")
    (same : left.options = right.options) : left = right := by
  obtain ⟨leftID, leftHost, leftPort, leftDir, leftCluster⟩ := left
  obtain ⟨rightID, rightHost, rightPort, rightDir, rightCluster⟩ := right
  simp only [StartupKeys.options, Options.mk.injEq, true_and, and_true] at same
  obtain ⟨rfl, rfl, rfl, rfl, cluster⟩ := same
  cases leftCluster with
  | none =>
      cases rightCluster with
      | none => rfl
      | some keys =>
          have empty : "" = keys.name := congrArg ClusterOpts.name cluster
          exact absurd empty.symm (rightNamed keys rfl)
  | some leftKeys =>
      cases rightCluster with
      | none =>
          have empty : leftKeys.name = "" := congrArg ClusterOpts.name cluster
          exact absurd empty (leftNamed leftKeys rfl)
      | some rightKeys =>
          obtain ⟨name, host, port, username, tls⟩ := leftKeys
          simp only [Option.map_some, Option.getD_some, ClusterKeys.opts,
            ClusterOpts.mk.injEq, true_and] at cluster
          obtain ⟨rfl, rfl, rfl, rfl, rfl⟩ := cluster
          rfl

theorem startup_keys_named (host : Host) (config : Config)
    (named : firstNonEmpty config.cluster.name config.cluster.id ≠ "") :
    ∀ keys ∈ (startupKeys std host config).cluster, keys.name ≠ "" := by
  intro keys present
  simp only [startupKeys] at present
  split at present
  · cases present
    exact named
  · cases present

/-- The options a reload hands over differ from the running ones at most in the route
list and the cluster password exactly when the configuration it read has the startup
keys of the one the server runs. -/
theorem reload_frame_iff_startup_keys_agree (handler : ReloadHandler std) (reading : Reading)
    (nats : Except String Unit) (config : Config) (options : Options)
    (read : reading.config = .ok config)
    (handed : (applyOnce std handler reading nats).handed = some options) :
    frame options = frame handler.embedded.options ↔
      startupKeys std reading.host config =
        startupKeys std handler.embedded.host handler.embedded.config := by
  obtain ⟨prepared, reached, rfl⟩ := apply_once_handed handler reading nats options handed
  obtain ⟨loaded, newHost, -⟩ := prepare_ok handler reading prepared reached
  have newConfig : prepared.new.config = config := Except.ok.inj (loaded.symm.trans read)
  obtain ⟨newFrame, newNamed⟩ := built_frame _ _ _ _ prepared.new.built
  obtain ⟨oldFrame, oldNamed⟩ := built_frame _ _ _ _ handler.embedded.built
  rw [newFrame, oldFrame, newHost, newConfig]
  rw [newConfig] at newNamed
  constructor
  · intro same
    exact startup_options_inj _ _ (startup_keys_named _ _ newNamed)
      (startup_keys_named _ _ oldNamed) same
  · intro same
    rw [same]

end Frame

/-- The configuration file gained the route to `n3`. -/
def joinReading (clientPort : Int) : Reading :=
  ⟨.ok (sampleConfig clientPort ["n2:6222", "n3:6222"]), sampleHost "first-secret-0001\n"⟩

/-- What the join's reload hands to NATS. -/
def joinHanded (clientPort : Int) : Option Options :=
  (applyOnce sampleStd sampleHandler (joinReading clientPort) (.ok ())).handed

def joinOptions (clientPort : Int) : Options :=
  { sampleOptions with
    port := clientPort
    routes :=
      [⟨"nats-route", some ("routes", "first-secret-0001"), "n2:6222"⟩,
        ⟨"nats-route", some ("routes", "first-secret-0001"), "n3:6222"⟩] }

theorem join_keeps_frame :
    joinHanded 4222 = some (joinOptions 4222) ∧ frame (joinOptions 4222) = frame sampleOptions := by
  have handed : joinHanded 4222 = some (joinOptions 4222) := by
    decide
  refine ⟨handed, ?_⟩
  exact (reload_frame_iff_startup_keys_agree sampleHandler (joinReading 4222) (.ok ())
    (sampleConfig 4222 ["n2:6222", "n3:6222"]) (joinOptions 4222) rfl handed).2 rfl

theorem join_moves_client_port :
    joinHanded 4333 = some (joinOptions 4333) ∧
      (joinOptions 4333).port ≠ sampleOptions.port := by
  decide

end PgmanProxy.Runtime.ReloadGuarantees
