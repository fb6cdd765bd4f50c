import PgmanProxy.Runtime.ReloadGuarantees

/-!
# What a reload finds

Two questions about the comparison behind a SIGHUP pass: does a second pass over
the same files find the first one's work done, and does a pass name some skipped
key whenever a startup-only setting differs.
-/

namespace PgmanProxy.Runtime.ReloadAccuracy

open PgmanProxy.Embedded.Reload
open PgmanProxy.Embedded.ServerOptions
open PgmanProxy.Library.GoBytes (utf8)
open PgmanProxy.Library.GoStrings
open PgmanProxy.Runtime.Reload
open PgmanProxy.Runtime.ReloadGuarantees
open PgmanProxy.Validation

set_option autoImplicit false

/-! ## The allow-listed surfaces of a configuration -/

def urlHosts (urls : List URL) : List String := urls.map (fun url => url.host)

/-- The cluster password the options get from `password`. -/
def clusterPassword (config : Config) (password : String) : String :=
  if routesEnabled config.cluster then trimSpace password else ""

/-- The password of a configuration as a pass takes it for the old side: a source that cannot
be read counts as empty. -/
def readPassword (host : Host) (config : Config) : String :=
  match resolveClusterPassword host config.cluster with
  | .ok password => password
  | .error _ => ""

/-- The route hosts the options get. -/
def clusterHosts (std : Stdlib) (config : Config) : Except String (List String) :=
  if routesEnabled config.cluster then
    (parseRouteURLs std config.cluster.routePeers ClusterCredential.zero).map urlHosts
  else .ok []

section Surfaces

variable {std : Stdlib}

/-- User-info has no part in whether a peer parses and in the host it names. -/
theorem parse_route_host (credential other : ClusterCredential) (peer : String) :
    (parseRouteURL std credential peer).map (Option.map (fun url => url.host)) =
      (parseRouteURL std other peer).map (Option.map (fun url => url.host)) := by
  unfold parseRouteURL
  dsimp only
  split
  · rfl
  · cases std.parseURL (if contains "://" (trimSpace peer) = true then trimSpace peer
        else "nats-route://" ++ trimSpace peer) with
    | error text => rfl
    | ok url =>
        dsimp only
        split <;> split <;> rfl

theorem map_mapM_except {Item Parsed Seen : Type} (parse : Item → Except String Parsed)
    (seen : Parsed → Seen) (items : List Item) :
    (items.mapM parse).map (List.map seen) = items.mapM (fun item => (parse item).map seen) := by
  induction items with
  | nil => rfl
  | cons item items ih =>
      rw [List.mapM_cons, List.mapM_cons, ← ih]
      cases parse item with
      | error text => rfl
      | ok parsed =>
          cases items.mapM parse with
          | error text => rfl
          | ok rest => rfl

theorem parse_routes_hosts (credential : ClusterCredential) (peers : List String) :
    (parseRouteURLs std peers credential).map urlHosts =
      (peers.mapM (fun peer => (parseRouteURL std credential peer).map
        (Option.map (fun url => url.host)))).map (List.filterMap id) := by
  rw [← map_mapM_except]
  unfold parseRouteURLs
  cases peers.mapM (parseRouteURL std credential) with
  | error text => rfl
  | ok urls =>
      have hosts : urlHosts (urls.filterMap id) =
          (urls.map (Option.map (fun url => url.host))).filterMap id := by
        rw [urlHosts, List.map_filterMap, List.filterMap_map]
        rfl
      exact congrArg Except.ok hosts

theorem parse_routes_any_credential (credential other : ClusterCredential)
    (peers : List String) :
    (parseRouteURLs std peers credential).map urlHosts =
      (parseRouteURLs std peers other).map urlHosts := by
  rw [parse_routes_hosts, parse_routes_hosts]
  simp only [parse_route_host credential other]

/-- The surfaces of built options, from the configuration and the password. -/
theorem built_surfaces (host : Host) (config : Config) (password : String) (options : Options)
    (built : optionsFromConfig std host config password = .ok options) :
    options.cluster.password = clusterPassword config password ∧
      clusterHosts std config = .ok (routeHosts options) := by
  unfold optionsFromConfig at built
  split at built
  · cases built
  rename_i credential loaded
  obtain ⟨-, ⟨off, shape⟩ | ⟨on, tlsConfig, routes, -, parsed, shape⟩⟩ :=
    build_options_ok _ options built
  · have off : routesEnabled config.cluster = false := off
    rw [shape, clusterPassword, clusterHosts, off]
    exact ⟨rfl, rfl⟩
  · have on : routesEnabled config.cluster = true := on
    have parsed : parseRouteURLs std config.cluster.routePeers credential = .ok routes := parsed
    rw [shape, clusterPassword, clusterHosts, on, if_pos rfl, if_pos rfl,
      parse_routes_any_credential ClusterCredential.zero credential, parsed]
    exact ⟨congrArg ClusterCredential.password (credential_trimmed _ _ _ loaded), rfl⟩

/-- With another route list an input still gives options, if the list parses. -/
theorem build_other_routes (host : Host) (input : OptionsInput) (options : Options)
    (peers : List String) (built : buildOptions std host input = .ok options)
    (parses : input.routesEnabled = true →
      ∃ routes, parseRouteURLs std peers input.credential = .ok routes) :
    ∃ advanced, buildOptions std host { input with routePeers := peers } = .ok advanced := by
  unfold buildOptions at built ⊢
  dsimp only
  by_cases anonymous : input.nodeID = ""
  · rw [if_pos anonymous] at built
    cases built
  rw [if_neg anonymous] at built ⊢
  by_cases unnamed : input.clusterName = ""
  · rw [if_pos unnamed] at built
    cases built
  rw [if_neg unnamed] at built ⊢
  by_cases off : (!input.routesEnabled) = true
  · rw [if_pos off]
    exact ⟨_, rfl⟩
  rw [if_neg off] at built ⊢
  obtain ⟨routes, parsed⟩ := parses (by simpa using off)
  cases loaded : clusterTLS std host input.tlsCertFile input.tlsKeyFile input.tlsCAFile with
  | error text =>
      rw [loaded] at built
      cases built
  | ok tlsConfig =>
      rw [parsed]
      exact ⟨_, rfl⟩

theorem advanced_built (host : Host) (config : Config) (password : String) (options : Options)
    (peers hosts : List String)
    (built : optionsFromConfig std host config password = .ok options)
    (parsed : clusterHosts std (advanceRoutes config peers) = .ok hosts) :
    ∃ advanced, optionsFromConfig std host (advanceRoutes config peers) password =
      .ok advanced := by
  unfold optionsFromConfig at built ⊢
  split at built
  · cases built
  rename_i credential loaded
  have sameCredential : clusterCredential (advanceRoutes config peers).cluster password =
      .ok credential := loaded
  rw [sameCredential]
  apply build_other_routes host (optionsInput config credential) options peers built
  intro on
  have on : routesEnabled (advanceRoutes config peers).cluster = true := on
  rw [clusterHosts, if_pos on,
    parse_routes_any_credential ClusterCredential.zero credential] at parsed
  cases urls : parseRouteURLs std peers credential with
  | ok routes => exact ⟨routes, urls⟩
  | error text =>
      have failed : parseRouteURLs std (advanceRoutes config peers).cluster.routePeers credential =
          .error text := urls
      rw [failed] at parsed
      cases parsed

end Surfaces

/-! ## A second pass -/

/-- The same route hosts, repetitions counted, if both lists parse. -/
def SameHosts (left right : Except String (List String)) : Prop :=
  ∃ old new, left = .ok old ∧ right = .ok new ∧ old.Perm new

/-- The pass reaches the comparison and finds no allow-listed change. -/
def FindsNothing {std : Stdlib} (handler : ReloadHandler std) (reading : Reading) : Prop :=
  ∃ prepared, prepare std handler reading = .ok prepared ∧ prepared.diff.routesAdded = [] ∧
    prepared.diff.routesRemoved = [] ∧ prepared.diff.passwordRotated = false

/-- The configuration in memory and the one read agree on the password, and on the routes as
they are or once the route list is copied. -/
def Settles (std : Stdlib) (host : Host) (memory config : Config) : Prop :=
  clusterPassword memory (readPassword host memory) =
      clusterPassword config (readPassword host config) ∧
    (SameHosts (clusterHosts std memory) (clusterHosts std config) ∨
      SameHosts (clusterHosts std (advanceRoutes memory config.cluster.routePeers))
        (clusterHosts std config))

section SecondPass

variable {std : Stdlib}

theorem no_allow_listed_fields (diff : ReloadDiff) :
    diff.hasAllowListed = false ↔
      diff.routesAdded = [] ∧ diff.routesRemoved = [] ∧ diff.passwordRotated = false := by
  simp only [ReloadDiff.hasAllowListed, Bool.or_eq_false_iff, Bool.not_eq_false',
    List.isEmpty_iff, and_assoc]

/-- Where one handler reaches the comparison, every handler does that can build its old
options. -/
theorem prepare_again (handler other : ReloadHandler std) (reading : Reading)
    (prepared : Prepared std) (reached : prepare std handler reading = .ok prepared) :
    prepare std other reading =
      match remembered std other reading.host with
      | .error text => .error ("build old options: " ++ text)
      | .ok old =>
          .ok ⟨old, prepared.new, computeDiff ⟨old, prepared.new.options,
            rememberedPassword std other reading.host, prepared.new.password⟩⟩ := by
  unfold prepare at reached ⊢
  split at reached
  · cases reached
  rename_i newCfg loaded
  split at reached
  · cases reached
  rename_i valid
  split at reached
  · cases reached
  rename_i newPw secret
  split at reached
  · cases reached
  split at reached
  · cases reached
  rename_i new built
  cases reached
  obtain ⟨-, -, samePassword⟩ := build_server_ok _ _ _ new built
  subst samePassword
  cases remembered std other reading.host with
  | error text => rfl
  | ok old => rfl

theorem finds_nothing_iff (handler other : ReloadHandler std) (reading : Reading)
    (prepared : Prepared std) (reached : prepare std handler reading = .ok prepared) :
    FindsNothing other reading ↔
      ∃ old, remembered std other reading.host = .ok old ∧
        SameSurfaces old prepared.new.options := by
  unfold FindsNothing
  rw [prepare_again handler other reading prepared reached]
  cases remembered std other reading.host with
  | error text => simp
  | ok old =>
      simp only [Except.ok.injEq, exists_eq_left', ← no_allow_listed_fields, no_allow_listed_iff]

/-- Two sets of built options have the same surfaces exactly when their configurations ask
for the same. -/
theorem same_surfaces_iff (host : Host) (memory config : Config) (oldPw newPw : String)
    (old new : Options) (oldBuilt : optionsFromConfig std host memory oldPw = .ok old)
    (newBuilt : optionsFromConfig std host config newPw = .ok new) :
    SameSurfaces old new ↔
      clusterPassword memory oldPw = clusterPassword config newPw ∧
        SameHosts (clusterHosts std memory) (clusterHosts std config) := by
  obtain ⟨oldPassword, oldHosts⟩ := built_surfaces host memory oldPw old oldBuilt
  obtain ⟨newPassword, newHosts⟩ := built_surfaces host config newPw new newBuilt
  rw [SameSurfaces, oldPassword, newPassword, SameHosts, oldHosts, newHosts]
  apply and_congr_right
  intro _
  constructor
  · intro permuted
    exact ⟨_, _, rfl, rfl, permuted⟩
  · rintro ⟨left, right, sameLeft, sameRight, permuted⟩
    cases sameLeft
    cases sameRight
    exact permuted

/-- After a pass that returned nil, another over the same reading finds nothing to do exactly
when the copied route list is all that the memory had to learn. -/
theorem second_pass_finds_nothing_iff (handler : ReloadHandler std) (reading : Reading)
    (nats : Except String Unit) (config : Config) (report : Report)
    (read : reading.config = .ok config)
    (returned : (applyOnce std handler reading nats).result = .ok report) :
    FindsNothing (applyOnce std handler reading nats).handler reading ↔
      Settles std reading.host handler.currentCfg config := by
  obtain ⟨prepared, reached, next⟩ := apply_once_ok handler reading nats report returned
  obtain ⟨loaded, newHost, secret, -, old, unlisted⟩ := prepare_ok handler reading prepared reached
  have newConfig : prepared.new.config = config := Except.ok.inj (loaded.symm.trans read)
  have newBuilt := prepared.new.built
  rw [newHost, newConfig] at newBuilt
  rw [newConfig] at secret
  have newPassword : readPassword reading.host config = prepared.new.password := by
    rw [readPassword, secret]
  have now := same_surfaces_iff reading.host handler.currentCfg config
    (readPassword reading.host handler.currentCfg) prepared.new.password _ _ old newBuilt
  rw [Settles, newPassword, next, newConfig]
  by_cases listed : prepared.diff.hasAllowListed = true
  · -- the first pass did something, and only the route list reached the memory
    have changed : ¬SameSurfaces prepared.oldOpts prepared.new.options := by
      rw [← unlisted, listed]
      exact Bool.noConfusion
    have later := fun advanced rebuilt => same_surfaces_iff reading.host
      (advanceRoutes handler.currentCfg config.cluster.routePeers) config
      (readPassword reading.host handler.currentCfg) prepared.new.password advanced _
      rebuilt newBuilt
    rw [if_pos listed, finds_nothing_iff handler _ reading prepared reached]
    constructor
    · rintro ⟨advanced, rebuilt, same⟩
      obtain ⟨password, hosts⟩ := (later advanced rebuilt).1 same
      exact ⟨password, Or.inr hosts⟩
    · rintro ⟨password, hosts | hosts⟩
      · exact absurd (now.2 ⟨password, hosts⟩) changed
      · obtain ⟨parsed, -, ok, -⟩ := id hosts
        obtain ⟨advanced, rebuilt⟩ := advanced_built reading.host handler.currentCfg
          (readPassword reading.host handler.currentCfg) _ _ parsed old ok
        exact ⟨advanced, rebuilt, (later advanced rebuilt).2 ⟨password, hosts⟩⟩
  · have same := unlisted.1 (Bool.eq_false_iff.2 listed)
    obtain ⟨password, hosts⟩ := now.1 same
    rw [if_neg listed, finds_nothing_iff handler handler reading prepared reached]
    exact iff_of_true ⟨_, old, same⟩ ⟨password, Or.inl hosts⟩

end SecondPass

/-- The handler after the pass that adds the route to `n3`. -/
def joinPass : Pass sampleStd := applyOnce sampleStd sampleHandler (joinReading 4222) (.ok ())

theorem join_settles : FindsNothing joinPass.handler (joinReading 4222) := by
  have result : joinPass.result =
      .ok ⟨.applied, some ⟨["n3:6222"], [], false, [], [], [], ""⟩⟩ := by
    decide
  refine (second_pass_finds_nothing_iff sampleHandler (joinReading 4222) (.ok ())
    (sampleConfig 4222 ["n2:6222", "n3:6222"]) _ rfl result).2 ⟨by decide, Or.inr ?_⟩
  exact ⟨["n2:6222", "n3:6222"], ["n2:6222", "n3:6222"], by decide, by decide,
    List.Perm.refl _⟩

/-- The configuration names another secret file. -/
def movedSecretReading : Reading where
  config := .ok
    { sampleConfig 4222 ["n2:6222"] with
      cluster :=
        { (sampleConfig 4222 ["n2:6222"]).cluster with passwordFile := "/run/secrets/next" } }
  host :=
    { getenv := fun _ => ""
      readFile := fun path =>
        if path = "/run/secrets/cluster" then .ok "first-secret-0001\n"
        else if path = "/run/secrets/next" then .ok "second-secret-002\n"
        else .error "no such file" }

def movedSecretPass : Pass sampleStd :=
  applyOnce sampleStd sampleHandler movedSecretReading (.ok ())

/-- Each pass resolves the old password through the reference of the first configuration and
reports the same rotation again. -/
theorem moved_secret_rotates_again :
    movedSecretPass.result =
        .ok ⟨.applied, some ⟨[], [], true, utf8 "first-se", utf8 "second-s", [], ""⟩⟩ ∧
      (prepare sampleStd movedSecretPass.handler movedSecretReading).map
        (fun prepared => prepared.diff.passwordRotated) = .ok true ∧
      ¬FindsNothing movedSecretPass.handler movedSecretReading := by
  have rotated : (prepare sampleStd movedSecretPass.handler movedSecretReading).map
      (fun prepared => prepared.diff.passwordRotated) = .ok true := by
    decide
  refine ⟨by decide, rotated, ?_⟩
  rintro ⟨prepared, reached, -, -, quiet⟩
  rw [reached] at rotated
  cases quiet.symm.trans (Except.ok.inj rotated)

/-! ## Skipped keys -/

/-- The startup-only options other than the TLS material. -/
def otherKeys (options : Options) : Options :=
  { frame options with cluster := { (frame options).cluster with tlsConfig := none } }

/-- The TLS material is the same, or comes or goes, or is not all that differs. -/
def TLSChangeSeen (old new : Options) : Prop :=
  old.cluster.tlsConfig = new.cluster.tlsConfig ∨
    old.cluster.tlsConfig.isNone ≠ new.cluster.tlsConfig.isNone ∨
      otherKeys old ≠ otherKeys new

section Skipped

variable {std : Stdlib}

theorem frame_eq_iff (old new : Options) :
    frame old = frame new ↔
      otherKeys old = otherKeys new ∧ old.cluster.tlsConfig = new.cluster.tlsConfig := by
  have rejoined : ∀ options : Options, frame options =
      { otherKeys options with
        cluster :=
          { (otherKeys options).cluster with tlsConfig := options.cluster.tlsConfig } } := by
    intro options
    rfl
  constructor
  · intro same
    constructor
    · rw [otherKeys, otherKeys, same]
    · exact congrArg (fun options => options.cluster.tlsConfig) same
  · rintro ⟨others, material⟩
    rw [rejoined old, rejoined new, others, material]

theorem skipped_empty_iff (old new : Options) :
    skippedKeys old new = [] ↔
      (old.serverName = new.serverName ∧ old.host = new.host ∧ old.port = new.port ∧
        old.storeDir = new.storeDir ∧ old.cluster.name = new.cluster.name ∧
        old.cluster.host = new.cluster.host ∧ old.cluster.port = new.cluster.port ∧
        old.cluster.username = new.cluster.username) ∧
      old.cluster.tlsConfig.isNone = new.cluster.tlsConfig.isNone := by
  have unsorted : ∀ keys : List String, keys.insertionSort (· ≤ ·) = [] ↔ keys = [] := by
    intro keys
    rw [← List.length_eq_zero_iff, List.length_insertionSort, List.length_eq_zero_iff]
  have listed : ∀ (changed : Bool) (key : String),
      (if changed then [key] else []) = [] ↔ changed = false := by
    intro changed key
    cases changed <;> simp
  simp only [skippedKeys, unsorted, List.append_eq_nil_iff, listed, Bool.or_eq_false_iff,
    bne_eq_false_iff_eq]
  -- the same equations, in the order of the keys and in that of the options
  constructor
  · rintro ⟨⟨⟨⟨⟨⟨server, host, port⟩, name⟩, routesHost, routesPort⟩, user⟩, dir⟩, tls⟩
    exact ⟨⟨server, host, port, dir, name, routesHost, routesPort, user⟩, tls⟩
  · rintro ⟨⟨server, host, port, dir, name, routesHost, routesPort, user⟩, tls⟩
    exact ⟨⟨⟨⟨⟨⟨server, host, port⟩, name⟩, routesHost, routesPort⟩, user⟩, dir⟩, tls⟩

/-- Built options agree in what no configuration sets. -/
theorem built_constants (host : Host) (config : Config) (password : String) (options : Options)
    (built : optionsFromConfig std host config password = .ok options) :
    options.noLog = true ∧ options.noSigs = true ∧ options.logtime = false ∧
      options.jetStream = true := by
  obtain ⟨shape, -⟩ := built_frame host config password options built
  exact ⟨congrArg Options.noLog shape, congrArg Options.noSigs shape,
    congrArg Options.logtime shape, congrArg Options.jetStream shape⟩

theorem skipped_empty_iff_other_keys (oldHost newHost : Host) (oldCfg newCfg : Config)
    (oldPw newPw : String) (old new : Options)
    (oldBuilt : optionsFromConfig std oldHost oldCfg oldPw = .ok old)
    (newBuilt : optionsFromConfig std newHost newCfg newPw = .ok new) :
    skippedKeys old new = [] ↔
      otherKeys old = otherKeys new ∧
        old.cluster.tlsConfig.isNone = new.cluster.tlsConfig.isNone := by
  obtain ⟨oldLog, oldSigs, oldTime, oldStream⟩ := built_constants oldHost oldCfg oldPw old oldBuilt
  obtain ⟨newLog, newSigs, newTime, newStream⟩ := built_constants newHost newCfg newPw new newBuilt
  rw [skipped_empty_iff]
  simp only [otherKeys, frame, Options.mk.injEq, ClusterOpts.mk.injEq, and_true, oldLog, newLog,
    oldSigs, newSigs, oldTime, newTime, oldStream, newStream, true_and]

/-- A difference besides the routes and the password leaves a skipped key exactly when it is
not a mere exchange of TLS material. -/
theorem skipped_key_listed_iff (oldHost newHost : Host) (oldCfg newCfg : Config)
    (oldPw newPw : String) (old new : Options)
    (oldBuilt : optionsFromConfig std oldHost oldCfg oldPw = .ok old)
    (newBuilt : optionsFromConfig std newHost newCfg newPw = .ok new) :
    (frame old ≠ frame new → (computeDiff ⟨old, new, oldPw, newPw⟩).skippedKeys ≠ []) ↔
      TLSChangeSeen old new := by
  have unlisted : (computeDiff ⟨old, new, oldPw, newPw⟩).skippedKeys = [] ↔
      otherKeys old = otherKeys new ∧
        old.cluster.tlsConfig.isNone = new.cluster.tlsConfig.isNone :=
    skipped_empty_iff_other_keys oldHost newHost oldCfg newCfg oldPw newPw old new oldBuilt newBuilt
  rw [ne_eq, ne_eq, frame_eq_iff, unlisted, TLSChangeSeen]
  constructor
  · intro listed
    by_cases others : otherKeys old = otherKeys new
    · by_cases material : old.cluster.tlsConfig = new.cluster.tlsConfig
      · exact Or.inl material
      · have kept := listed (fun same => material same.2)
        exact Or.inr (Or.inl (fun presence => kept ⟨others, presence⟩))
    · exact Or.inr (Or.inr others)
  · rintro seen differ ⟨others, presence⟩
    rcases seen with material | exchanged | elsewhere
    · exact differ ⟨others, material⟩
    · exact exchanged presence
    · exact elsewhere others

end Skipped

theorem client_port_listed :
    frame sampleOptions ≠ frame { sampleOptions with port := 4333 } ∧
      (computeDiff ⟨sampleOptions, { sampleOptions with port := 4333 }, "first-secret-0001",
        "first-secret-0001"⟩).skippedKeys ≠ [] := by
  have differ : frame sampleOptions ≠ frame { sampleOptions with port := 4333 } := by
    decide
  have moved : optionsFromConfig sampleStd (sampleHost "first-secret-0001\n")
      (sampleConfig 4333 ["n2:6222"]) "first-secret-0001" =
        .ok { sampleOptions with port := 4333 } := by
    decide
  exact ⟨differ, (skipped_key_listed_iff _ _ _ _ _ _ _ _ sample_options_built moved).2
    (Or.inl rfl) differ⟩

/-- Certificates load as the text of both files. -/
def pemStd : Stdlib := { sampleStd with x509KeyPair := fun cert key => .ok (cert ++ key) }

def tlsConfigFile : Config :=
  { sampleConfig 4222 ["n2:6222"] with
    cluster :=
      { (sampleConfig 4222 ["n2:6222"]).cluster with
        tls := ⟨"/tls/cert.pem", "/tls/key.pem", "", false⟩ } }

def tlsHost (cert : String) : Host where
  getenv := fun _ => ""
  readFile := fun path =>
    if path = "/tls/cert.pem" then .ok cert
    else if path = "/tls/key.pem" then .ok "key"
    else .ok "first-secret-0001\n"

def tlsOptions (cert : String) : Options :=
  { sampleOptions with
    cluster := { sampleOptions.cluster with tlsConfig := some ⟨cert ++ "key", none⟩ } }

/-- A renewed certificate is neither applied nor mentioned. -/
theorem renewed_certificate_not_listed :
    validate pemStd tlsConfigFile = .ok () ∧
      optionsFromConfig pemStd (tlsHost "old") tlsConfigFile "first-secret-0001" =
        .ok (tlsOptions "old") ∧
      optionsFromConfig pemStd (tlsHost "new") tlsConfigFile "first-secret-0001" =
        .ok (tlsOptions "new") ∧
      frame (tlsOptions "old") ≠ frame (tlsOptions "new") ∧
      (computeDiff ⟨tlsOptions "old", tlsOptions "new", "first-secret-0001",
        "first-secret-0001"⟩).skippedKeys = [] := by
  decide

end PgmanProxy.Runtime.ReloadAccuracy
