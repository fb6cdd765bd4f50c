import PgmanProxy.Config.Settings
import PgmanProxy.Library.Assignments
import PgmanProxy.Library.FirstMatch

/-!
# Loading the configuration in layers

Defaults, the YAML file, the environment and the flags are laid over one another. The
tables of environment setters and the map of flags are Go maps, which are walked in an
order that differs from run to run, so a load is modelled for every order.
-/

namespace PgmanProxy.Config.Loading

open PgmanProxy.Library.GoStrings PgmanProxy.Library.Assignments PgmanProxy.Library.FirstMatch
open PgmanProxy.Config.Settings

set_option autoImplicit false

structure Sources where
  yamlPath : String
  envPresent : List String
  flagsSet : List String
deriving DecidableEq, Repr

/-- The parsed flags; a map has no name twice. -/
structure Flags where
  entries : List (String × String)
  distinct : (entries.map Prod.fst).Nodup

structure LoadOptions where
  yamlPath : String
  env : String → String
  flags : Flags

/-- The file system, and `yaml.Unmarshal` over a configuration. -/
structure Disk where
  readFile : String → Except String String
  unmarshal : String → Resolved → Except String Resolved

/-- An order in which the two tables are walked. -/
structure Walk where
  passthrough : List Setting
  parsed : List Setting
  allPassthrough : passthrough.Perm Settings.passthrough
  allParsed : parsed.Perm Settings.parsed

/-! ## The layers -/

def fileLayer (disk : Disk) (yamlPath : String) : Except String Resolved :=
  if yamlPath = "" then .ok defaults
  else
    match disk.readFile yamlPath with
    | .error err => .error ("read config " ++ quote yamlPath ++ ": " ++ err)
    | .ok raw =>
        match disk.unmarshal raw defaults with
        | .error err => .error ("parse yaml " ++ quote yamlPath ++ ": " ++ err)
        | .ok config => .ok config

def aliases : List (String × Setting) :=
  [("CLUSTER_ID", .clusterID), ("NODE_ID", .nodeID), ("PEERS", .peers),
    ("PGDATA", .postgresDataDir), ("PG_BINDIR", .postgresBinDir),
    ("PROXY_LISTEN", .proxyListenAddr)]

section Environment

variable (parsers : Parsers) (env : String → String)

/-- The assignment of a text to a setting. -/
def assign (key : Setting) (text : String) : Except String (Assignment Setting.Value) :=
  match parse parsers key.kind text with
  | .error err => .error err
  | .ok value => .ok ⟨key, value⟩

/-- What a table entry does, if its variable is set. -/
def envItem (key : Setting) : Option (Except String (Assignment Setting.Value)) :=
  if env key.envKey = "" then none
  else
    some
      (match assign parsers key (env key.envKey) with
      | .error err => .error ("env " ++ key.envKey ++ ": " ++ err)
      | .ok assignment => .ok assignment)

/-- An alias counts where the canonical variable is not set. -/
def aliasItem (entry : String × Setting) : Option (Except String (Assignment Setting.Value)) :=
  if env entry.1 = "" then none
  else if env entry.2.envKey ≠ "" then none
  else some (assign parsers entry.2 (env entry.1))

def aliasNote (entry : String × Setting) : Option String :=
  if env entry.1 = "" then none
  else if env entry.2.envKey ≠ "" then some (entry.1 ++ " (alias, canonical wins)")
  else some (entry.1 ++ " (alias)")

def applyEnv (walk : Walk) (config : Resolved) : Except String Resolved :=
  (assignAll (walk.passthrough.filterMap (envItem parsers env)) config).bind (fun config =>
    (assignAll (walk.parsed.filterMap (envItem parsers env)) config).bind (fun config =>
      assignAll (aliases.filterMap (aliasItem parsers env)) config))

def envPresent (keys : List Setting) : List String :=
  (keys.filter (fun key => env key.envKey ≠ "")).map Setting.envKey

end Environment

def flagSetting (name : String) : Option Setting :=
  match name with
  | "cluster-id" => some .clusterID
  | "cluster-name" => some .clusterName
  | "node-id" => some .nodeID
  | "peers" => some .peers
  | "listen" => some .proxyListenAddr
  | "switch-policy" => some .proxySwitchPolicy
  | "log-level" => some .obsLogLevel
  | "metrics" => some .obsMetricsAddr
  | _ => none

def flagItem (parsers : Parsers) (entry : String × String) :
    Except String (Assignment Setting.Value) :=
  match flagSetting entry.1 with
  | none => .error ("unknown flag --" ++ entry.1)
  | some key => assign parsers key entry.2

def applyFlags (parsers : Parsers) (flags : Flags) (config : Resolved) : Except String Resolved :=
  assignAll (flags.entries.map (flagItem parsers)) config

/-! ## The deployment mode -/

def preferLoopbackIfAllInterfaces (addr : String) : String :=
  if addr = "" then addr
  else
    match cutLead "0.0.0.0:" addr, cutLead "[::]:" addr, cutLead ":" addr with
    | some port, _, _ => "127.0.0.1:" ++ port
    | none, some port, _ => "127.0.0.1:" ++ port
    | none, none, some _ => "127.0.0.1" ++ addr
    | none, none, none => addr

def deploymentModeSidecar : String := "sidecar"

def deploymentMode (config : Resolved) : String := config .deploymentMode

def applyModeDefaults (config : Resolved) : Resolved :=
  if deploymentMode config ≠ deploymentModeSidecar then config
  else fun
    | .proxyListenAddr => preferLoopbackIfAllInterfaces (config .proxyListenAddr)
    | .obsHealthAddr => preferLoopbackIfAllInterfaces (config .obsHealthAddr)
    | .obsMetricsAddr => preferLoopbackIfAllInterfaces (config .obsMetricsAddr)
    | .controlListenAddr => preferLoopbackIfAllInterfaces (config .controlListenAddr)
    | key => config key

def sourcesOf (walk : Walk) (opts : LoadOptions) : Sources where
  yamlPath := opts.yamlPath
  envPresent := envPresent opts.env (walk.passthrough ++ walk.parsed) ++
    aliases.filterMap (aliasNote opts.env)
  flagsSet := opts.flags.entries.map Prod.fst

def load (parsers : Parsers) (disk : Disk) (walk : Walk) (opts : LoadOptions) :
    Except String (Resolved × Sources) :=
  (fileLayer disk opts.yamlPath).bind (fun config =>
    (applyEnv parsers opts.env walk config).bind (fun config =>
      (applyFlags parsers opts.flags config).bind (fun config =>
        .ok (applyModeDefaults config, sourcesOf walk opts))))

/-! ## What a layer supplies -/

section Layers

variable (parsers : Parsers)

/-- The configuration with the texts of a layer read into it. -/
def overlay (texts : Setting → Option String) (config : Resolved) : Resolved := fun key =>
  match texts key with
  | none => config key
  | some text =>
      match parse parsers key.kind text with
      | .error _ => config key
      | .ok value => value

/-- The assignments are those of the layer's texts. -/
def Carries (items : List (Except String (Assignment Setting.Value)))
    (texts : Setting → Option String) : Prop :=
  ∀ key value, Gives items key value ↔
    ∃ text, texts key = some text ∧ parse parsers key.kind text = .ok value

theorem carries_consistent (items : List (Except String (Assignment Setting.Value)))
    (texts : Setting → Option String) (carries : Carries parsers items texts) :
    Consistent items := by
  intro key left right leftGives rightGives
  rcases (carries key left).1 leftGives with ⟨text, found, read⟩
  rcases (carries key right).1 rightGives with ⟨other, otherFound, otherRead⟩
  rw [found] at otherFound
  cases otherFound
  rw [read] at otherRead
  exact Except.ok.inj otherRead

theorem carries_overlaid (items : List (Except String (Assignment Setting.Value)))
    (texts : Setting → Option String) (config : Resolved)
    (carries : Carries parsers items texts) :
    Overlaid items config (overlay parsers texts config) where
  given := by
    intro key value gives
    rcases (carries key value).1 gives with ⟨text, found, read⟩
    simp only [overlay, found, read]
  kept := by
    intro key nothing
    unfold overlay
    split
    · rfl
    · rename_i text found
      split
      · rfl
      · rename_i value read
        exact absurd ((carries key value).2 ⟨text, found, read⟩) (nothing value)

theorem assign_all_carries (items : List (Except String (Assignment Setting.Value)))
    (texts : Setting → Option String) (config after : Resolved)
    (carries : Carries parsers items texts) :
    assignAll items config = .ok after ↔
      (∀ item ∈ items, ∀ err, item ≠ .error err) ∧ after = overlay parsers texts config := by
  have overlaid := carries_overlaid parsers items texts config carries
  rw [assign_all_iff items config after (carries_consistent parsers items texts carries)]
  constructor
  · intro both
    exact ⟨both.1, overlaid_unique items config _ _ both.2 overlaid⟩
  · intro both
    rw [both.2]
    exact ⟨both.1, overlaid⟩

end Layers

/-! ## The environment -/

section EnvironmentLayer

variable (parsers : Parsers) (env : String → String)

/-- The setting's variable, or its alias where the variable is not set. -/
def envText (key : Setting) : Option String :=
  if env key.envKey ≠ "" then some (env key.envKey)
  else
    (aliases.find? (fun entry => entry.2 = key ∧ env entry.1 ≠ "")).map (fun entry => env entry.1)

theorem assign_ok_iff (key : Setting) (text : String) (assignment : Assignment Setting.Value) :
    assign parsers key text = .ok assignment ↔
      ∃ value, parse parsers key.kind text = .ok value ∧ assignment = ⟨key, value⟩ := by
  unfold assign
  cases read : parse parsers key.kind text with
  | error err => simp
  | ok value =>
      simp only [Except.ok.injEq, exists_eq_left']
      exact eq_comm

theorem env_item_ok_iff (key : Setting) (assignment : Assignment Setting.Value) :
    envItem parsers env key = some (.ok assignment) ↔
      env key.envKey ≠ "" ∧ ∃ value, parse parsers key.kind (env key.envKey) = .ok value ∧
        assignment = ⟨key, value⟩ := by
  unfold envItem
  by_cases unset : env key.envKey = ""
  · simp [unset]
  · rw [if_neg unset, ← assign_ok_iff]
    cases assign parsers key (env key.envKey) with
    | error err => simp
    | ok found => simp [unset]

theorem alias_item_ok_iff (entry : String × Setting) (assignment : Assignment Setting.Value) :
    aliasItem parsers env entry = some (.ok assignment) ↔
      env entry.1 ≠ "" ∧ env entry.2.envKey = "" ∧
        ∃ value, parse parsers entry.2.kind (env entry.1) = .ok value ∧
          assignment = ⟨entry.2, value⟩ := by
  unfold aliasItem
  by_cases unset : env entry.1 = ""
  · simp [unset]
  · rw [if_neg unset, ← assign_ok_iff]
    by_cases canonical : env entry.2.envKey = ""
    · simp [canonical, unset]
    · simp [canonical]

def envItems (walk : Walk) : List (Except String (Assignment Setting.Value)) :=
  walk.passthrough.filterMap (envItem parsers env) ++
    walk.parsed.filterMap (envItem parsers env) ++ aliases.filterMap (aliasItem parsers env)

theorem apply_env_items (walk : Walk) (config : Resolved) :
    applyEnv parsers env walk config = assignAll (envItems parsers env walk) config := by
  rw [envItems, assign_all_append, assign_all_append, applyEnv]
  cases assignAll (walk.passthrough.filterMap (envItem parsers env)) config <;> rfl

theorem walk_covers (walk : Walk) (key : Setting) :
    key ∈ walk.passthrough ∨ key ∈ walk.parsed := by
  have listed := setting_listed key
  split at listed
  · exact .inr (walk.allParsed.mem_iff.2 listed)
  · exact .inl (walk.allPassthrough.mem_iff.2 listed)

theorem alias_unique : ∀ left ∈ aliases, ∀ right ∈ aliases, left.2 = right.2 → left = right := by
  decide

theorem alias_safe : ∀ entry ∈ aliases, entry.2.kind.fallible = false := by
  decide

theorem alias_text (entry : String × Setting) (member : entry ∈ aliases)
    (set : env entry.1 ≠ "") (unset : env entry.2.envKey = "") :
    envText env entry.2 = some (env entry.1) := by
  have found : aliases.find? (fun other => other.2 = entry.2 ∧ env other.1 ≠ "") =
      some entry := by
    cases search : aliases.find? (fun other => other.2 = entry.2 ∧ env other.1 ≠ "") with
    | none =>
        have missing := List.find?_eq_none.1 search entry member
        simp [set] at missing
    | some other =>
        have passes := List.find?_some search
        simp only [decide_eq_true_eq] at passes
        rw [alias_unique other (List.mem_of_find?_eq_some search) entry member passes.1]
  rw [envText, if_neg (by simp [unset]), found]
  rfl

theorem env_carries (walk : Walk) :
    Carries parsers (envItems parsers env walk) (envText env) := by
  intro key value
  constructor
  · intro gives
    rw [Gives, envItems, List.mem_append, List.mem_append] at gives
    simp only [List.mem_filterMap, env_item_ok_iff, alias_item_ok_iff] at gives
    rcases gives with (⟨other, -, set, found, read, same⟩ | ⟨other, -, set, found, read, same⟩) |
      ⟨entry, member, set, unset, found, read, same⟩
    · cases same
      exact ⟨_, if_pos set, read⟩
    · cases same
      exact ⟨_, if_pos set, read⟩
    · cases same
      exact ⟨_, alias_text env entry member set unset, read⟩
  · intro supplied
    rcases supplied with ⟨text, found, read⟩
    rw [Gives, envItems, List.mem_append, List.mem_append]
    simp only [List.mem_filterMap, env_item_ok_iff, alias_item_ok_iff]
    by_cases set : env key.envKey = ""
    · right
      rw [envText, if_neg (by simp [set])] at found
      rcases Option.map_eq_some_iff.1 found with ⟨entry, search, same⟩
      have passes := List.find?_some search
      simp only [decide_eq_true_eq] at passes
      rcases passes with ⟨named, present⟩
      subst named same
      exact ⟨entry, List.mem_of_find?_eq_some search, present, set, value, read, rfl⟩
    · left
      rw [envText, if_pos set] at found
      cases found
      rcases walk_covers walk key with first | second
      · exact .inl ⟨key, first, set, value, read, rfl⟩
      · exact .inr ⟨key, second, set, value, read, rfl⟩

/-- Every variable of the second table that is set can be read. -/
def EnvReadable : Prop :=
  ∀ key ∈ parsed, env key.envKey ≠ "" → ∃ value, parse parsers key.kind (env key.envKey) = .ok value

theorem env_items_ok_iff (walk : Walk) :
    (∀ item ∈ envItems parsers env walk, ∀ err, item ≠ .error err) ↔ EnvReadable parsers env := by
  constructor
  · intro fine key listed set
    cases read : parse parsers key.kind (env key.envKey) with
    | ok value => exact ⟨value, rfl⟩
    | error err =>
        have member : (.error ("env " ++ key.envKey ++ ": " ++ err)) ∈
            envItems parsers env walk := by
          rw [envItems, List.mem_append, List.mem_append]
          refine .inl (.inr ?_)
          rw [List.mem_filterMap]
          refine ⟨key, walk.allParsed.mem_iff.2 listed, ?_⟩
          simp only [envItem, if_neg set, assign, read]
        exact absurd rfl (fine _ member _)
  · intro readable item member err failed
    subst failed
    have sound : ∀ key, envItem parsers env key = some (.error err) → False := by
      intro key item
      unfold envItem at item
      split at item
      · cases item
      · rename_i set
        have value : ∃ value, parse parsers key.kind (env key.envKey) = .ok value := by
          have listed := setting_listed key
          split at listed
          · exact readable key listed set
          · rename_i safe
            exact parse_safe parsers key.kind _ (by simpa using safe)
        rcases value with ⟨value, read⟩
        simp [assign, read] at item
    rw [envItems, List.mem_append, List.mem_append] at member
    simp only [List.mem_filterMap] at member
    rcases member with (⟨key, -, item⟩ | ⟨key, -, item⟩) | ⟨entry, listed, item⟩
    · exact sound key item
    · exact sound key item
    · rcases parse_safe parsers entry.2.kind (env entry.1) (alias_safe entry listed) with
        ⟨value, read⟩
      unfold aliasItem at item
      split at item
      · cases item
      · split at item
        · cases item
        · simp [assign, read] at item

theorem apply_env_iff (walk : Walk) (config after : Resolved) :
    applyEnv parsers env walk config = .ok after ↔
      EnvReadable parsers env ∧ after = overlay parsers (envText env) config := by
  rw [apply_env_items, assign_all_carries parsers _ _ config after (env_carries parsers env walk),
    env_items_ok_iff]

end EnvironmentLayer

/-! ## The flags -/

section FlagLayer

variable (parsers : Parsers)

/-- The flag that sets a setting. -/
def flagName : Setting → Option String
  | .clusterID => some "cluster-id"
  | .clusterName => some "cluster-name"
  | .nodeID => some "node-id"
  | .peers => some "peers"
  | .proxyListenAddr => some "listen"
  | .proxySwitchPolicy => some "switch-policy"
  | .obsLogLevel => some "log-level"
  | .obsMetricsAddr => some "metrics"
  | _ => none

theorem flag_setting_iff (name : String) (key : Setting) :
    flagSetting name = some key ↔ flagName key = some name := by
  constructor
  · intro found
    unfold flagSetting at found
    split at found <;> cases found <;> rfl
  · intro named
    cases key <;> cases named <;> rfl

def flagText (flags : Flags) (key : Setting) : Option String :=
  (flagName key).bind (fun name =>
    (flags.entries.find? (fun entry => entry.1 = name)).map Prod.snd)

theorem flag_text_iff (flags : Flags) (key : Setting) (text : String) :
    flagText flags key = some text ↔
      ∃ name, flagSetting name = some key ∧ (name, text) ∈ flags.entries := by
  unfold flagText
  rw [Option.bind_eq_some_iff]
  simp only [flag_setting_iff, Option.map_eq_some_iff]
  constructor
  · intro found
    rcases found with ⟨name, named, entry, search, same⟩
    have called := List.find?_some search
    simp only [decide_eq_true_eq] at called
    refine ⟨name, named, ?_⟩
    rw [← called, ← same]
    exact List.mem_of_find?_eq_some search
  · intro found
    rcases found with ⟨name, named, member⟩
    refine ⟨name, named, (name, text), ?_, rfl⟩
    apply find_eq_of_unique _ _ _ member (by simp)
    intro first firstMember second secondMember firstCalled secondCalled
    simp only [decide_eq_true_eq] at firstCalled secondCalled
    exact List.inj_on_of_nodup_map flags.distinct firstMember secondMember
      (firstCalled.trans secondCalled.symm)

theorem flag_carries (flags : Flags) :
    Carries parsers (flags.entries.map (flagItem parsers)) (flagText flags) := by
  intro key value
  simp only [Gives, List.mem_map, flag_text_iff]
  constructor
  · intro gives
    rcases gives with ⟨⟨name, text⟩, member, made⟩
    unfold flagItem at made
    split at made
    · cases made
    · rename_i other known
      rcases (assign_ok_iff parsers other text _).1 made with ⟨found, read, same⟩
      cases same
      exact ⟨text, ⟨name, known, member⟩, read⟩
  · intro supplied
    rcases supplied with ⟨text, ⟨name, known, member⟩, read⟩
    refine ⟨(name, text), member, ?_⟩
    simp only [flagItem, known]
    exact (assign_ok_iff parsers key text _).2 ⟨value, read, rfl⟩

def FlagsKnown (flags : Flags) : Prop :=
  ∀ entry ∈ flags.entries, (flagSetting entry.1).isSome = true

theorem flag_safe (name : String) (key : Setting) (known : flagSetting name = some key) :
    key.kind.fallible = false := by
  unfold flagSetting at known
  split at known <;> cases known <;> rfl

theorem flag_items_ok_iff (flags : Flags) :
    (∀ item ∈ flags.entries.map (flagItem parsers), ∀ err, item ≠ .error err) ↔
      FlagsKnown flags := by
  rw [List.forall_mem_map]
  apply forall₂_congr
  intro entry _
  unfold flagItem
  cases known : flagSetting entry.1 with
  | none => simp
  | some key =>
      rcases parse_safe parsers key.kind entry.2 (flag_safe entry.1 key known) with ⟨value, read⟩
      simp [assign, read]

theorem apply_flags_iff (flags : Flags) (config after : Resolved) :
    applyFlags parsers flags config = .ok after ↔
      FlagsKnown flags ∧ after = overlay parsers (flagText flags) config := by
  rw [applyFlags, assign_all_carries parsers _ _ config after (flag_carries parsers flags),
    flag_items_ok_iff]

end FlagLayer

/-! ## The whole load -/

section Load

variable (parsers : Parsers) (disk : Disk) (opts : LoadOptions)

/-- A flag, else the variable, else its alias, else what the file or the defaults say. -/
def layered (base : Resolved) : Resolved :=
  overlay parsers (flagText opts.flags) (overlay parsers (envText opts.env) base)

theorem bind_ok_iff {Before After : Type} (first : Except String Before)
    (next : Before → Except String After) (after : After) :
    first.bind next = .ok after ↔ ∃ before, first = .ok before ∧ next before = .ok after := by
  cases first with
  | error err => simp [Except.bind]
  | ok before => simp [Except.bind]

theorem env_present_perm (left right : List Setting) (permuted : left.Perm right)
    (env : String → String) : (envPresent env left).Perm (envPresent env right) :=
  (permuted.filter _).map _

theorem load_ok_iff (walk : Walk) (config : Resolved) (sources : Sources) :
    load parsers disk walk opts = .ok (config, sources) ↔
      EnvReadable parsers opts.env ∧ FlagsKnown opts.flags ∧
        (∃ base, fileLayer disk opts.yamlPath = .ok base ∧
          config = applyModeDefaults (layered parsers opts base)) ∧
        sources = sourcesOf walk opts := by
  unfold load
  simp only [bind_ok_iff, apply_env_iff, apply_flags_iff]
  constructor
  · intro loaded
    rcases loaded with ⟨base, found, _, ⟨readable, rfl⟩, _, ⟨known, rfl⟩, done⟩
    cases done
    exact ⟨readable, known, ⟨base, found, rfl⟩, rfl⟩
  · intro supplied
    rcases supplied with ⟨readable, known, ⟨base, found, same⟩, from_⟩
    rw [same, from_]
    exact ⟨base, found, _, ⟨readable, rfl⟩, _, ⟨known, rfl⟩, rfl⟩

/-- Whatever order the maps are walked in, a load succeeds on the same inputs, with the same
configuration and the same sources: each setting has the value of the highest layer that supplies
it, and then the mode's loopback defaults are applied. The sources are the file, the variables that
are set and the flags that are given. -/
theorem load_layered (walk : Walk) (config : Resolved) :
    ((∃ sources, load parsers disk walk opts = .ok (config, sources)) ↔
      EnvReadable parsers opts.env ∧ FlagsKnown opts.flags ∧
        ∃ base, fileLayer disk opts.yamlPath = .ok base ∧
          config = applyModeDefaults (layered parsers opts base)) ∧
      ∀ sources, load parsers disk walk opts = .ok (config, sources) →
        sources.yamlPath = opts.yamlPath ∧
          sources.envPresent.Perm
            (envPresent opts.env (passthrough ++ parsed) ++
              aliases.filterMap (aliasNote opts.env)) ∧
          sources.flagsSet = opts.flags.entries.map Prod.fst := by
  simp only [load_ok_iff]
  constructor
  · constructor
    · intro loaded
      rcases loaded with ⟨_, readable, known, found, -⟩
      exact ⟨readable, known, found⟩
    · intro supplied
      exact ⟨_, supplied.1, supplied.2.1, supplied.2.2, rfl⟩
  · intro sources loaded
    rw [loaded.2.2.2]
    have walked := walk.allPassthrough.append walk.allParsed
    exact ⟨rfl, (env_present_perm _ _ walked opts.env).append_right _, rfl⟩

end Load

end PgmanProxy.Config.Loading
