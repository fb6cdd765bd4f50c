import PgmanProxy.Pgmctl.Commands

/-!
# The pgmctl configuration file

`Load` refuses a file that others can read, that does not parse, or that holds a
context without exactly one token source. `Accepted` says which files it takes.
Over it, `Resolve` is asked whether a context named on the command line is the
one the invocation ends up with. YAML is a parameter with its round trip;
`url.Parse` and `filepath.Join` are parameters that are only called.
-/

namespace PgmanProxy.Pgmctl.ConfigStore

open PgmanProxy.Library.GoStrings
open PgmanProxy.Pgmctl.Config
open PgmanProxy.Pgmctl.Commands (stripBrackets stripPort)

set_option autoImplicit false

/-- The root document of the file. -/
structure Document extends ConfigFile where
  apiVersion : String
  kind : String
deriving DecidableEq, Repr

/-- `yaml.v3` on documents. A type mismatch leaves what could be decoded beside the
error; what was marshalled is read back as it was. -/
structure Yaml where
  unmarshal : String → Document × Option String
  marshal : Document → Except String String
  round_trip : ∀ document text, marshal document = .ok text → unmarshal text = (document, none)

/-- A file: its permission bits and its text. -/
structure File where
  perm : Nat
  bytes : String
deriving DecidableEq, Repr

/-- A failed write may have left anything behind. -/
structure WriteFault where
  text : String
  left : Option File
deriving DecidableEq, Repr

/-- One path and what the calls on it answer during one command. -/
structure Disk where
  file : Option File
  statError : Option String
  readError : Option String
  mkdirError : Option String
  writeError : Option WriteFault
deriving DecidableEq, Repr

def Disk.stat (disk : Disk) (path : String) : Except LoadError File :=
  match disk.statError, disk.file with
  | some text, _ => .error ⟨false, text⟩
  | none, none => .error ⟨true, "stat " ++ path ++ ": no such file or directory"⟩
  | none, some file => .ok file

/-- `%o` -/
def octal (number : Nat) : String := String.ofList (Nat.toDigits 8 number)

def isLoopback (host : String) : Bool :=
  let bare := stripBrackets (stripPort host)
  bare = "127.0.0.1" || bare = "::1" || bare = "localhost" || (cutLead "127." bare).isSome

def sourceCount (context : Context) : Nat :=
  (if context.tokenEnv ≠ "" then 1 else 0) + (if context.tokenFile ≠ "" then 1 else 0) +
    (if context.tokenCommand ≠ [] then 1 else 0)

/-- The last rule of `Context.Validate`. -/
def checkTokenSource (context : Context) : Except String Unit :=
  let sources := sourceCount context
  if sources = 0 then
    .error ("context " ++ quote context.name ++
      ": exactly one of token_env / token_file / token_command must be set")
  else if sources > 1 then
    .error ("context " ++ quote context.name ++ ": more than one token source set (env=" ++
      toString (decide (context.tokenEnv ≠ "")) ++ ", file=" ++
      toString (decide (context.tokenFile ≠ "")) ++ ", command=" ++
      toString (decide (context.tokenCommand ≠ [])) ++ "); pick one")
  else .ok ()

/-- `DefaultPath`; `os.UserHomeDir` is `$HOME`, when that is set. -/
def defaultPath (join : List String → String) (getenv : String → String) : String :=
  if getenv "PGMCTL_CONFIG" ≠ "" then getenv "PGMCTL_CONFIG"
  else if getenv "XDG_CONFIG_HOME" ≠ "" then
    join [getenv "XDG_CONFIG_HOME", "pgmctl", "config.yaml"]
  else if getenv "HOME" ≠ "" then join [getenv "HOME", ".config", "pgmctl", "config.yaml"]
  else ".pgmctl.yaml"

def Document.withDefaults (document : Document) : Document :=
  { document with
    apiVersion := if document.apiVersion = "" then "pgmctl/v1" else document.apiVersion
    kind := if document.kind = "" then "Config" else document.kind }

@[simp] theorem with_defaults_contexts (document : Document) :
    document.withDefaults.contexts = document.contexts := rfl

section Loading

variable (parseURL : String → Except String Commands.URL)

/-- `Context.Validate` -/
def validateContext (context : Context) : Except String Unit :=
  if context.name = "" then .error "context.name is required"
  else if context.endpoint = "" then
    .error ("context " ++ quote context.name ++ ": endpoint is required")
  else
    match parseURL context.endpoint with
    | .error text =>
        .error ("context " ++ quote context.name ++ ": endpoint " ++ quote context.endpoint ++
          " is not a valid URL: " ++ text)
    | .ok url =>
        if url.scheme ≠ "https" && !isLoopback url.host then
          .error ("context " ++ quote context.name ++
            ": endpoint must use https:// unless host is loopback (got " ++
            quote context.endpoint ++ ")")
        else checkTokenSource context

/-- The loop over the contexts, up to the first that is refused. -/
def validateContexts : List Context → Except String Unit
  | [] => .ok ()
  | context :: contexts =>
      match validateContext parseURL context with
      | .error text => .error text
      | .ok () => validateContexts contexts

/-- What `Load` checks of a parsed document. -/
def checkDocument (document : Document) : Except String Unit :=
  if document.apiVersion ≠ "pgmctl/v1" then
    .error ("unsupported apiVersion " ++ quote document.apiVersion ++ " (want pgmctl/v1)")
  else
    match validateContexts parseURL document.contexts with
    | .error text => .error text
    | .ok () =>
        if document.currentContext = "" then .ok ()
        else
          match document.find document.currentContext with
          | .error text => .error ("current-context: " ++ text)
          | .ok _ => .ok ()

variable (yaml : Yaml)

def load (path : String) (disk : Disk) : Except LoadError Document :=
  match disk.stat path with
  | .error failure => .error failure
  | .ok file =>
      if file.perm &&& 0o77 ≠ 0 then
        .error ⟨false, "pgmctl config " ++ quote path ++ " is group- or world-readable (mode " ++
          octal file.perm ++ "); refuse to load (`chmod 600 " ++ path ++ "` to fix)"⟩
      else
        match disk.readError with
        | some text => .error ⟨false, "read config " ++ quote path ++ ": " ++ text⟩
        | none =>
            match yaml.unmarshal file.bytes with
            | (_, some text) => .error ⟨false, "parse config " ++ quote path ++ ": " ++ text⟩
            | (parsed, none) =>
                match checkDocument parseURL parsed.withDefaults with
                | .error text => .error ⟨false, "config " ++ quote path ++ ": " ++ text⟩
                | .ok () => .ok parsed.withDefaults

/-- The machine of a profile resolution: its environment and the disk behind each path. -/
def machine (join : List String → String) (getenv : String → String) (disks : String → Disk) :
    Machine where
  getenv := getenv
  defaultPath := defaultPath join getenv
  load := fun path => (load parseURL yaml path (disks path)).map Document.toConfigFile

/-! ## The files `Load` takes -/

/-- A file only its owner can read, readable now, with a well-formed document. -/
structure Accepted (disk : Disk) (document : Document) : Prop where
  reachable : disk.statError = none
  readable : disk.readError = none
  stored : ∃ file, disk.file = some file ∧ file.perm &&& 0o77 = 0 ∧
    ∃ parsed, yaml.unmarshal file.bytes = (parsed, none) ∧ document = parsed.withDefaults
  version : document.apiVersion = "pgmctl/v1"
  valid : ∀ context ∈ document.contexts, validateContext parseURL context = .ok ()
  known : document.currentContext = "" ∨
    ∃ context, document.find document.currentContext = .ok context

variable {parseURL yaml}

theorem validate_contexts_ok_iff (contexts : List Context) :
    validateContexts parseURL contexts = .ok () ↔
      ∀ context ∈ contexts, validateContext parseURL context = .ok () := by
  induction contexts with
  | nil => simp [validateContexts]
  | cons context contexts ih =>
      rw [validateContexts, List.forall_mem_cons]
      cases checked : validateContext parseURL context with
      | error text => simp
      | ok _ => simpa using ih

theorem check_document_ok_iff (document : Document) :
    checkDocument parseURL document = .ok () ↔
      document.apiVersion = "pgmctl/v1" ∧
        (∀ context ∈ document.contexts, validateContext parseURL context = .ok ()) ∧
        (document.currentContext = "" ∨
          ∃ context, document.find document.currentContext = .ok context) := by
  rw [← validate_contexts_ok_iff]
  unfold checkDocument
  by_cases version : document.apiVersion = "pgmctl/v1"
  · cases checked : validateContexts parseURL document.contexts with
    | error text => simp [version]
    | ok _ =>
        by_cases current : document.currentContext = ""
        · simp [version, current]
        · cases found : document.find document.currentContext <;> simp [version, current]
  · simp [version]

theorem stat_ok_iff (disk : Disk) (path : String) (file : File) :
    disk.stat path = .ok file ↔ disk.statError = none ∧ disk.file = some file := by
  unfold Disk.stat
  cases disk.statError with
  | some text => simp
  | none => cases disk.file <;> simp

theorem load_ok_iff (path : String) (disk : Disk) (document : Document) :
    load parseURL yaml path disk = .ok document ↔ Accepted parseURL yaml disk document := by
  constructor
  · intro loaded
    unfold load at loaded
    split at loaded
    · cases loaded
    rename_i file found
    obtain ⟨reachable, stored⟩ := (stat_ok_iff disk path file).1 found
    split at loaded
    · cases loaded
    rename_i secret
    split at loaded
    · cases loaded
    rename_i readable
    split at loaded
    · cases loaded
    rename_i parsed unmarshalled
    split at loaded
    · cases loaded
    rename_i checked
    cases loaded
    obtain ⟨version, valid, known⟩ := (check_document_ok_iff _).1 checked
    exact ⟨reachable, readable, ⟨file, stored, not_not.1 secret, parsed, unmarshalled, rfl⟩,
      version, valid, known⟩
  · rintro ⟨reachable, readable, ⟨file, stored, secret, parsed, unmarshalled, rfl⟩, version, valid,
      known⟩
    have found := (stat_ok_iff disk path file).2 ⟨reachable, stored⟩
    have checked : checkDocument parseURL parsed.withDefaults = .ok () :=
      (check_document_ok_iff _).2 ⟨version, valid, known⟩
    simp [load, found, secret, readable, unmarshalled, checked]

theorem find_ok (config : ConfigFile) (name : String) (context : Context)
    (found : config.find name = .ok context) :
    context ∈ config.contexts ∧ context.name = name := by
  unfold ConfigFile.find at found
  split at found
  · rename_i entry first
    cases found
    have matched := List.find?_some first
    exact ⟨List.mem_of_find?_eq_some first, of_decide_eq_true matched⟩
  · cases found

/-- What `Context.Validate` lets through. -/
theorem valid_context_cases (context : Context)
    (valid : validateContext parseURL context = .ok ()) :
    ∃ url, parseURL context.endpoint = .ok url ∧
      (url.scheme = "https" ∨ isLoopback url.host = true) ∧ checkTokenSource context = .ok () := by
  unfold validateContext at valid
  split at valid
  · cases valid
  split at valid
  · cases valid
  split at valid
  · cases valid
  rename_i url parsed
  split at valid
  · cases valid
  · rename_i allowed
    refine ⟨url, parsed, ?_, valid⟩
    by_contra refused
    rw [not_or] at refused
    exact allowed (by simp [refused])

/-- A valid context names a source for its token. -/
theorem valid_context_has_source (context : Context)
    (valid : validateContext parseURL context = .ok ()) :
    context.tokenEnv ≠ "" ∨ context.tokenFile ≠ "" ∨ context.tokenCommand ≠ [] := by
  obtain ⟨-, -, -, sourced⟩ := valid_context_cases context valid
  by_contra none_set
  push Not at none_set
  obtain ⟨env, file, command⟩ := none_set
  simp [checkTokenSource, sourceCount, env, file, command] at sourced

/-! ## A context named on the command line -/

/-- The profile has the token source, the TLS settings and the cluster of the context. -/
structure Carries (resolved : Resolved) (context : Context) : Prop where
  tokenEnv : resolved.tokenEnv = context.tokenEnv
  tokenFile : resolved.tokenFile = context.tokenFile
  tokenCommand : resolved.tokenCommand = context.tokenCommand
  tls : resolved.tls = context.tls
  expectedCluster : resolved.expectedCluster = context.expectedCluster

/-- The file an invocation reads. -/
def configPath (machine : Machine) (overrides : Overrides) : String :=
  if overrides.configPath = "" then machine.defaultPath else overrides.configPath

/-- Whatever `Resolve` returns is the profile of the context `--context` names, with the
endpoint of `--endpoint` if that is given. -/
def ContextHonoured (machine : Machine) (overrides : Overrides) : Prop :=
  ∀ resolved, resolve machine overrides = .ok resolved →
    ∃ config context, machine.load (configPath machine overrides) = .ok config ∧
      config.find overrides.contextFlag = .ok context ∧ Carries resolved context ∧
      resolved.endpoint =
        if overrides.endpointFlag = "" then context.endpoint else overrides.endpointFlag

/-- Without `--endpoint`, over a file that loads. -/
theorem resolve_loaded (machine : Machine) (overrides : Overrides) (config : ConfigFile)
    (named : overrides.contextFlag ≠ "") (bare : overrides.endpointFlag = "")
    (loaded : machine.load (configPath machine overrides) = .ok config) :
    resolve machine overrides =
      (config.find overrides.contextFlag).map
        (fun context => fromContext context ("context " ++ overrides.contextFlag)) := by
  have chosen : chosenContext overrides (.ok config) = some (config, overrides.contextFlag) := by
    simp [chosenContext, named]
  unfold configPath at loaded
  simp only [resolve, bare, ne_eq, not_true_eq_false, if_false, loaded, chosen]
  cases config.find overrides.contextFlag <;> rfl

/-- Without `--endpoint`, over a file that does not load: the environment decides. -/
theorem resolve_unloaded (machine : Machine) (overrides : Overrides) (failure : LoadError)
    (bare : overrides.endpointFlag = "")
    (refused : machine.load (configPath machine overrides) = .error failure) :
    resolve machine overrides =
      resolveEndpointEnv machine (configPath machine overrides) (.error failure) := by
  unfold configPath at refused ⊢
  simp only [resolve, bare, ne_eq, not_true_eq_false, if_false, refused, chosenContext]

theorem endpoint_env_ok_iff (machine : Machine) (path : String) (failure : LoadError) :
    (∃ resolved, resolveEndpointEnv machine path (.error failure) = .ok resolved) ↔
      machine.getenv "PGMCTL_ENDPOINT" ≠ "" ∧ machine.getenv "PGMCTL_TOKEN" ≠ "" := by
  unfold resolveEndpointEnv
  by_cases endpoint : machine.getenv "PGMCTL_ENDPOINT" = ""
  · obtain ⟨notExist, text⟩ := failure
    cases notExist <;> simp [endpoint]
  · by_cases token : machine.getenv "PGMCTL_TOKEN" = "" <;> simp [endpoint, token]

/-- With `--endpoint`, what is returned is the named context under the other endpoint. -/
theorem merged_ok (machine : Machine) (path endpoint name : String) (resolved : Resolved)
    (named : name ≠ "")
    (merged : mergeFromContextIfNamed machine (bareEndpoint endpoint "--endpoint flag" "") path
      name = .ok resolved) :
    ∃ config context, machine.load path = .ok config ∧ config.find name = .ok context ∧
      Carries resolved context ∧ resolved.endpoint = endpoint := by
  unfold mergeFromContextIfNamed at merged
  rw [if_neg named] at merged
  split at merged
  · cases merged
  rename_i config loaded
  split at merged
  · cases merged
  rename_i context found
  cases merged
  exact ⟨config, context, loaded, found, ⟨rfl, rfl, rfl, rfl, rfl⟩, rfl⟩

/-- With `--endpoint` the context is honoured: a context that `Load` accepted has a token
source, so the fallback to `PGMCTL_TOKEN` is not reached. -/
theorem endpoint_flag_honoured (machine : Machine) (overrides : Overrides)
    (named : overrides.contextFlag ≠ "") (flagged : overrides.endpointFlag ≠ "")
    (sourced : ∀ config, machine.load (configPath machine overrides) = .ok config →
      ∀ context ∈ config.contexts,
        context.tokenEnv ≠ "" ∨ context.tokenFile ≠ "" ∨ context.tokenCommand ≠ []) :
    ContextHonoured machine overrides := by
  intro resolved returned
  have flag : resolveEndpointFlag machine overrides (configPath machine overrides) =
      .ok resolved := by
    rw [← returned, resolve, if_pos flagged, configPath]
  unfold resolveEndpointFlag at flag
  split at flag
  · cases flag
  rename_i profile merged
  obtain ⟨config, context, loaded, found, carries, endpoint⟩ :=
    merged_ok machine _ _ _ profile named merged
  have source := sourced config loaded context (find_ok config _ context found).1
  have hasSource : profile.hasTokenSource = true := by
    rw [← carries.tokenEnv, ← carries.tokenFile, ← carries.tokenCommand] at source
    simpa [Resolved.hasTokenSource, or_assoc] using source
  rw [if_pos hasSource] at flag
  cases flag
  refine ⟨config, context, loaded, found, carries, ?_⟩
  rw [if_neg flagged, endpoint]

/-- Over a file that loads, the named context is taken or its name is refused. -/
theorem loaded_honoured (machine : Machine) (overrides : Overrides) (config : ConfigFile)
    (named : overrides.contextFlag ≠ "") (bare : overrides.endpointFlag = "")
    (loaded : machine.load (configPath machine overrides) = .ok config) :
    ContextHonoured machine overrides := by
  intro resolved returned
  rw [resolve_loaded machine overrides config named bare loaded] at returned
  cases found : config.find overrides.contextFlag with
  | error text =>
      rw [found] at returned
      cases returned
  | ok context =>
      rw [found] at returned
      cases returned
      refine ⟨config, context, loaded, found, ⟨rfl, rfl, rfl, rfl, rfl⟩, ?_⟩
      rw [if_pos bare]
      rfl

/-- Over a file that does not load nothing can honour the context, so `Resolve` has to fail,
as it does unless the environment has both the endpoint and the token. -/
theorem unloaded_honoured_iff (machine : Machine) (overrides : Overrides) (failure : LoadError)
    (bare : overrides.endpointFlag = "")
    (refused : machine.load (configPath machine overrides) = .error failure) :
    ContextHonoured machine overrides ↔
      machine.getenv "PGMCTL_ENDPOINT" = "" ∨ machine.getenv "PGMCTL_TOKEN" = "" := by
  have honoured : ContextHonoured machine overrides ↔
      ∀ resolved, resolve machine overrides ≠ .ok resolved := by
    constructor
    · intro honoured resolved returned
      obtain ⟨config, context, loaded, -⟩ := honoured resolved returned
      cases loaded.symm.trans refused
    · intro fails resolved returned
      exact absurd returned (fails resolved)
  have environment := endpoint_env_ok_iff machine (configPath machine overrides) failure
  rw [← resolve_unloaded machine overrides failure bare refused] at environment
  rw [honoured, ← not_exists, environment, not_and_or, not_ne_iff, not_ne_iff]

section Machines

variable (parseURL : String → Except String Commands.URL) (yaml : Yaml)
  (join : List String → String) (getenv : String → String) (disks : String → Disk)

theorem machine_load_ok_iff (path : String) (config : ConfigFile) :
    (machine parseURL yaml join getenv disks).load path = .ok config ↔
      ∃ document : Document, Accepted parseURL yaml (disks path) document ∧
        document.toConfigFile = config := by
  have result : (machine parseURL yaml join getenv disks).load path =
      (load parseURL yaml path (disks path)).map Document.toConfigFile := rfl
  simp only [result, ← load_ok_iff path]
  cases load parseURL yaml path (disks path) <;> simp [Except.map]

/-- An explicit context is honoured or refused, except that a file `Load` refuses lets
`PGMCTL_ENDPOINT` and `PGMCTL_TOKEN` take its place. -/
theorem context_honoured_iff (overrides : Overrides) (given : overrides.contextFlag ≠ "") :
    ContextHonoured (machine parseURL yaml join getenv disks) overrides ↔
      overrides.endpointFlag ≠ "" ∨
        (∃ document, Accepted parseURL yaml
          (disks (configPath (machine parseURL yaml join getenv disks) overrides)) document) ∨
        getenv "PGMCTL_ENDPOINT" = "" ∨ getenv "PGMCTL_TOKEN" = "" := by
  let host := machine parseURL yaml join getenv disks
  have accepted := machine_load_ok_iff parseURL yaml join getenv disks (configPath host overrides)
  by_cases flagged : overrides.endpointFlag = ""
  · cases read : host.load (configPath host overrides) with
    | ok config =>
        obtain ⟨document, taken, -⟩ := (accepted config).1 read
        exact iff_of_true (loaded_honoured host overrides config given flagged read)
          (Or.inr (Or.inl ⟨document, taken⟩))
    | error failure =>
        have refused : ¬∃ document, Accepted parseURL yaml
            (disks (configPath host overrides)) document := by
          rintro ⟨document, taken⟩
          have loaded := (accepted document.toConfigFile).2 ⟨document, taken, rfl⟩
          cases loaded.symm.trans read
        have unflagged : ¬overrides.endpointFlag ≠ "" := fun other => other flagged
        rw [or_iff_right unflagged, or_iff_right refused]
        exact unloaded_honoured_iff host overrides failure flagged read
  · refine iff_of_true ?_ (Or.inl flagged)
    apply endpoint_flag_honoured host overrides given flagged
    intro config loaded context member
    obtain ⟨document, taken, same⟩ := (accepted config).1 loaded
    rw [← same] at member
    exact valid_context_has_source context (taken.valid context member)

end Machines

end Loading

/-! ## A file with loose permissions -/

def prodContext : Context :=
  ⟨"prod", "https://prod:9091", "prod-east", "PROD_TOKEN", "", [], .zero⟩

def stagingContext : Context :=
  ⟨"staging", "https://staging:9091", "", "", "/etc/pgmctl/token", [], .zero⟩

def devContext : Context := ⟨"dev", "https://dev:9091", "", "DEV_TOKEN", "", [], .zero⟩

def sampleDocument : Document :=
  ⟨⟨"prod", [prodContext, stagingContext]⟩, "pgmctl/v1", "Config"⟩

def devDocument : Document := ⟨⟨"dev", [devContext]⟩, "pgmctl/v1", "Config"⟩

def sampleYaml : Yaml where
  unmarshal := fun text =>
    if text = "prod, staging" then (sampleDocument, none)
    else if text = "dev" then (devDocument, none)
    else (⟨⟨"", []⟩, "", ""⟩, some "yaml: line 1: could not find expected ':'")
  marshal := fun document =>
    if document = devDocument then .ok "dev" else .error "document not in the sample"
  round_trip := by
    intro document text marshalled
    split at marshalled
    · rename_i same
      cases marshalled
      rw [same]
      rfl
    · cases marshalled

def sampleURL (raw : String) : Except String Commands.URL :=
  match cutLead "https://" raw with
  | some host => .ok ⟨"https", host⟩
  | none => .error "missing protocol scheme"

def sampleDisk (perm : Nat) : Disk := ⟨some ⟨perm, "prod, staging"⟩, none, none, none, none⟩

/-- The environment points to another cluster. -/
def labEnvironment (name : String) : String :=
  if name = "PGMCTL_ENDPOINT" then "https://lab:9091"
  else if name = "PGMCTL_TOKEN" then "lab-token" else ""

def sampleMachine (perm : Nat) : Machine :=
  machine sampleURL sampleYaml ("/".intercalate ·) labEnvironment (fun _ => sampleDisk perm)

def prodOverrides : Overrides := ⟨"", "prod", "/etc/pgmctl/config.yaml"⟩

theorem private_file_honoured :
    resolve (sampleMachine 0o600) prodOverrides = .ok (fromContext prodContext "context prod") ∧
      ContextHonoured (sampleMachine 0o600) prodOverrides := by
  refine ⟨by decide, ?_⟩
  refine (context_honoured_iff sampleURL sampleYaml _ labEnvironment _ prodOverrides
    (by decide)).2 (Or.inr (Or.inl ⟨sampleDocument, ?_⟩))
  exact (load_ok_iff "/etc/pgmctl/config.yaml" (sampleDisk 0o600) sampleDocument).1
    (by decide)

theorem readable_file_ignores_context :
    resolve (sampleMachine 0o644) prodOverrides =
        .ok (bareEndpoint "https://lab:9091" "PGMCTL_ENDPOINT env" "PGMCTL_TOKEN") ∧
      ¬ContextHonoured (sampleMachine 0o644) prodOverrides := by
  have returned : resolve (sampleMachine 0o644) prodOverrides =
      .ok (bareEndpoint "https://lab:9091" "PGMCTL_ENDPOINT env" "PGMCTL_TOKEN") := by
    decide
  refine ⟨returned, ?_⟩
  intro honoured
  obtain ⟨config, context, loaded, -⟩ := honoured _ returned
  have refused : ((sampleMachine 0o644).load "/etc/pgmctl/config.yaml").toOption = none := by
    decide
  have path : configPath (sampleMachine 0o644) prodOverrides = "/etc/pgmctl/config.yaml" := rfl
  rw [path] at loaded
  rw [loaded] at refused
  cases refused

end PgmanProxy.Pgmctl.ConfigStore
