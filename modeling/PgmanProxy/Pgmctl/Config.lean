import PgmanProxy.Library.GoStrings

/-!
# The connection profile of a pgmctl invocation

Contexts, the configuration file and `Resolve`: which endpoint, credential
source, TLS settings and expected cluster an invocation ends up with.
-/

namespace PgmanProxy.Pgmctl.Config

open PgmanProxy.Library.GoStrings

set_option autoImplicit false

structure TLSBlock where
  caFile : String
  serverName : String
  insecureSkipTLSVerify : Bool
deriving DecidableEq, Repr

def TLSBlock.zero : TLSBlock := ⟨"", "", false⟩

structure Context where
  name : String
  endpoint : String
  expectedCluster : String
  tokenEnv : String
  tokenFile : String
  tokenCommand : List String
  tls : TLSBlock
deriving DecidableEq, Repr

structure ConfigFile where
  currentContext : String
  contexts : List Context
deriving DecidableEq, Repr

structure LoadError where
  notExist : Bool
  text : String
deriving DecidableEq, Repr

/-- The operator's machine as the configuration layer sees it. `load` is `Load` on the
file system of the moment. -/
structure Machine where
  getenv : String → String
  defaultPath : String
  load : String → Except LoadError ConfigFile

def ConfigFile.knownContextNames (config : ConfigFile) : String :=
  if config.contexts.isEmpty then "<none>"
  else ", ".intercalate (config.contexts.map (fun context => context.name))

def ConfigFile.find (config : ConfigFile) (name : String) : Except String Context :=
  match config.contexts.find? (fun context => context.name = name) with
  | some context => .ok context
  | none =>
      .error ("context " ++ quote name ++ " not found in config (known: " ++
        config.knownContextNames ++ ")")

structure Resolved where
  endpoint : String
  expectedCluster : String
  tls : TLSBlock
  source : String
  tokenEnv : String
  tokenFile : String
  tokenCommand : List String
deriving DecidableEq, Repr

structure Overrides where
  endpointFlag : String
  contextFlag : String
  configPath : String
deriving DecidableEq, Repr

def fromContext (context : Context) (source : String) : Resolved where
  endpoint := context.endpoint
  expectedCluster := context.expectedCluster
  tls := context.tls
  source := source
  tokenEnv := context.tokenEnv
  tokenFile := context.tokenFile
  tokenCommand := context.tokenCommand

def Resolved.hasTokenSource (resolved : Resolved) : Bool :=
  resolved.tokenEnv ≠ "" || resolved.tokenFile ≠ "" || !resolved.tokenCommand.isEmpty

def mergeFromContextIfNamed (machine : Machine) (resolved : Resolved) (path name : String) :
    Except String Resolved :=
  if name = "" then .ok resolved
  else
    match machine.load path with
    | .error failure => .error ("--context " ++ quote name ++ ": " ++ failure.text)
    | .ok config =>
        match config.find name with
        | .error text => .error text
        | .ok context => .ok
            { resolved with
              expectedCluster :=
                if resolved.expectedCluster = "" then context.expectedCluster
                else resolved.expectedCluster
              tls := context.tls
              tokenEnv := context.tokenEnv
              tokenFile := context.tokenFile
              tokenCommand := context.tokenCommand }

def bareEndpoint (endpoint source tokenEnv : String) : Resolved :=
  ⟨endpoint, "", .zero, source, tokenEnv, "", []⟩

def resolveEndpointFlag (machine : Machine) (overrides : Overrides) (path : String) :
    Except String Resolved :=
  match mergeFromContextIfNamed machine (bareEndpoint overrides.endpointFlag "--endpoint flag" "")
      path overrides.contextFlag with
  | .error text => .error text
  | .ok resolved =>
      if resolved.hasTokenSource then .ok resolved
      else if machine.getenv "PGMCTL_TOKEN" = "" then
        .error ("--endpoint supplied but no credential found (set PGMCTL_TOKEN, or use " ++
          "--context to pick a configured context)")
      else .ok { resolved with tokenEnv := "PGMCTL_TOKEN" }

/-- The context layers 2 and 3 settle on. -/
def chosenContext (overrides : Overrides) (loaded : Except LoadError ConfigFile) :
    Option (ConfigFile × String) :=
  match loaded with
  | .error _ => none
  | .ok config =>
      let named := if overrides.contextFlag ≠ "" then overrides.contextFlag
        else config.currentContext
      if named = "" then none else some (config, named)

def resolveEndpointEnv (machine : Machine) (path : String)
    (loaded : Except LoadError ConfigFile) : Except String Resolved :=
  let endpoint := machine.getenv "PGMCTL_ENDPOINT"
  if endpoint ≠ "" then
    if machine.getenv "PGMCTL_TOKEN" = "" then
      .error ("PGMCTL_ENDPOINT is set but PGMCTL_TOKEN is not — set PGMCTL_TOKEN or " ++
        "configure a context in $XDG_CONFIG_HOME/pgmctl/config.yaml")
    else .ok (bareEndpoint endpoint "PGMCTL_ENDPOINT env" "PGMCTL_TOKEN")
  else
    match loaded with
    | .error ⟨false, text⟩ =>
        .error ("no endpoint configured and config file at " ++ path ++
          " could not be loaded: " ++ text)
    | _ =>
        .error ("no pgman-proxy endpoint configured — try --endpoint https://<host>:9091 " ++
          "(plus PGMCTL_TOKEN env), --context <name> (with " ++ path ++ " populated), or " ++
          "PGMCTL_ENDPOINT=... PGMCTL_TOKEN=... in the environment")

def resolve (machine : Machine) (overrides : Overrides) : Except String Resolved :=
  let path := if overrides.configPath = "" then machine.defaultPath else overrides.configPath
  if overrides.endpointFlag ≠ "" then resolveEndpointFlag machine overrides path
  else
    let loaded := machine.load path
    match chosenContext overrides loaded with
    | some (config, named) =>
        match config.find named with
        | .error text => .error text
        | .ok context => .ok (fromContext context ("context " ++ named))
    | none => resolveEndpointEnv machine path loaded

end PgmanProxy.Pgmctl.Config
