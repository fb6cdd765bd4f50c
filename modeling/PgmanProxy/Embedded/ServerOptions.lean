import PgmanProxy.Library.GoStrings

/-!
# Options of the embedded NATS server

`BuildOptions` and the cluster credential it embeds into the route URLs. Every
option `BuildOptions` sets is kept, so that two sets of options can be compared
as a whole.
-/

namespace PgmanProxy.Embedded.ServerOptions

open PgmanProxy.Library.GoStrings

set_option autoImplicit false

/-- The environment and the files as one reading of them finds them. -/
structure Host where
  getenv : String → String
  readFile : String → Except String String

structure ClusterCredential where
  username : String
  password : String
deriving DecidableEq, Repr

def ClusterCredential.zero : ClusterCredential := ⟨"", ""⟩

def ClusterCredential.validate (credential : ClusterCredential) : Except String Unit :=
  if credential.username = "" then
    .error "cluster credential: username is empty (FR-010)"
  else if credential.password = "" then
    .error "cluster credential: password is empty (FR-010)"
  else if credential.password.utf8ByteSize < 16 then
    .error ("cluster credential: password is shorter than 16 bytes (got " ++
      toString credential.password.utf8ByteSize ++
      "); use `pgman-proxy cluster-secret-gen` to produce a strong value")
  else .ok ()

def loadClusterCredential (username password : String) : Except String ClusterCredential := do
  let credential : ClusterCredential := ⟨trimSpace username, trimSpace password⟩
  credential.validate
  return credential

/-- `OptionsInput`: the fields `BuildOptions` reads. -/
structure OptionsInput where
  nodeID : String
  clusterName : String
  clientHost : String
  clientPort : Int
  routesEnabled : Bool
  routesHost : String
  routesPort : Int
  routePeers : List String
  credential : ClusterCredential
  tlsCertFile : String
  tlsKeyFile : String
  tlsCAFile : String
  jetStreamDir : String
deriving DecidableEq, Repr

/-- `tls.Config`: the key pair and, with a CA file, the pool that verifies siblings. -/
structure TLSConfig where
  certificate : String
  pool : Option String
deriving DecidableEq, Repr

structure ClusterOpts where
  name : String
  host : String
  port : Int
  username : String
  password : String
  tlsConfig : Option TLSConfig
deriving DecidableEq, Repr

def ClusterOpts.zero : ClusterOpts := ⟨"", "", 0, "", "", none⟩

structure Options where
  serverName : String
  host : String
  port : Int
  noLog : Bool
  noSigs : Bool
  logtime : Bool
  jetStream : Bool
  storeDir : String
  cluster : ClusterOpts
  routes : List URL
deriving DecidableEq, Repr

def defaultStr (value fallback : String) : String :=
  if value = "" then fallback else value

def defaultInt (value fallback : Int) : Int :=
  if value = 0 then fallback else value

section Building

variable (std : Stdlib) (host : Host)

/-- `tls.LoadX509KeyPair` -/
def loadX509KeyPair (certFile keyFile : String) : Except String String := do
  let cert ← host.readFile certFile
  let key ← host.readFile keyFile
  std.x509KeyPair cert key

def buildClusterTLSConfig (certFile keyFile caFile : String) : Except String TLSConfig := do
  let certificate ← (loadX509KeyPair std host certFile keyFile).mapError ("load cert/key: " ++ ·)
  if caFile = "" then return ⟨certificate, none⟩
  let caBytes ← (host.readFile caFile).mapError ("read ca file " ++ quote caFile ++ ": " ++ ·)
  match std.certsFromPEM caBytes with
  | none => throw ("ca file " ++ quote caFile ++ ": no PEM certificates parsed")
  | some pool => return ⟨certificate, some pool⟩

/-- One entry of `parseRouteURLs`; a blank entry is skipped. -/
def parseRouteURL (credential : ClusterCredential) (peer : String) : Except String (Option URL) :=
  let trimmed := trimSpace peer
  if trimmed = "" then .ok none
  else
    let raw := if contains "://" trimmed then trimmed else "nats-route://" ++ trimmed
    match std.parseURL raw with
    | .error text => .error ("peer " ++ quote peer ++ ": " ++ text)
    | .ok url =>
        if credential.username ≠ "" then
          .ok (some { url with user := some (credential.username, credential.password) })
        else .ok (some url)

def parseRouteURLs (peers : List String) (credential : ClusterCredential) :
    Except String (List URL) := do
  let urls ← peers.mapM (parseRouteURL std credential)
  return urls.filterMap id

/-- The TLS part of the cluster options: only with both file names. -/
def clusterTLS (certFile keyFile caFile : String) : Except String (Option TLSConfig) :=
  if certFile ≠ "" ∧ keyFile ≠ "" then
    match buildClusterTLSConfig std host certFile keyFile caFile with
    | .error text => .error ("cluster TLS: " ++ text)
    | .ok tlsConfig => .ok (some tlsConfig)
  else .ok none

def baseOptions (input : OptionsInput) : Options where
  serverName := input.nodeID
  host := defaultStr input.clientHost "127.0.0.1"
  port := defaultInt input.clientPort 4222
  noLog := true
  noSigs := true
  logtime := false
  jetStream := true
  storeDir := input.jetStreamDir
  cluster := ClusterOpts.zero
  routes := []

/-- `opts.Cluster` with the routes listener on. -/
def clusterOpts (input : OptionsInput) (tlsConfig : Option TLSConfig) : ClusterOpts where
  name := input.clusterName
  host := defaultStr input.routesHost "0.0.0.0"
  port := defaultInt input.routesPort 6222
  username := input.credential.username
  password := input.credential.password
  tlsConfig := tlsConfig

def buildOptions (input : OptionsInput) : Except String Options :=
  if input.nodeID = "" then
    .error "BuildOptions: NodeID is required (drives ServerName + audit identity)"
  else if input.clusterName = "" then
    .error "BuildOptions: ClusterName is required (cluster guard)"
  else if !input.routesEnabled then .ok (baseOptions input)
  else
    match clusterTLS std host input.tlsCertFile input.tlsKeyFile input.tlsCAFile with
    | .error text => .error text
    | .ok tlsConfig =>
        match parseRouteURLs std input.routePeers input.credential with
        | .error text => .error ("parse route peers: " ++ text)
        | .ok routes =>
            .ok { baseOptions input with
              cluster := clusterOpts input tlsConfig
              routes := routes }

variable {std host}

/-- What a successful `BuildOptions` returns. -/
theorem build_options_ok (input : OptionsInput) (options : Options)
    (built : buildOptions std host input = .ok options) :
    input.clusterName ≠ "" ∧
      ((input.routesEnabled = false ∧ options = baseOptions input) ∨
        (input.routesEnabled = true ∧ ∃ tlsConfig routes,
          clusterTLS std host input.tlsCertFile input.tlsKeyFile input.tlsCAFile =
            .ok tlsConfig ∧
          parseRouteURLs std input.routePeers input.credential = .ok routes ∧
          options = { baseOptions input with
            cluster := clusterOpts input tlsConfig, routes := routes })) := by
  unfold buildOptions at built
  split at built
  · cases built
  · split at built
    · cases built
    · rename_i named
      refine ⟨named, ?_⟩
      cases enabled : input.routesEnabled with
      | false =>
          rw [enabled] at built
          cases built
          exact Or.inl ⟨rfl, rfl⟩
      | true =>
          rw [enabled] at built
          cases loaded : clusterTLS std host input.tlsCertFile input.tlsKeyFile
              input.tlsCAFile with
          | error text =>
              rw [loaded] at built
              cases built
          | ok tlsConfig =>
              rw [loaded] at built
              cases parsed : parseRouteURLs std input.routePeers input.credential with
              | error text =>
                  rw [parsed] at built
                  cases built
              | ok routes =>
                  rw [parsed] at built
                  cases built
                  exact Or.inr ⟨rfl, tlsConfig, routes, rfl, rfl, rfl⟩

end Building

end PgmanProxy.Embedded.ServerOptions
