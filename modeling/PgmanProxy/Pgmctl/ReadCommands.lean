import PgmanProxy.Library.RankedFold
import PgmanProxy.Pgmctl.Commands
import PgmanProxy.Pgmctl.StatusFrames

/-!
# What the read-only commands share

`status`, `health` and `lag` resolve the output format, set the client up, ask for
`/v1/status` and decode its engine result, which comes bare or next to a snapshot of
the embedded NATS server. Their verdicts are severities.
-/

namespace PgmanProxy.Pgmctl.ReadCommands

open PgmanProxy.Library.GoJson
open PgmanProxy.Pgmctl.Commands (Failure GlobalFlags preRun exitUnhealthy)
open PgmanProxy.Pgmctl.StatusFrames (enumName pgmRoleNames pgmStateNames)

set_option autoImplicit false

def exitOK : Nat := 0
def exitWarnStrict : Nat := 1

/-- The exit code of a command that returned. -/
def exitCode {Value : Type} : Except Failure Value → Nat
  | .ok _ => exitOK
  | .error failure => failure.exit

/-! ## Formats and severities -/

inductive Format where
  | table
  | json
  | yaml
  | wide
deriving DecidableEq, Repr

def parseFormat (text : String) : Option Format :=
  if text = "" ∨ text = "table" then some .table
  else if text = "json" then some .json
  else if text = "yaml" then some .yaml
  else if text = "wide" then some .wide
  else none

inductive Severity where
  | pass
  | info
  | warn
  | unknown
  | fail
deriving DecidableEq, Repr

def rank : Severity → Nat
  | .pass => 0
  | .info => 1
  | .warn => 2
  | .unknown => 2
  | .fail => 3

structure ReadFlags extends GlobalFlags where
  strict : Bool
deriving DecidableEq, Repr

/-- `PersistentPreRunE` and the format it leaves behind. -/
def openFormat (flags : ReadFlags) : Except Failure Format :=
  match preRun flags.toGlobalFlags with
  | .error failure => .error failure
  | .ok () => .ok ((parseFormat flags.outputFormat).getD .table)

/-- One invocation's way to the server: what `Setup` returns, and for each path the engine
result of an accepted answer or the error of `GetJSON` with its exit code. -/
structure Session where
  setup : Except Failure Unit
  get : String → Except Failure (Option Json)

/-! ## The engine result of `/v1/status` -/

/-- `strings.EqualFold` with an ASCII word -/
def equalFold (text word : String) : Bool := foldName text = foldName word

structure PgmanagerInstance where
  nodeID : String
  role : String
  state : String
  postgresUp : Bool
  replayLSN : Nat
  writeLSN : Nat
  flushLSN : Nat
  lagBytes : Int
  lastSeenAt : Nat
deriving DecidableEq, Repr

/-- Join windows and promotion authorizations are decoded but not looked at here. -/
structure PgmanagerStatus where
  clusterID : String
  leaderNodeID : String
  primaryNodeID : String
  localNodeID : String
  localRole : String
  localState : String
  instances : List PgmanagerInstance
  syncStandbys : List String
  lastFailoverAt : Nat
  lastFailoverReason : String
deriving DecidableEq, Repr

structure EmbeddedNATSSnapshot where
  serverName : String
  ready : Bool
  clientListenAddr : String
  routesListenAddr : String
  tlsEnabled : Bool
  routesMeshed : Int
  replicasFactor : Int
deriving DecidableEq, Repr

/-- The decoders of the values that are not looked into. -/
structure Readers where
  parseTime : String → Option Nat
  joinWindow : Json → Except Mismatch Unit
  promotionAuthorization : Json → Except Mismatch Unit

/-- `decodeEnumWire`: an ordinal becomes its name, a name stays. -/
def decodeEnumWire (names : List (Int × String)) : Json → Except Mismatch String
  | .null => .ok ""
  | .str text => .ok text
  | .num literal =>
      match parseInt64 literal with
      | some ordinal => .ok (enumName names ordinal)
      | none => .error ⟨"number " ++ literal, "int", none⟩
  | other => .error ⟨other.kind, "int", none⟩

section Shapes

variable {Target : Type} (readers : Readers)

/-- `time.Time`; `null` leaves it alone. -/
def timeField (name : String) (set : Nat → Target → Target) : Library.GoJson.Field Target where
  name := name
  store := fun value target =>
    match value with
    | .str text =>
        match readers.parseTime text with
        | some time => .ok (set time target)
        | none => .error ⟨"string", "time.Time", none⟩
    | .null => .ok target
    | other => .error ⟨other.kind, "time.Time", none⟩

/-- A pointer to something that is only checked. -/
def checkedField (name : String) (check : Json → Except Mismatch Unit) :
    Library.GoJson.Field Target where
  name := name
  store := fun value target =>
    match value with
    | .null => .ok target
    | other => (check other).map (fun _ => target)

def instanceShape : Shape PgmanagerInstance where
  name := "instanceStatus"
  goType := "cmd.instanceStatus"
  fields := [
    stringField "NodeID" "string" (fun text target => { target with nodeID := text }),
    customField "Role" (decodeEnumWire pgmRoleNames)
      (fun text target => { target with role := text }),
    customField "State" (decodeEnumWire pgmStateNames)
      (fun text target => { target with state := text }),
    boolField "PostgresUp" (fun flag target => { target with postgresUp := flag }),
    numberField "ReplayLSN" "uint64" parseUint64
      (fun number target => { target with replayLSN := number }),
    numberField "WriteLSN" "uint64" parseUint64
      (fun number target => { target with writeLSN := number }),
    numberField "FlushLSN" "uint64" parseUint64
      (fun number target => { target with flushLSN := number }),
    numberField "LagBytes" "int64" parseInt64
      (fun number target => { target with lagBytes := number }),
    timeField readers "LastSeenAt" (fun time target => { target with lastSeenAt := time })]
  zero := ⟨"", "", "", false, 0, 0, 0, 0, 0⟩

def statusShape : Shape PgmanagerStatus where
  name := "pgmanagerStatus"
  goType := "cmd.pgmanagerStatus"
  fields := [
    stringField "ClusterID" "string" (fun text target => { target with clusterID := text }),
    stringField "LeaderNodeID" "string" (fun text target => { target with leaderNodeID := text }),
    stringField "PrimaryNodeID" "string"
      (fun text target => { target with primaryNodeID := text }),
    stringField "LocalNodeID" "string" (fun text target => { target with localNodeID := text }),
    customField "LocalRole" (decodeEnumWire pgmRoleNames)
      (fun text target => { target with localRole := text }),
    customField "LocalState" (decodeEnumWire pgmStateNames)
      (fun text target => { target with localState := text }),
    sliceField "Instances" "[]cmd.instanceStatus" (instanceShape readers)
      (fun instances target => { target with instances := instances }),
    stringsField "SyncStandbys" (fun names target => { target with syncStandbys := names }),
    timeField readers "LastFailoverAt"
      (fun time target => { target with lastFailoverAt := time }),
    stringField "LastFailoverReason" "string"
      (fun text target => { target with lastFailoverReason := text }),
    checkedField "JoinWindow" readers.joinWindow,
    checkedField "PromotionAuthorization" readers.promotionAuthorization]
  zero := ⟨"", "", "", "", "", "", [], [], 0, ""⟩

def snapshotShape : Shape EmbeddedNATSSnapshot where
  name := "embeddedNATSSnapshot"
  goType := "cmd.embeddedNATSSnapshot"
  fields := [
    stringField "server_name" "string" (fun text target => { target with serverName := text }),
    boolField "ready" (fun flag target => { target with ready := flag }),
    stringField "client_listen_addr" "string"
      (fun text target => { target with clientListenAddr := text }),
    stringField "routes_listen_addr" "string"
      (fun text target => { target with routesListenAddr := text }),
    boolField "tls_enabled" (fun flag target => { target with tlsEnabled := flag }),
    intField "routes_meshed" (fun number target => { target with routesMeshed := number }),
    intField "replicas_factor" (fun number target => { target with replicasFactor := number })]
  zero := ⟨"", false, "", "", false, 0, 0⟩

/-- Looks for an `engine` member that is not null. -/
def probeShape : Shape (Option Json) where
  name := ""
  goType := "struct"
  fields := [⟨"engine", fun value _ =>
    match value with
    | .null => .ok none
    | other => .ok (some other)⟩]
  zero := none

def nestedShape : Shape (PgmanagerStatus × EmbeddedNATSSnapshot) where
  name := ""
  goType := "struct"
  fields := [
    structField "engine" (statusShape readers) Prod.fst (fun engine target => (engine, target.2)),
    structField "embedded_nats" snapshotShape Prod.snd
      (fun snapshot target => (target.1, snapshot))]
  zero := ((statusShape readers).zero, snapshotShape.zero)

def decodeStatusEngine (raw : Option Json) :
    Except String (PgmanagerStatus × Option EmbeddedNATSSnapshot) :=
  match raw with
  | none => .error "empty engine_result from /v1/status"
  | some value =>
      match decodeValue false probeShape value with
      | .ok (some _) =>
          match decodeValue false (nestedShape readers) value with
          | .error failure => .error ("decode 002 status envelope: " ++ failure.text)
          | .ok (engine, snapshot) => .ok (engine, some snapshot)
      | _ =>
          match decodeValue false (statusShape readers) value with
          | .error failure => .error ("decode raw engine status: " ++ failure.text)
          | .ok engine => .ok (engine, none)

/-- The way to a decoded status; an error without a code of its own exits as unhealthy. -/
def fetchStatus (session : Session) :
    Except Failure (PgmanagerStatus × Option EmbeddedNATSSnapshot) :=
  match session.setup with
  | .error failure => .error failure
  | .ok () =>
      match session.get "/v1/status" with
      | .error failure => .error failure
      | .ok raw =>
          match decodeStatusEngine readers raw with
          | .error text => .error ⟨exitUnhealthy, text⟩
          | .ok decoded => .ok decoded

end Shapes

/-- The documents return with the encoder; only the other formats go on to the verdict. -/
def report (format : Format) (verdict : Except Failure Unit) : Except Failure Unit :=
  match format with
  | .json => .ok ()
  | .yaml => .ok ()
  | .table => verdict
  | .wide => verdict

def unhealthy (text : String) : Except Failure Unit := .error ⟨exitUnhealthy, text⟩

def warned (text : String) : Except Failure Unit := .error ⟨exitWarnStrict, text⟩

end PgmanProxy.Pgmctl.ReadCommands
