import PgmanProxy.Pgmctl.Commands
import PgmanProxy.Pgmctl.Redact
import PgmanProxy.Pgmctl.StatusFrames

/-!
# The archive of `pgmctl dump`

The collector fetches its slices, the redactor passes over those that succeeded, and
the writer puts every slice, the correlation table of the strict level and the
manifest into the archive. Three kinds of text never meet the redactor: the header of
the manifest, the errors of failed slices, and a string under a key that the patterns
do not name. The server's own names for the cluster and its nodes are of that kind.
-/

namespace PgmanProxy.Pgmctl.Dump

open PgmanProxy.Library.GoJson PgmanProxy.Library.GoStrings PgmanProxy.Library.JsonTree
open PgmanProxy.Pgmctl.Commands PgmanProxy.Pgmctl.Redact PgmanProxy.Pgmctl.StatusFrames

set_option autoImplicit false

def exitPartial : Nat := 3

/-! ## The redaction level -/

def levelText : RedactLevel → String
  | .normal => "normal"
  | .strict => "strict"

def parseRedactLevel (text : String) : Except String RedactLevel :=
  let name := toLower (trimSpace text)
  if name = "" ∨ name = "normal" then .ok .normal
  else if name = "strict" then .ok .strict
  else .error ("invalid --redact-level " ++ quote text ++ " (want normal|strict)")

/-! ## The manifest -/

inductive Outcome where
  | ok
  | incomplete
  | failed
deriving DecidableEq, Repr

def Outcome.text : Outcome → String
  | .ok => "ok"
  | .incomplete => "partial"
  | .failed => "failed"

structure BuildInfo where
  version : String
  commit : String
  goVersion : String
deriving DecidableEq, Repr

structure ProxyBuildInfo where
  version : String
  commit : String
deriving DecidableEq, Repr

structure Window where
  started : String
  ended : String
deriving DecidableEq, Repr

structure ErrorInfo where
  code : String
  message : String
deriving DecidableEq, Repr

structure SliceEntry where
  name : String
  outcome : Outcome
  durationMS : Int
  path : String
  error : Option ErrorInfo
deriving DecidableEq, Repr

structure Manifest where
  apiVersion : String
  kind : String
  pgmctl : BuildInfo
  pgmanProxy : ProxyBuildInfo
  capturedAt : Window
  redactLevel : String
  clusterID : String
  endpoint : String
  slices : List SliceEntry
deriving DecidableEq, Repr

/-- The end of the window is Go's zero time until `finishedAt`. -/
def newManifest (runtimeVersion : String) (build : BuildInfo)
    (redactLevel clusterID endpoint started : String) : Manifest where
  apiVersion := "pgmctl/v1"
  kind := "DumpManifest"
  pgmctl := if build.goVersion = "" then { build with goVersion := runtimeVersion } else build
  pgmanProxy := ⟨"", ""⟩
  capturedAt := ⟨started, "0001-01-01T00:00:00Z"⟩
  redactLevel := redactLevel
  clusterID := clusterID
  endpoint := endpoint
  slices := []

def Manifest.addSlice (manifest : Manifest) (entry : SliceEntry) : Manifest :=
  { manifest with slices := manifest.slices ++ [entry] }

def Manifest.finishedAt (manifest : Manifest) (time : String) : Manifest :=
  { manifest with capturedAt := { manifest.capturedAt with ended := time } }

def Manifest.outcome (manifest : Manifest) : Outcome :=
  if manifest.slices.any (fun entry => entry.outcome = .failed || entry.outcome = .incomplete) then
    .incomplete
  else .ok

/-! ### Its JSON form -/

/-- A string member with `omitempty`. -/
def filledMember (name text : String) : List (String × Json) :=
  if text = "" then [] else [(name, .str text)]

def ErrorInfo.json (info : ErrorInfo) : Json :=
  .obj [("code", .str info.code), ("message", .str info.message)]

def SliceEntry.json (entry : SliceEntry) : Json :=
  .obj ([("name", .str entry.name), ("outcome", .str entry.outcome.text),
    ("duration_ms", number entry.durationMS)] ++ filledMember "path" entry.path ++
    (entry.error.map (fun info => ("error", info.json))).toList)

def Manifest.json (manifest : Manifest) : Json :=
  .obj ([("apiVersion", .str manifest.apiVersion), ("kind", .str manifest.kind),
    ("pgmctl", .obj [("version", .str manifest.pgmctl.version),
      ("commit", .str manifest.pgmctl.commit), ("go_version", .str manifest.pgmctl.goVersion)]),
    ("pgman_proxy", .obj [("version", .str manifest.pgmanProxy.version),
      ("commit", .str manifest.pgmanProxy.commit)]),
    ("captured_at", .obj [("started", .str manifest.capturedAt.started),
      ("ended", .str manifest.capturedAt.ended)]),
    ("redact_level", .str manifest.redactLevel), ("cluster_id", .str manifest.clusterID)] ++
    filledMember "endpoint" manifest.endpoint ++
    [("slices", if manifest.slices = [] then .null
      else .arr (manifest.slices.map SliceEntry.json))])

/-! ## The collector -/

/-- What the requests of the dump give: the decoded `engine_result`, or the text of the error.
Each slice has a request of its own, so two slices may see different answers on one path. -/
structure Fetcher where
  getJSON : (slice path : String) → Except String Json
  postJSON : (slice path : String) → Except String Json

structure SliceSpec where
  name : String
  fetch : Except String Json

structure SliceResult where
  name : String
  outcome : Outcome
  data : Json
  err : Option String
  durationMS : Int

def notImplementedFetch (label : String) : Except String Json :=
  .error (label ++ " not yet implemented server-side")

def defaultSpecs (formatDuration : Int → String) (fetcher : Fetcher) (since : Int) :
    List SliceSpec :=
  let sinceQuery := if 0 < since then "&since=" ++ formatDuration since else ""
  [⟨"status", fetcher.getJSON "status" "/v1/status"⟩,
    ⟨"topology", fetcher.getJSON "topology" "/v1/status"⟩,
    ⟨"history-events",
      fetcher.getJSON "history-events" ("/v1/history?category=event" ++ sinceQuery)⟩,
    ⟨"history-audit",
      fetcher.getJSON "history-audit" ("/v1/history?category=audit" ++ sinceQuery)⟩,
    ⟨"doctor", fetcher.postJSON "doctor" "/v1/doctor/run"⟩,
    ⟨"clock-skew", notImplementedFetch "/v1/clock-skew (US3 follow-up)"⟩,
    ⟨"config", notImplementedFetch "/v1/config (US6)"⟩]

def runOne (durationMS : String → Int) (spec : SliceSpec) : SliceResult :=
  match spec.fetch with
  | .error text => ⟨spec.name, .failed, .null, some text, durationMS spec.name⟩
  | .ok data => ⟨spec.name, .ok, data, none, durationMS spec.name⟩

/-! ## The writer -/

structure Writer where
  files : List (String × Json)
  manifest : Manifest
  closed : Bool

def writeFile (writer : Writer) (name : String) (content : Json) : Writer :=
  { writer with files := writer.files ++ [(name, content)] }

def sliceEntry (result : SliceResult) : SliceEntry where
  name := result.name
  outcome := result.outcome
  durationMS := result.durationMS
  path := "slices/" ++ result.name ++ ".json"
  error := if result.outcome = .ok then none else some ⟨"slice_failed", result.err.getD ""⟩

def slicePayload (result : SliceResult) : Json :=
  match (sliceEntry result).error with
  | none => result.data
  | some info => .obj [("_error", info.json)]

def writeSlice (writer : Writer) (result : SliceResult) : Except String Writer :=
  if writer.closed then .error "dump.Writer: closed"
  else
    let entry := sliceEntry result
    let written := writeFile writer entry.path (slicePayload result)
    .ok { written with manifest := written.manifest.addSlice entry }

def writeRaw (writer : Writer) (path : String) (content : Json) : Except String Writer :=
  if writer.closed then .error "dump.Writer: closed" else .ok (writeFile writer path content)

def close (writer : Writer) (now : String) : Writer :=
  if writer.closed then writer
  else
    let finished := writer.manifest.finishedAt now
    writeFile { writer with manifest := finished, closed := true } "manifest.json" finished.json

/-! ## The command -/

/-- The endpoint of the client as `URL.String` prints it: what stands in front of the host
name, the host name, and the port and the path behind it. -/
structure Endpoint where
  lead : String
  host : String
  tail : String
  named : host ≠ ""

def Endpoint.text (endpoint : Endpoint) : String := endpoint.lead ++ endpoint.host ++ endpoint.tail

/-- What a dump has at hand; the times are their RFC 3339 texts. -/
structure Session where
  build : BuildInfo
  runtimeVersion : String
  expectedCluster : String
  endpoint : Endpoint
  fetcher : Fetcher
  since : Int
  started : String
  ended : String
  durationMS : String → Int

structure Dumped where
  files : List (String × Json)
  failure : Option Failure

section Command

variable (digest : String → String) (formatDuration : Int → String)

def redactResult (redactor : Redactor) (result : SliceResult) : SliceResult × Redactor :=
  if result.outcome = .ok then
    let (data, after) := walk digest redactor "" result.data
    ({ result with data := data }, after)
  else (result, redactor)

def writeSlices (redactor : Redactor) (writer : Writer) :
    List SliceResult → Except String (Redactor × Writer)
  | [] => .ok (redactor, writer)
  | result :: results =>
      let (redacted, after) := redactResult digest redactor result
      match writeSlice writer redacted with
      | .error text => .error ("write slice " ++ result.name ++ ": " ++ text)
      | .ok written => writeSlices after written results

def correlationTable (redactor : Redactor) : Json :=
  .arr ((sortedCorrelation redactor).map
    (fun row => .obj [("placeholder", .str row.1), ("original", .str row.2)]))

def writeCorrelation (level : RedactLevel) (redactor : Redactor) (writer : Writer) :
    Except String Writer :=
  if level = .strict then
    match writeRaw writer "correlation.json" (correlationTable redactor) with
    | .error text => .error ("write correlation table: " ++ text)
    | .ok written => .ok written
  else .ok writer

def finish (session : Session) (writer : Writer) : Dumped :=
  let closed := close writer session.ended
  { files := closed.files
    failure := if closed.manifest.outcome = .ok then none
      else some ⟨exitPartial, "dump finished with one or more failed slices (see manifest)"⟩ }

def results (session : Session) : List SliceResult :=
  (defaultSpecs formatDuration session.fetcher session.since).map (runOne session.durationMS)

def openWriter (session : Session) (level : RedactLevel) : Writer where
  files := []
  manifest := newManifest session.runtimeVersion session.build (levelText level)
    session.expectedCluster session.endpoint.text session.started
  closed := false

/-- A failure of a write or of the level's flag ends the command; failed slices do not. -/
def runDump (session : Session) (redactLevel : String) : Except Failure Dumped := do
  let level ← (parseRedactLevel redactLevel).mapError (Failure.mk exitUsage)
  let (redactor, writer) ← (writeSlices digest (newRedactor level) (openWriter session level)
    (results formatDuration session)).mapError (Failure.mk exitUnhealthy)
  let written ← (writeCorrelation level redactor writer).mapError (Failure.mk exitUnhealthy)
  return finish session written

/-! ## What a dump writes -/

/-- The results as they are written, and the redactor behind them. -/
def redactAll (redactor : Redactor) : List SliceResult → List SliceResult × Redactor
  | [] => ([], redactor)
  | result :: results =>
      let (redacted, between) := redactResult digest redactor result
      let (rest, after) := redactAll between results
      (redacted :: rest, after)

def sliceFile (result : SliceResult) : String × Json :=
  ((sliceEntry result).path, slicePayload result)

theorem write_slice_open (writer : Writer) (isOpen : writer.closed = false)
    (result : SliceResult) :
    writeSlice writer result = .ok ⟨writer.files ++ [sliceFile result],
      writer.manifest.addSlice (sliceEntry result), false⟩ := by
  simp [writeSlice, isOpen, writeFile, sliceFile]

/-- Nothing closes the writer while the slices are written. -/
theorem write_slices_open (redactor : Redactor) (writer : Writer) (isOpen : writer.closed = false)
    (results : List SliceResult) :
    writeSlices digest redactor writer results =
      .ok ((redactAll digest redactor results).2,
        { files := writer.files ++ (redactAll digest redactor results).1.map sliceFile
          manifest := { writer.manifest with
            slices := writer.manifest.slices ++
              (redactAll digest redactor results).1.map sliceEntry }
          closed := false }) := by
  induction results generalizing redactor writer with
  | nil =>
      obtain ⟨files, manifest, closed⟩ := writer
      subst isOpen
      simp [writeSlices, redactAll]
  | cons result results ih =>
      rw [writeSlices, redactAll]
      simp only [write_slice_open writer isOpen]
      rw [ih _ _ rfl]
      simp [Manifest.addSlice]

/-- The results of a dump as they are written, one redactor for all of them. -/
def written (session : Session) (level : RedactLevel) : List SliceResult :=
  (redactAll digest (newRedactor level) (results formatDuration session)).1

def finalManifest (session : Session) (level : RedactLevel) : Manifest :=
  { newManifest session.runtimeVersion session.build (levelText level) session.expectedCluster
      session.endpoint.text session.started with
    capturedAt := ⟨session.started, session.ended⟩
    slices := (written digest formatDuration session level).map sliceEntry }

/-- At the strict level a dump is its slices, the correlation table and the manifest. -/
theorem run_dump_strict (session : Session) (flag : String)
    (strict : parseRedactLevel flag = .ok .strict) :
    ∃ dumped, runDump digest formatDuration session flag = .ok dumped ∧
      dumped.files = (written digest formatDuration session .strict).map sliceFile ++
        [("correlation.json", correlationTable
            (redactAll digest (newRedactor .strict) (results formatDuration session)).2),
          ("manifest.json", (finalManifest digest formatDuration session .strict).json)] := by
  have slices := write_slices_open digest (newRedactor .strict) (openWriter session .strict) rfl
    (results formatDuration session)
  simp only [runDump, strict, Except.mapError, bind, Except.bind, slices]
  refine ⟨_, rfl, ?_⟩
  simp [finish, close, writeFile, openWriter, written, finalManifest, Manifest.finishedAt,
    newManifest]

end Command

/-! ## Identities in the archive -/

/-- Some string of the value has the identity in it. -/
def Reveals (identity : String) (value : Json) : Prop :=
  ∃ path text, valueAt path value = some (.str text) ∧ contains identity text = true

/-- No file but the correlation table reveals one of the identities. -/
def Conceals (identities : List String) (files : List (String × Json)) : Prop :=
  ∀ file ∈ files, file.1 ≠ "correlation.json" →
    ∀ identity ∈ identities, ¬ Reveals identity file.2

/-- Where the server's status has the cluster id and the node ids. -/
def statusPlaces (status : WireStatus) : List (List Step × String) :=
  [([.key "ClusterID"], status.clusterID), ([.key "LeaderNodeID"], status.leaderNodeID),
    ([.key "PrimaryNodeID"], status.primaryNodeID), ([.key "LocalNodeID"], status.localNodeID)] ++
    (status.instances.getD []).zipIdx.map
      (fun entry => ([.key "Instances", .index entry.2, .key "NodeID"], entry.1.nodeID)) ++
    (status.syncStandbys.getD []).zipIdx.map
      (fun entry => ([.key "SyncStandbys", .index entry.2], entry.1))

def identities (session : Session) (status : WireStatus) : List String :=
  (session.endpoint.host :: session.expectedCluster :: (statusPlaces status).map Prod.snd).filter
    (fun identity => identity ≠ "")

/-! ### The manifest -/

theorem manifest_endpoint (manifest : Manifest) (filled : manifest.endpoint ≠ "") :
    valueAt [.key "endpoint"] manifest.json = some (.str manifest.endpoint) := by
  simp [Manifest.json, filledMember, filled, valueAt, List.lookup_cons]

theorem Endpoint.text_filled (endpoint : Endpoint) : endpoint.text ≠ "" := by
  intro empty
  apply endpoint.named
  simp only [Endpoint.text, String.append_eq_empty_iff] at empty
  exact empty.1.2

/-- The header of the manifest names the endpoint at every level. -/
theorem manifest_reveals_host (digest : String → String) (formatDuration : Int → String)
    (session : Session) (level : RedactLevel) :
    Reveals session.endpoint.host (finalManifest digest formatDuration session level).json :=
  ⟨[.key "endpoint"], session.endpoint.text,
    manifest_endpoint _ session.endpoint.text_filled, contains_between _ _ _⟩

/-- `engine_result` of a status answer: wrapped when the node embeds a NATS server. -/
def statusDocument (formatTime : Nat → String) (status : WireStatus) : Option Json → Json
  | none => .obj (statusMembers formatTime status)
  | some snapshot =>
      .obj [("engine", .obj (statusMembers formatTime status)), ("embedded_nats", snapshot)]

/-! ### The whole archive -/

theorem not_concealed {identities : List String} {files : List (String × Json)}
    {name identity : String} {content : Json} (written : (name, content) ∈ files)
    (other : name ≠ "correlation.json") (listed : identity ∈ identities)
    (shown : Reveals identity content) : ¬ Conceals identities files :=
  fun conceals => conceals _ written other identity listed shown

/-- A strict dump never conceals the identities: its manifest has the endpoint's host in
clear. -/
theorem strict_dump_reveals (digest : String → String) (formatDuration : Int → String)
    (session : Session) (status : WireStatus) (flag : String)
    (strict : parseRedactLevel flag = .ok .strict) :
    ∃ dumped, runDump digest formatDuration session flag = .ok dumped ∧
      ¬ Conceals (identities session status) dumped.files := by
  obtain ⟨dumped, ran, files⟩ := run_dump_strict digest formatDuration session flag strict
  refine ⟨dumped, ran, ?_⟩
  have host : session.endpoint.host ∈ identities session status := by
    simp [identities, session.endpoint.named]
  have manifest : ("manifest.json", (finalManifest digest formatDuration session .strict).json) ∈
      dumped.files := by
    rw [files]
    simp
  apply not_concealed manifest (by decide) host
  exact manifest_reveals_host digest formatDuration session .strict

def twoNodes : WireStatus where
  clusterID := "prod-eu"
  leaderNodeID := "pg-1"
  primaryNodeID := "pg-1"
  localNodeID := "pg-1"
  localRole := .primary
  localState := .running
  instances := none
  syncStandbys := some ["pg-2"]
  lastFailoverAt := 0
  lastFailoverReason := ""
  joinWindow := none
  promotionAuthorization := none

/-- Status and topology are served; the other requests find the peer gone. -/
def halfServed : Session where
  build := ⟨"v1.2.0", "abc123", ""⟩
  runtimeVersion := "go1.25"
  expectedCluster := "prod-eu"
  endpoint := ⟨"https://", "pg-1.internal", ":9091", by decide⟩
  fetcher :=
    { getJSON := fun _ path =>
        if path = "/v1/status" then
          .ok (statusDocument (fun _ => "2026-01-02T03:04:05Z") twoNodes none)
        else .error "peer pg-2 unreachable"
      postJSON := fun _ _ => .error "peer pg-2 unreachable" }
  since := 0
  started := "2026-01-02T03:04:05Z"
  ended := "2026-01-02T03:04:06Z"
  durationMS := fun _ => 12

theorem strict_dump_reveals_half_served :
    parseRedactLevel "strict" = .ok .strict ∧
      ∃ dumped, runDump (fun _ => "5e884898") toString halfServed "strict" = .ok dumped ∧
        ¬ Conceals (identities halfServed twoNodes) dumped.files :=
  ⟨by decide, strict_dump_reveals _ _ halfServed twoNodes "strict" (by decide)⟩

def textAt (files : List (String × Json)) (file : String) (path : List Step) : Option Json :=
  (files.lookup file).bind (valueAt path)

/-- The host and the cluster id in the manifest, the nodes in a slice, a node in an error. -/
theorem half_served_dump_names_nodes :
    ∃ dumped, runDump (fun _ => "5e884898") toString halfServed "strict" = .ok dumped ∧
      ¬ Conceals (identities halfServed twoNodes) dumped.files ∧
      textAt dumped.files "manifest.json" [.key "endpoint"] =
        some (.str "https://pg-1.internal:9091") ∧
      textAt dumped.files "manifest.json" [.key "cluster_id"] = some (.str "prod-eu") ∧
      textAt dumped.files "slices/status.json" [.key "LeaderNodeID"] = some (.str "pg-1") ∧
      textAt dumped.files "slices/status.json" [.key "SyncStandbys", .index 0] =
        some (.str "pg-2") ∧
      textAt dumped.files "slices/doctor.json" [.key "_error", .key "message"] =
        some (.str "peer pg-2 unreachable") := by
  refine ⟨_, rfl, ?_, rfl, rfl, rfl, rfl, rfl⟩
  have leader : Reveals "pg-1" (walk (fun _ => "5e884898") (newRedactor .strict) ""
      (statusDocument (fun _ => "2026-01-02T03:04:05Z") twoNodes none)).1 :=
    ⟨[.key "LeaderNodeID"], "pg-1", rfl, by decide⟩
  exact not_concealed List.mem_cons_self (by decide) (by decide) leader

end PgmanProxy.Pgmctl.Dump
