import PgmanProxy.Pgmctl.ConfigStore

/-!
# Editing the configuration file

`config use-context`, `set-context` and `delete-context` read the whole document,
change it and write it back. The first and the last give up on a file that `Load`
refuses; `set-context` starts over from an empty document instead, whatever the
reason for the refusal.
-/

namespace PgmanProxy.Pgmctl.ContextEdits

open PgmanProxy.Library.GoStrings
open PgmanProxy.Pgmctl.Config PgmanProxy.Pgmctl.ConfigStore
open PgmanProxy.Pgmctl.Commands (Failure exitConfig exitUsage)

set_option autoImplicit false

/-- The flags of `set-context`; the last is `none` when it was not given. -/
structure SetFlags where
  endpoint : String
  expectedCluster : String
  tokenEnv : String
  tokenFile : String
  tokenCommand : List String
  caFile : String
  serverName : String
  insecureSkipTLS : Option Bool
deriving DecidableEq, Repr

inductive Edit where
  | useContext (name : String)
  | setContext (name : String) (flags : SetFlags)
  | deleteContext (name : String) (force : Bool)
deriving DecidableEq, Repr

def Edit.name : Edit → String
  | .useContext name => name
  | .setContext name _ => name
  | .deleteContext name _ => name

/-- What a command leaves on disk and what it prints or fails with. -/
structure Outcome where
  file : Option File
  result : Except Failure String

def emptyDocument : Document := ⟨⟨"", []⟩, "pgmctl/v1", "Config"⟩

def blankContext (name : String) : Context := ⟨name, "", "", "", "", [], .zero⟩

/-- A token flag replaces the other two sources. -/
def SetFlags.applyToken (flags : SetFlags) (context : Context) : Context :=
  let withEnv := if flags.tokenEnv ≠ "" then
      { context with tokenEnv := flags.tokenEnv, tokenFile := "", tokenCommand := [] }
    else context
  let withFile := if flags.tokenFile ≠ "" then
      { withEnv with tokenFile := flags.tokenFile, tokenEnv := "", tokenCommand := [] }
    else withEnv
  if flags.tokenCommand ≠ [] then
    { withFile with tokenCommand := flags.tokenCommand, tokenEnv := "", tokenFile := "" }
  else withFile

def SetFlags.applyTLS (flags : SetFlags) (tls : TLSBlock) : TLSBlock where
  caFile := if flags.caFile ≠ "" then flags.caFile else tls.caFile
  serverName := if flags.serverName ≠ "" then flags.serverName else tls.serverName
  insecureSkipTLSVerify := flags.insecureSkipTLS.getD tls.insecureSkipTLSVerify

def SetFlags.apply (flags : SetFlags) (context : Context) : Context :=
  let based := { context with
    endpoint := if flags.endpoint ≠ "" then flags.endpoint else context.endpoint
    expectedCluster :=
      if flags.expectedCluster ≠ "" then flags.expectedCluster else context.expectedCluster
    tls := flags.applyTLS context.tls }
  flags.applyToken based

/-- The context `set-context` works on: the first of that name, or a new one. -/
def existing (name : String) (contexts : List Context) : Context :=
  (contexts.find? (fun context => context.name = name)).getD (blankContext name)

/-- The list with that context changed in place, or appended. -/
def changeNamed (name : String) (change : Context → Context) : List Context → List Context
  | [] => [change (blankContext name)]
  | context :: contexts =>
      if context.name = name then change context :: contexts
      else context :: changeNamed name change contexts

/-- The document `set-context` writes. -/
def withContext (name : String) (flags : SetFlags) (document : Document) : Document :=
  { document with
    contexts := changeNamed name flags.apply document.contexts
    currentContext := if document.currentContext = "" then name else document.currentContext }

def withoutContext (name : String) (document : Document) : Document :=
  { document with
    contexts := document.contexts.filter (fun context => context.name ≠ name)
    currentContext := if document.currentContext = name then "" else document.currentContext }

section Commands

-- filepath.Dir is only called
variable (dir : String → String) (parseURL : String → Except String Commands.URL) (yaml : Yaml)

/-- `Save`; an existing file keeps its permission bits. -/
def save (path : String) (disk : Disk) (document : Document) : Option File × Except String Unit :=
  match disk.mkdirError with
  | some text => (disk.file, .error ("mkdir " ++ dir path ++ ": " ++ text))
  | none =>
      match yaml.marshal document.withDefaults with
      | .error text => (disk.file, .error ("marshal config: " ++ text))
      | .ok bytes =>
          match disk.writeError with
          | some fault => (fault.left, .error fault.text)
          | none => (some ⟨(disk.file.map File.perm).getD 0o600, bytes⟩, .ok ())

/-- The common end of the three commands. -/
def saveAndReport (path : String) (disk : Disk) (document : Document) (message : String) :
    Outcome :=
  match save dir yaml path disk document with
  | (file, .error text) => ⟨file, .error ⟨exitConfig, text⟩⟩
  | (file, .ok ()) => ⟨file, .ok message⟩

def useContext (path : String) (disk : Disk) (name : String) : Outcome :=
  match load parseURL yaml path disk with
  | .error failure => ⟨disk.file, .error ⟨exitConfig, failure.text⟩⟩
  | .ok document =>
      match document.find name with
      | .error text => ⟨disk.file, .error ⟨exitConfig, text⟩⟩
      | .ok _ =>
          saveAndReport dir yaml path disk
            { document with currentContext := name }
            ("current-context set to " ++ quote name ++ "\n")

/-- The document `set-context` starts from. -/
def startingDocument (path : String) (disk : Disk) : Document :=
  match load parseURL yaml path disk with
  | .ok document => document
  | .error _ => emptyDocument

def setContext (path : String) (disk : Disk) (name : String) (flags : SetFlags) : Outcome :=
  let document := startingDocument parseURL yaml path disk
  match validateContext parseURL (flags.apply (existing name document.contexts)) with
  | .error text => ⟨disk.file, .error ⟨exitConfig, text⟩⟩
  | .ok () =>
      saveAndReport dir yaml path disk (withContext name flags document)
        ("context " ++ quote name ++ " saved to " ++ path ++ "\n")

def deleteContext (path : String) (disk : Disk) (name : String) (force : Bool) : Outcome :=
  match load parseURL yaml path disk with
  | .error failure => ⟨disk.file, .error ⟨exitConfig, failure.text⟩⟩
  | .ok document =>
      match document.find name with
      | .error text => ⟨disk.file, .error ⟨exitConfig, text⟩⟩
      | .ok _ =>
          if document.currentContext = name && !force then
            ⟨disk.file, .error ⟨exitUsage, "context " ++ quote name ++
              " is current-context; pass --force to delete anyway (current-context will be " ++
              "cleared)"⟩⟩
          else
            saveAndReport dir yaml path disk (withoutContext name document)
              ("context " ++ quote name ++ " removed from " ++ path ++ "\n")

def runEdit (path : String) (disk : Disk) : Edit → Outcome
  | .useContext name => useContext dir parseURL yaml path disk name
  | .setContext name flags => setContext dir parseURL yaml path disk name flags
  | .deleteContext name force => deleteContext dir parseURL yaml path disk name force

/-! ## What is in the file -/

/-- The context entries of a file, also of one that `Load` refuses. -/
def entries : Option File → List Context
  | none => []
  | some file => (yaml.unmarshal file.bytes).1.contexts

structure Savable (disk : Disk) (document : Document) : Prop where
  directory : disk.mkdirError = none
  marshalled : ∃ bytes, yaml.marshal document.withDefaults = .ok bytes
  written : disk.writeError = none

/-- A command that reports success keeps every entry but those of its own name. -/
def OthersKept (path : String) (disk : Disk) (edit : Edit) : Prop :=
  ∀ message, (runEdit dir parseURL yaml path disk edit).result = .ok message →
    ∀ entry ∈ entries yaml disk.file, entry.name ≠ edit.name →
      entry ∈ entries yaml (runEdit dir parseURL yaml path disk edit).file

/-- A `set-context` that can create its context from the flags alone and save it, over a
file that holds another one. -/
def Overwrites (disk : Disk) : Edit → Prop
  | .setContext name flags =>
      (∃ entry ∈ entries yaml disk.file, entry.name ≠ name) ∧
        validateContext parseURL (flags.apply (blankContext name)) = .ok () ∧
        Savable yaml disk (withContext name flags emptyDocument)
  | _ => False

variable {dir parseURL yaml}

theorem apply_token_name (flags : SetFlags) (context : Context) :
    (flags.applyToken context).name = context.name := by
  unfold SetFlags.applyToken
  by_cases env : flags.tokenEnv = "" <;> by_cases file : flags.tokenFile = "" <;>
    by_cases command : flags.tokenCommand = [] <;> simp [env, file, command]

theorem apply_name (flags : SetFlags) (context : Context) :
    (flags.apply context).name = context.name :=
  apply_token_name flags _

/-- Entries of other names stay as they are and where they are. -/
theorem change_named_others (name : String) (change : Context → Context)
    (contexts : List Context) (named : ∀ context, (change context).name = context.name) :
    (changeNamed name change contexts).filter (fun context => context.name ≠ name) =
      contexts.filter (fun context => context.name ≠ name) := by
  induction contexts with
  | nil => simp [changeNamed, named, blankContext]
  | cons context contexts ih =>
      by_cases same : context.name = name
      · simp [changeNamed, same, named]
      · simp only [changeNamed, if_neg same, List.filter_cons, ih]

variable (dir) in
theorem save_and_report_ok_iff (path : String) (disk : Disk) (document : Document)
    (message : String) :
    (∃ printed, (saveAndReport dir yaml path disk document message).result = .ok printed) ↔
      Savable yaml disk document := by
  constructor
  · rintro ⟨printed, reported⟩
    unfold saveAndReport save at reported
    cases directory : disk.mkdirError with
    | some text => simp [directory] at reported
    | none =>
        cases marshalled : yaml.marshal document.withDefaults with
        | error text => simp [directory, marshalled] at reported
        | ok bytes =>
            cases written : disk.writeError with
            | some fault => simp [directory, marshalled, written] at reported
            | none => exact ⟨directory, ⟨bytes, marshalled⟩, written⟩
  · rintro ⟨directory, ⟨bytes, marshalled⟩, written⟩
    exact ⟨message, by simp [saveAndReport, save, directory, marshalled, written]⟩

/-- After a reported save the file holds the contexts of the document. -/
theorem saved_entries (path : String) (disk : Disk) (document : Document) (message : String)
    (savable : Savable yaml disk document) :
    entries yaml (saveAndReport dir yaml path disk document message).file =
      document.contexts := by
  obtain ⟨directory, ⟨bytes, marshalled⟩, written⟩ := savable
  have read := yaml.round_trip _ bytes marshalled
  simp [saveAndReport, save, directory, marshalled, written, entries, read]

theorem accepted_entries (disk : Disk) (document : Document)
    (accepted : Accepted parseURL yaml disk document) :
    entries yaml disk.file = document.contexts := by
  obtain ⟨file, stored, -, parsed, unmarshalled, rfl⟩ := accepted.stored
  simp [entries, stored, unmarshalled]

/-- An edit of a file that `Load` accepts saves a document with the same other entries. -/
theorem accepted_edit (path : String) (disk : Disk) (document : Document) (edit : Edit)
    (accepted : Accepted parseURL yaml disk document) (message : String)
    (reported : (runEdit dir parseURL yaml path disk edit).result = .ok message) :
    ∃ next : Document,
      entries yaml (runEdit dir parseURL yaml path disk edit).file = next.contexts ∧
      next.contexts.filter (fun context => context.name ≠ edit.name) =
        document.contexts.filter (fun context => context.name ≠ edit.name) := by
  have loaded := (load_ok_iff path disk document).2 accepted
  cases edit with
  | useContext name =>
      cases found : document.find name with
      | error text => simp [runEdit, useContext, loaded, found] at reported
      | ok context =>
          simp only [runEdit, useContext, loaded, found] at reported ⊢
          have savable := (save_and_report_ok_iff dir path disk _ _).1 ⟨message, reported⟩
          exact ⟨_, saved_entries path disk _ _ savable, rfl⟩
  | setContext name flags =>
      have start : startingDocument parseURL yaml path disk = document := by
        rw [startingDocument, loaded]
      cases checked : validateContext parseURL
          (flags.apply (existing name document.contexts)) with
      | error text => simp [runEdit, setContext, start, checked] at reported
      | ok _ =>
          simp only [runEdit, setContext, start, checked] at reported ⊢
          have savable := (save_and_report_ok_iff dir path disk _ _).1 ⟨message, reported⟩
          exact ⟨_, saved_entries path disk _ _ savable,
            change_named_others name flags.apply document.contexts (apply_name flags)⟩
  | deleteContext name force =>
      cases found : document.find name with
      | error text => simp [runEdit, deleteContext, loaded, found] at reported
      | ok context =>
          by_cases guarded : (document.currentContext = name && !force) = true
          · simp [runEdit, deleteContext, loaded, found, guarded] at reported
          · simp only [runEdit, deleteContext, loaded, found, if_neg guarded] at reported ⊢
            have savable := (save_and_report_ok_iff dir path disk _ _).1 ⟨message, reported⟩
            refine ⟨_, saved_entries path disk _ _ savable, ?_⟩
            simp only [withoutContext, List.filter_filter]
            apply List.filter_congr
            intro other _
            by_cases same : other.name = name <;> simp [Edit.name, same]

variable (dir) in
/-- Over a file that `Load` refuses, `set-context` writes its own context alone. -/
theorem bootstrapped_edit (path : String) (disk : Disk) (name : String) (flags : SetFlags)
    (failure : LoadError) (refused : load parseURL yaml path disk = .error failure) :
    setContext dir parseURL yaml path disk name flags =
      match validateContext parseURL (flags.apply (blankContext name)) with
      | .error text => ⟨disk.file, .error ⟨exitConfig, text⟩⟩
      | .ok () =>
          saveAndReport dir yaml path disk (withContext name flags emptyDocument)
            ("context " ++ quote name ++ " saved to " ++ path ++ "\n") := by
  have start : startingDocument parseURL yaml path disk = emptyDocument := by
    rw [startingDocument, refused]
  simp only [setContext, start]
  rfl

theorem bootstrapped_contexts (name : String) (flags : SetFlags) :
    (withContext name flags emptyDocument).contexts = [flags.apply (blankContext name)] := rfl

theorem accepted_keeps (path : String) (disk : Disk) (document : Document) (edit : Edit)
    (accepted : Accepted parseURL yaml disk document) :
    OthersKept dir parseURL yaml path disk edit := by
  intro message reported entry member other
  obtain ⟨next, saved, same⟩ := accepted_edit path disk document edit accepted message reported
  rw [accepted_entries disk document accepted] at member
  have kept : entry ∈ document.contexts.filter (fun context => context.name ≠ edit.name) :=
    List.mem_filter.2 ⟨member, decide_eq_true other⟩
  rw [← same] at kept
  rw [saved]
  exact (List.mem_filter.1 kept).1

/-- Over a file that `Load` refuses, a `set-context` that succeeds drops the others. -/
theorem refused_set_context_iff (path : String) (disk : Disk) (name : String) (flags : SetFlags)
    (failure : LoadError) (refused : load parseURL yaml path disk = .error failure) :
    OthersKept dir parseURL yaml path disk (.setContext name flags) ↔
      ¬Overwrites parseURL yaml disk (.setContext name flags) := by
  have result := bootstrapped_edit dir path disk name flags failure refused
  cases checked : validateContext parseURL (flags.apply (blankContext name)) with
  | error text =>
      rw [checked] at result
      refine iff_of_true ?_ ?_
      · intro message reported
        simp [runEdit, result] at reported
      · rintro ⟨-, valid, -⟩
        cases valid.symm.trans checked
  | ok _ =>
      rw [checked] at result
      constructor
      · rintro kept ⟨⟨entry, member, other⟩, -, savable⟩
        obtain ⟨message, reported⟩ := (save_and_report_ok_iff dir path disk _
          ("context " ++ quote name ++ " saved to " ++ path ++ "\n")).2 savable
        have survives := kept message (by rw [runEdit, result, reported]) entry member other
        rw [runEdit, result, saved_entries path disk _ _ savable, bootstrapped_contexts,
          List.mem_singleton] at survives
        apply other
        rw [survives, apply_name]
        rfl
      · intro harmless message reported entry member other
        rw [runEdit, result] at reported
        have savable := (save_and_report_ok_iff dir path disk _ _).1 ⟨message, reported⟩
        exact absurd ⟨⟨entry, member, other⟩, checked, savable⟩ harmless

/-- The other contexts survive every successful edit of a file that `Load` accepts, and of
any other file unless a `set-context` replaces it. -/
theorem others_kept_iff (path : String) (disk : Disk) (edit : Edit) :
    OthersKept dir parseURL yaml path disk edit ↔
      (∃ document, Accepted parseURL yaml disk document) ∨
        ¬Overwrites parseURL yaml disk edit := by
  cases read : load parseURL yaml path disk with
  | ok document =>
      have accepted := (load_ok_iff path disk document).1 read
      exact iff_of_true (accepted_keeps path disk document edit accepted)
        (Or.inl ⟨document, accepted⟩)
  | error failure =>
      have refused : ¬∃ document, Accepted parseURL yaml disk document := by
        rintro ⟨document, accepted⟩
        cases ((load_ok_iff path disk document).2 accepted).symm.trans read
      rw [or_iff_right refused]
      cases edit with
      | useContext name =>
          refine iff_of_true ?_ (fun overwrites => overwrites)
          intro message reported
          simp [runEdit, useContext, read] at reported
      | deleteContext name force =>
          refine iff_of_true ?_ (fun overwrites => overwrites)
          intro message reported
          simp [runEdit, deleteContext, read] at reported
      | setContext name flags => exact refused_set_context_iff path disk name flags failure read

end Commands

/-! ## A file with loose permissions -/

def devFlags : SetFlags := ⟨"https://dev:9091", "", "DEV_TOKEN", "", [], "", "", none⟩

def setDev : Outcome :=
  runEdit (fun path => path) sampleURL sampleYaml "/etc/pgmctl/config.yaml" (sampleDisk 0o644)
    (.setContext "dev" devFlags)

theorem set_context_drops_prod_and_staging :
    setDev.result = .ok "context \"dev\" saved to /etc/pgmctl/config.yaml\n" ∧
      entries sampleYaml (sampleDisk 0o644).file = [prodContext, stagingContext] ∧
      entries sampleYaml setDev.file = [devContext] ∧
      ¬OthersKept (fun path => path) sampleURL sampleYaml "/etc/pgmctl/config.yaml"
        (sampleDisk 0o644) (.setContext "dev" devFlags) := by
  have reported : setDev.result =
      .ok "context \"dev\" saved to /etc/pgmctl/config.yaml\n" := by
    decide
  have before : entries sampleYaml (sampleDisk 0o644).file = [prodContext, stagingContext] := by
    decide
  have after : entries sampleYaml setDev.file = [devContext] := by
    decide
  refine ⟨reported, before, after, ?_⟩
  intro kept
  have stays : prodContext ∈ entries sampleYaml setDev.file := by
    apply kept _ reported
    · rw [before]
      exact List.mem_cons_self
    · decide
  rw [after] at stays
  exact absurd stays (by decide)

end PgmanProxy.Pgmctl.ContextEdits
