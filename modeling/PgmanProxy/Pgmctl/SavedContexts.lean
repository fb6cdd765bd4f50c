import PgmanProxy.Pgmctl.ContextEdits

/-!
# Loading what was saved

`Save` promises mode 0600, but `os.WriteFile` sets it on a file it creates and
leaves the bits of an existing one alone. The document itself always passes the
checks of `Load`: `set-context` starts from a checked document or an empty one and
checks the context it changed.
-/

namespace PgmanProxy.Pgmctl.SavedContexts

open PgmanProxy.Library.GoStrings
open PgmanProxy.Pgmctl.Config PgmanProxy.Pgmctl.ConfigStore PgmanProxy.Pgmctl.ContextEdits
open PgmanProxy.Pgmctl.Commands (Failure exitConfig)

set_option autoImplicit false

/-- Reading a file as far as its permission bits decide: the error, if any. -/
structure Reader where
  denied : Nat → Option String
  own : denied 0o600 = none

/-- The disk of a command whose only obstacles to reading are the permission bits. -/
def Reader.disk (reader : Reader) (file : Option File) (mkdirError : Option String)
    (writeError : Option WriteFault) : Disk where
  file := file
  statError := none
  readError := file.bind (fun held => reader.denied held.perm)
  mkdirError := mkdirError
  writeError := writeError

/-! ## The changed document -/

section Documents

variable {parseURL : String → Except String Commands.URL}

theorem find_some_iff (config : ConfigFile) (name : String) :
    (∃ context, config.find name = .ok context) ↔
      ∃ context ∈ config.contexts, context.name = name := by
  constructor
  · rintro ⟨context, found⟩
    exact ⟨context, find_ok config name context found⟩
  · rintro ⟨context, member, named⟩
    unfold ConfigFile.find
    cases first : config.contexts.find? (fun context => context.name = name) with
    | some found => exact ⟨found, rfl⟩
    | none =>
        have missing := List.find?_eq_none.1 first context member
        simp [named] at missing

/-- The changed context is the first of its name. -/
theorem find_change_named (name : String) (change : Context → Context) (contexts : List Context)
    (named : ∀ context, (change context).name = context.name) :
    (changeNamed name change contexts).find? (fun context => context.name = name) =
      some (change (existing name contexts)) := by
  induction contexts with
  | nil => simp [changeNamed, existing, named, blankContext]
  | cons context contexts ih =>
      by_cases same : context.name = name
      · simp [changeNamed, existing, same, named]
      · simpa [changeNamed, existing, same] using ih

theorem mem_change_named (name : String) (change : Context → Context) (contexts : List Context)
    (entry : Context) (member : entry ∈ changeNamed name change contexts) :
    entry ∈ contexts ∨ entry = change (existing name contexts) := by
  induction contexts with
  | nil =>
      right
      simpa [changeNamed, existing] using member
  | cons context contexts ih =>
      by_cases same : context.name = name
      · rw [changeNamed, if_pos same, List.mem_cons] at member
        rcases member with first | later
        · right
          simpa [existing, same] using first
        · exact .inl (List.mem_cons_of_mem context later)
      · rw [changeNamed, if_neg same, List.mem_cons] at member
        rcases member with first | later
        · exact .inl (first ▸ List.mem_cons_self)
        · rcases ih later with kept | changed
          · exact .inl (List.mem_cons_of_mem context kept)
          · right
            simpa [existing, same] using changed

theorem with_context_find (name : String) (flags : SetFlags) (document : Document) :
    (withContext name flags document).find name =
      .ok (flags.apply (existing name document.contexts)) := by
  have first := find_change_named name flags.apply document.contexts (apply_name flags)
  simp only [ConfigFile.find, withContext, first]

/-- Every name of the list is still there. -/
theorem change_named_keeps_name (name other : String) (flags : SetFlags) (document : Document)
    (present : ∃ context ∈ document.contexts, context.name = other) :
    ∃ context ∈ (withContext name flags document).contexts, context.name = other := by
  obtain ⟨context, member, named⟩ := present
  by_cases same : other = name
  · rw [same]
    exact (find_some_iff _ name).1 ⟨_, with_context_find name flags document⟩
  · have kept := change_named_others name flags.apply document.contexts (apply_name flags)
    have apart : context.name ≠ name := by
      rw [named]
      exact same
    have inside : context ∈
        document.contexts.filter (fun context => context.name ≠ name) :=
      List.mem_filter.2 ⟨member, decide_eq_true apart⟩
    rw [← kept] at inside
    exact ⟨context, (List.mem_filter.1 inside).1, named⟩

/-- A document that `Load` would take is still one after a valid change. -/
theorem with_context_checked (name : String) (flags : SetFlags) (document : Document)
    (checked : checkDocument parseURL document = .ok ())
    (valid : validateContext parseURL (flags.apply (existing name document.contexts)) = .ok ()) :
    checkDocument parseURL (withContext name flags document) = .ok () := by
  obtain ⟨version, contexts, known⟩ := (check_document_ok_iff document).1 checked
  apply (check_document_ok_iff _).2
  refine ⟨version, ?_, ?_⟩
  · intro entry member
    rcases mem_change_named name flags.apply document.contexts entry member with kept | changed
    · exact contexts entry kept
    · rw [changed]
      exact valid
  · right
    by_cases unset : document.currentContext = ""
    · have current : (withContext name flags document).currentContext = name := by
        simp [withContext, unset]
      rw [current]
      exact ⟨_, with_context_find name flags document⟩
    · have current : (withContext name flags document).currentContext =
          document.currentContext := by
        simp [withContext, unset]
      have found := known.resolve_left unset
      rw [current]
      apply (find_some_iff _ _).2
      exact change_named_keeps_name name _ flags document ((find_some_iff _ _).1 found)

theorem with_defaults_twice (document : Document) :
    document.withDefaults.withDefaults = document.withDefaults := by
  unfold Document.withDefaults
  by_cases version : document.apiVersion = "" <;> by_cases kind : document.kind = "" <;>
    simp [version, kind]

theorem with_defaults_checked (document : Document)
    (checked : checkDocument parseURL document = .ok ()) :
    checkDocument parseURL document.withDefaults = .ok () := by
  obtain ⟨version, contexts, known⟩ := (check_document_ok_iff document).1 checked
  apply (check_document_ok_iff _).2
  refine ⟨?_, contexts, known⟩
  simp [Document.withDefaults, version]

end Documents

/-! ## Saved and loaded -/

section Commands

variable (dir : String → String) (parseURL : String → Except String Commands.URL) (yaml : Yaml)

/-- The context as `set-context` saves it. -/
def savedContext (path : String) (disk : Disk) (name : String) (flags : SetFlags) : Context :=
  flags.apply (existing name (startingDocument parseURL yaml path disk).contexts)

/-- If `set-context` reports success, the file loads and holds the context it saved. -/
def SavedLoads (reader : Reader) (path : String) (disk : Disk) (name : String)
    (flags : SetFlags) : Prop :=
  ∀ message, (setContext dir parseURL yaml path disk name flags).result = .ok message →
    ∃ document,
      load parseURL yaml path
        (reader.disk (setContext dir parseURL yaml path disk name flags).file none none) =
          .ok document ∧
      document.find name = .ok (savedContext parseURL yaml path disk name flags)

/-- An existing file whose permission bits `Load` or the system refuses. -/
def Unloadable (reader : Reader) (file : Option File) : Prop :=
  ∃ held, file = some held ∧ (held.perm &&& 0o77 ≠ 0 ∨ reader.denied held.perm ≠ none)

variable {parseURL yaml}

theorem starting_document_checked (path : String) (disk : Disk) :
    checkDocument parseURL (startingDocument parseURL yaml path disk) = .ok () := by
  unfold startingDocument
  cases read : load parseURL yaml path disk with
  | ok document =>
      have accepted := (load_ok_iff path disk document).1 read
      exact (check_document_ok_iff _).2 ⟨accepted.version, accepted.valid, accepted.known⟩
  | error failure =>
      apply (check_document_ok_iff _).2
      exact ⟨rfl, by simp [emptyDocument], .inl rfl⟩

/-- With a valid context the command comes down to the save. -/
theorem set_context_valid (path : String) (disk : Disk) (name : String) (flags : SetFlags)
    (valid : validateContext parseURL (savedContext parseURL yaml path disk name flags) = .ok ()) :
    setContext dir parseURL yaml path disk name flags =
      saveAndReport dir yaml path disk
        (withContext name flags (startingDocument parseURL yaml path disk))
        ("context " ++ quote name ++ " saved to " ++ path ++ "\n") := by
  unfold savedContext at valid
  simp only [setContext, valid]

/-- `set-context` succeeds exactly when its context is valid and the document can be saved. -/
theorem set_context_ok_iff (path : String) (disk : Disk) (name : String) (flags : SetFlags) :
    (∃ message, (setContext dir parseURL yaml path disk name flags).result = .ok message) ↔
      validateContext parseURL (savedContext parseURL yaml path disk name flags) = .ok () ∧
        Savable yaml disk
          (withContext name flags (startingDocument parseURL yaml path disk)) := by
  cases checked : validateContext parseURL (savedContext parseURL yaml path disk name flags) with
  | error text =>
      unfold savedContext at checked
      simp [setContext, checked]
  | ok _ =>
      rw [set_context_valid dir path disk name flags checked, save_and_report_ok_iff]
      simp

/-- The file a reported save leaves: the old permission bits, or 0600. -/
theorem saved_file (path : String) (disk : Disk) (document : Document) (message : String)
    (savable : Savable yaml disk document) :
    ∃ bytes, yaml.marshal document.withDefaults = .ok bytes ∧
      (saveAndReport dir yaml path disk document message).file =
        some ⟨(disk.file.map File.perm).getD 0o600, bytes⟩ := by
  obtain ⟨directory, ⟨bytes, marshalled⟩, written⟩ := savable
  refine ⟨bytes, marshalled, ?_⟩
  simp [saveAndReport, save, directory, marshalled, written]

/-- A checked document is loaded from the file it was saved to, if the bits allow. -/
theorem saved_document_loads (reader : Reader) (path : String) (document : Document) (perm : Nat)
    (bytes : String) (checked : checkDocument parseURL document = .ok ())
    (marshalled : yaml.marshal document.withDefaults = .ok bytes)
    (secret : perm &&& 0o77 = 0) (readable : reader.denied perm = none) :
    load parseURL yaml path (reader.disk (some ⟨perm, bytes⟩) none none) =
      .ok document.withDefaults := by
  obtain ⟨version, contexts, known⟩ :=
    (check_document_ok_iff _).1 (with_defaults_checked document checked)
  apply (load_ok_iff path _ _).2
  exact
    { reachable := rfl
      readable := readable
      stored := ⟨⟨perm, bytes⟩, rfl, secret, document.withDefaults,
        yaml.round_trip _ bytes marshalled, (with_defaults_twice document).symm⟩
      version := version
      valid := contexts
      known := known }

theorem loadable_bits (reader : Reader) (file : Option File) (fine : ¬Unloadable reader file) :
    (file.map File.perm).getD 0o600 &&& 0o77 = 0 ∧
      reader.denied ((file.map File.perm).getD 0o600) = none := by
  cases file with
  | none => exact ⟨by decide, reader.own⟩
  | some held =>
      constructor
      · by_contra loose
        exact fine ⟨held, rfl, .inl loose⟩
      · by_contra denied
        exact fine ⟨held, rfl, .inr denied⟩

theorem unloadable_refused (reader : Reader) (path : String) (file : Option File)
    (mkdirError : Option String) (writeError : Option WriteFault)
    (unloadable : Unloadable reader file) (document : Document) :
    load parseURL yaml path (reader.disk file mkdirError writeError) ≠ .ok document := by
  intro loaded
  obtain ⟨held, stored, refused⟩ := unloadable
  have accepted := (load_ok_iff path _ document).1 loaded
  obtain ⟨read, same, secret, -⟩ := accepted.stored
  have equal : held = read := by
    have both : some held = some read := stored.symm.trans same
    exact Option.some.inj both
  rcases refused with loose | denied
  · rw [equal] at loose
    exact loose secret
  · apply denied
    have readable := accepted.readable
    rw [stored] at readable
    exact readable

section Command

variable (reader : Reader) (path : String) (file : Option File) (mkdirError : Option String)
variable (writeError : Option WriteFault) (name : String) (flags : SetFlags)

/-- Over a file whose bits are fine, whatever is in it. -/
theorem loadable_saved_loads (fine : ¬Unloadable reader file) :
    SavedLoads dir parseURL yaml reader path (reader.disk file mkdirError writeError) name
      flags := by
  intro message reported
  obtain ⟨valid, savable⟩ := (set_context_ok_iff dir path _ name flags).1 ⟨message, reported⟩
  have checked := with_context_checked name flags _ (starting_document_checked path _) valid
  obtain ⟨bytes, marshalled, left⟩ := saved_file dir path _ _
    ("context " ++ quote name ++ " saved to " ++ path ++ "\n") savable
  obtain ⟨secret, readable⟩ := loadable_bits reader file fine
  refine ⟨(withContext name flags _).withDefaults, ?_, with_context_find name flags _⟩
  rw [set_context_valid dir path _ name flags valid, left]
  exact saved_document_loads reader path _ _ bytes checked marshalled secret readable

/-- The command starts over from an empty document. -/
theorem unloadable_start (unloadable : Unloadable reader file) :
    startingDocument parseURL yaml path (reader.disk file mkdirError writeError) =
      emptyDocument := by
  unfold startingDocument
  cases read : load parseURL yaml path (reader.disk file mkdirError writeError) with
  | ok document => exact absurd read (unloadable_refused reader path _ _ _ unloadable document)
  | error failure => rfl

/-- Whatever is saved to such a file keeps its bits and is refused. -/
theorem unloadable_saved_refused (unloadable : Unloadable reader file) (document : Document)
    (message : String) (loaded : Document)
    (savable : Savable yaml (reader.disk file mkdirError writeError) document) :
    load parseURL yaml path (reader.disk
      (saveAndReport dir yaml path (reader.disk file mkdirError writeError) document message).file
      none none) ≠ .ok loaded := by
  obtain ⟨bytes, -, left⟩ := saved_file dir path _ _ message savable
  obtain ⟨held, rfl, refused⟩ := unloadable
  rw [left]
  exact unloadable_refused reader path _ none none ⟨⟨held.perm, bytes⟩, rfl, refused⟩ loaded

/-- What `set-context` saved can be loaded again, unless the file was there with bits that
`Load` refuses and the flags alone make a context that can be saved over it. -/
theorem saved_loads_iff :
    SavedLoads dir parseURL yaml reader path (reader.disk file mkdirError writeError) name flags ↔
      ¬Unloadable reader file ∨
        ¬(validateContext parseURL (flags.apply (blankContext name)) = .ok () ∧
          Savable yaml (reader.disk file mkdirError writeError)
            (withContext name flags emptyDocument)) := by
  by_cases unloadable : Unloadable reader file
  · have start : startingDocument parseURL yaml path (reader.disk file mkdirError writeError) =
        emptyDocument :=
      unloadable_start reader path file mkdirError writeError unloadable
    have bootstrap : savedContext parseURL yaml path (reader.disk file mkdirError writeError) name
        flags = flags.apply (blankContext name) := by
      rw [savedContext, start]
      rfl
    have success := @set_context_ok_iff dir parseURL yaml path
      (reader.disk file mkdirError writeError) name flags
    rw [bootstrap, start] at success
    rw [or_iff_right (not_not_intro unloadable)]
    constructor
    · rintro loads ⟨valid, savable⟩
      obtain ⟨message, reported⟩ := success.2 ⟨valid, savable⟩
      obtain ⟨document, loaded, -⟩ := loads message reported
      rw [set_context_valid dir path _ name flags (by rw [bootstrap, valid]), start] at loaded
      exact unloadable_saved_refused dir reader path file mkdirError writeError unloadable _ _
        document savable loaded
    · intro harmless message reported
      exact absurd (success.1 ⟨message, reported⟩) harmless
  · exact iff_of_true
      (loadable_saved_loads dir reader path file mkdirError writeError name flags unloadable)
      (.inl unloadable)

end Command

end Commands

/-! ## A file with loose permissions -/

/-- The owner reads a file if its bits say so. -/
def ownerReader : Reader where
  denied := fun perm => if perm &&& 0o400 = 0 then some "permission denied" else none
  own := by decide

def looseFile : Option File := some ⟨0o644, "prod, staging"⟩

def setLoose : Outcome :=
  setContext (fun path => path) sampleURL sampleYaml "/etc/pgmctl/config.yaml"
    (ownerReader.disk looseFile none none) "dev" devFlags

/-- The context is reported saved, and the next command refuses the file. -/
theorem loose_file_saved_and_refused :
    setLoose.result = .ok "context \"dev\" saved to /etc/pgmctl/config.yaml\n" ∧
      setLoose.file = some ⟨0o644, "dev"⟩ ∧
      (∀ document, load sampleURL sampleYaml "/etc/pgmctl/config.yaml"
        (ownerReader.disk setLoose.file none none) ≠ .ok document) ∧
      ¬SavedLoads (fun path => path) sampleURL sampleYaml ownerReader "/etc/pgmctl/config.yaml"
        (ownerReader.disk looseFile none none) "dev" devFlags := by
  have reported : setLoose.result =
      .ok "context \"dev\" saved to /etc/pgmctl/config.yaml\n" := by
    decide
  have left : setLoose.file = some ⟨0o644, "dev"⟩ := by
    decide
  have refused : ∀ document, load sampleURL sampleYaml "/etc/pgmctl/config.yaml"
      (ownerReader.disk setLoose.file none none) ≠ .ok document := by
    intro document
    rw [left]
    exact unloadable_refused ownerReader _ _ none none ⟨_, rfl, .inl (by decide)⟩ document
  refine ⟨reported, left, refused, ?_⟩
  intro loads
  obtain ⟨document, loaded, -⟩ := loads _ reported
  exact refused document loaded

end PgmanProxy.Pgmctl.SavedContexts
