import Mathlib.Data.List.Basic

/-!
# The layout of the JetStream store

A store that was written in the other mode is moved aside before the embedded
server starts. A directory maps names to entries; what an entry contains is
opaque, and moving it is one rename. `Faults` are the errors other than
"not exist" that the file system may answer with.
-/

namespace PgmanProxy.Embedded.StoreArchive

set_option autoImplicit false

inductive StoreLayout where
  | none
  | standalone
  | clustered
deriving DecidableEq, Repr

def StoreLayout.text : StoreLayout → String
  | .none => "none"
  | .standalone => "standalone"
  | .clustered => "clustered"

def storeSubdir : String := "jetstream"

def maxArchiveSuffix : Nat := 100

abbrev Directory (Entry : Type) := String → Option Entry

/-- `os.Rename` within a directory. -/
def Directory.rename {Entry : Type} (entries : Directory Entry) (source target : String) :
    Directory Entry :=
  fun name =>
    if name = target then entries source
    else if name = source then none
    else entries name

/-- What is behind an entry once symbolic links are followed: `leads` is false of a link to
nothing, `hasMeta` says that `$SYS/_js_/_meta_` is below it. -/
structure Volume (Entry : Type) where
  leads : Directory Entry → Entry → Bool
  hasMeta : Directory Entry → Entry → Bool

structure Faults where
  statStore : Option String
  statMeta : Option String
  lstat : String → Option String
  rename : Option String

def Faults.never : Faults := ⟨none, none, fun _ => none, none⟩

section Archiving

variable {Entry : Type} (volume : Volume Entry) (dir : String)

def path (name : String) : String := dir ++ "/" ++ name

def detectStoreLayout (faults : Faults) (entries : Directory Entry) :
    Except String StoreLayout :=
  if dir = "" then .ok .none
  else
    match faults.statStore with
    | some text => .error ("stat " ++ path dir storeSubdir ++ ": " ++ text)
    | none =>
        match entries storeSubdir with
        | none => .ok .none
        | some store =>
            if volume.leads entries store then
              match faults.statMeta with
              | some text =>
                  .error ("stat " ++ path dir (storeSubdir ++ "/$SYS/_js_/_meta_") ++ ": " ++ text)
              | none =>
                  .ok (if volume.hasMeta entries store then .clustered else .standalone)
            else .ok .none

def mismatch (clustered : Bool) (layout : StoreLayout) : Bool :=
  (clustered && layout = .standalone) || (!clustered && layout = .clustered)

/-- The names the search looked at and what it came to. -/
structure Search where
  probed : List String
  result : Except String String

/-- The suffix that is tried when `left` more attempts may follow. -/
def suffixed (base : String) (left : Nat) : String :=
  base ++ "-" ++ toString (maxArchiveSuffix - left)

def findName (faults : Faults) (entries : Directory Entry) (base : String) :
    Nat → String → Search
  | left, target =>
      match faults.lstat target with
      | some text => ⟨[target], .error ("stat " ++ path dir target ++ ": " ++ text)⟩
      | none =>
          match entries target with
          | none => ⟨[target], .ok target⟩
          | some _ =>
              match left with
              | 0 =>
                  ⟨[target], .error ("no free archive name for " ++ path dir storeSubdir ++
                    " after " ++ toString maxArchiveSuffix ++ " attempts")⟩
              | left + 1 =>
                  let later := findName faults entries base left (suffixed base left)
                  ⟨target :: later.probed, later.result⟩

/-- The directory after the call, the names it looked at, and the new path with the
archived layout. -/
structure Archived (Entry : Type) where
  entries : Directory Entry
  probed : List String
  result : Except String (String × StoreLayout)

def archiveBase (layout : StoreLayout) (stamp : String) : String :=
  storeSubdir ++ "." ++ layout.text ++ "-" ++ stamp

/-- `stamp` is the time of the call in its text form. -/
def archiveIncompatibleStore (faults : Faults) (entries : Directory Entry) (clustered : Bool)
    (stamp : String) : Archived Entry :=
  match detectStoreLayout volume dir faults entries with
  | .error text => ⟨entries, [], .error text⟩
  | .ok layout =>
      if mismatch clustered layout then
        let search := findName dir faults entries (archiveBase layout stamp) maxArchiveSuffix
          (archiveBase layout stamp)
        match search.result with
        | .error text => ⟨entries, search.probed, .error text⟩
        | .ok target =>
            match faults.rename with
            | some text =>
                ⟨entries, search.probed,
                  .error ("move " ++ path dir storeSubdir ++ " aside: " ++ text)⟩
            | none =>
                ⟨entries.rename storeSubdir target, search.probed, .ok (path dir target, layout)⟩
      else ⟨entries, [], .ok ("", .none)⟩

/-! ## The search for a free name -/

/-- The base name, then the base with each suffix. -/
def candidates (base : String) : Nat → String → List String
  | 0, target => [target]
  | left + 1, target => target :: candidates base left (suffixed base left)

theorem candidates_length (base : String) (left : Nat) (target : String) :
    (candidates base left target).length = left + 1 := by
  induction left generalizing target with
  | zero => rfl
  | succ left ih => rw [candidates, List.length_cons, ih]

theorem find_name_probes (faults : Faults) (entries : Directory Entry) (base : String)
    (left : Nat) (target : String) :
    (findName dir faults entries base left target).probed <+: candidates base left target := by
  induction left generalizing target with
  | zero =>
      unfold findName
      split
      · exact List.prefix_rfl
      · split
        · exact List.prefix_rfl
        · exact List.prefix_rfl
  | succ left ih =>
      unfold findName
      split
      · exact List.prefix_append [target] _
      · split
        · exact List.prefix_append [target] _
        · exact List.prefix_cons_inj target |>.2 (ih _)

variable {volume dir}

theorem find_name_free (faults : Faults) (entries : Directory Entry) (base : String)
    (left : Nat) (target name : String)
    (found : (findName dir faults entries base left target).result = .ok name) :
    entries name = none := by
  induction left generalizing target with
  | zero =>
      unfold findName at found
      split at found
      · cases found
      · split at found
        · rename_i free
          cases found
          exact free
        · cases found
  | succ left ih =>
      unfold findName at found
      split at found
      · cases found
      · split at found
        · rename_i free
          cases found
          exact free
        · exact ih _ found

/-! ## What a call may do -/

theorem rename_source (entries : Directory Entry) (source target : String)
    (apart : source ≠ target) : entries.rename source target source = none := by
  rw [Directory.rename, if_neg apart, if_pos rfl]

theorem rename_target (entries : Directory Entry) (source target : String) :
    entries.rename source target target = entries source :=
  if_pos rfl

theorem rename_other (entries : Directory Entry) (source target name : String)
    (notTarget : name ≠ target) (notSource : name ≠ source) :
    entries.rename source target name = entries name := by
  rw [Directory.rename, if_neg notTarget, if_neg notSource]

/-- A layout was found only where there is a store. -/
theorem detect_store (faults : Faults) (entries : Directory Entry) (layout : StoreLayout)
    (detected : detectStoreLayout volume dir faults entries = .ok layout)
    (written : layout ≠ .none) : ∃ store, entries storeSubdir = some store := by
  cases present : entries storeSubdir with
  | some store => exact ⟨store, rfl⟩
  | none =>
      unfold detectStoreLayout at detected
      split at detected
      · exact absurd (Except.ok.inj detected).symm written
      · split at detected
        · cases detected
        · rw [present] at detected
          exact absurd (Except.ok.inj detected).symm written

theorem detect_absent (faults : Faults) (entries : Directory Entry)
    (reachable : faults.statStore = none) (absent : entries storeSubdir = none) :
    detectStoreLayout volume dir faults entries = .ok .none := by
  unfold detectStoreLayout
  split
  · rfl
  · simp only [reachable, absent]

variable (volume dir) in
/-- The store went to `name`, which was free, and nothing else changed. -/
structure MovedTo (entries after : Directory Entry) (name : String) : Prop where
  free : entries name = none
  written : ∃ store, entries storeSubdir = some store ∧ after name = some store
  others : ∀ other, other ≠ name → other ≠ storeSubdir → after other = entries other
  gone : ∀ faults : Faults, faults.statStore = none →
    detectStoreLayout volume dir faults after = .ok .none

variable (volume dir) in
/-- An archiving call fails and moves nothing, finds nothing to move, or moves the store. -/
def LosesNothing (faults : Faults) (entries : Directory Entry) (clustered : Bool)
    (archived : Archived Entry) : Prop :=
  archived.probed.length ≤ 101 ∧
    ((∃ text, archived.result = .error text) ∧ archived.entries = entries ∨
      (∃ layout, detectStoreLayout volume dir faults entries = .ok layout ∧
        mismatch clustered layout = false) ∧
        archived.result = .ok ("", .none) ∧ archived.entries = entries ∨
      ∃ layout name, detectStoreLayout volume dir faults entries = .ok layout ∧
        mismatch clustered layout = true ∧ archived.result = .ok (path dir name, layout) ∧
        MovedTo volume dir entries archived.entries name)

theorem renamed_moved (faults : Faults) (entries : Directory Entry) (layout : StoreLayout)
    (clustered : Bool) (name : String)
    (detected : detectStoreLayout volume dir faults entries = .ok layout)
    (mixed : mismatch clustered layout = true) (free : entries name = none) :
    MovedTo volume dir entries (entries.rename storeSubdir name) name := by
  have written : layout ≠ .none := by
    rintro rfl
    cases clustered <;> cases mixed
  obtain ⟨store, present⟩ := detect_store faults entries layout detected written
  have apart : storeSubdir ≠ name := by
    rintro rfl
    rw [present] at free
    cases free
  refine ⟨free, ⟨store, present, ?_⟩, ?_, ?_⟩
  · rw [rename_target, present]
  · intro other notName notStore
    exact rename_other entries storeSubdir name other notName notStore
  · intro later reachable
    exact detect_absent later _ reachable (rename_source entries storeSubdir name apart)

theorem archive_loses_nothing (faults : Faults) (entries : Directory Entry) (clustered : Bool)
    (stamp : String) :
    LosesNothing volume dir faults entries clustered
      (archiveIncompatibleStore volume dir faults entries clustered stamp) := by
  unfold archiveIncompatibleStore
  cases detected : detectStoreLayout volume dir faults entries with
  | error text => exact ⟨Nat.zero_le _, Or.inl ⟨⟨text, rfl⟩, rfl⟩⟩
  | ok layout =>
      dsimp only
      by_cases mixed : mismatch clustered layout = true
      · rw [if_pos mixed]
        have bounded : (findName dir faults entries (archiveBase layout stamp) maxArchiveSuffix
            (archiveBase layout stamp)).probed.length ≤ 101 := by
          have probes := find_name_probes dir faults entries (archiveBase layout stamp)
            maxArchiveSuffix (archiveBase layout stamp)
          have length := probes.length_le
          rwa [candidates_length] at length
        cases found : (findName dir faults entries (archiveBase layout stamp) maxArchiveSuffix
            (archiveBase layout stamp)).result with
        | error text => exact ⟨bounded, Or.inl ⟨⟨text, rfl⟩, rfl⟩⟩
        | ok name =>
            have free := find_name_free faults entries _ _ _ name found
            cases refused : faults.rename with
            | some text => exact ⟨bounded, Or.inl ⟨⟨_, rfl⟩, rfl⟩⟩
            | none =>
                refine ⟨bounded, Or.inr (Or.inr ⟨layout, name, detected, mixed, rfl, ?_⟩)⟩
                exact renamed_moved faults entries layout clustered name detected mixed free
      · rw [if_neg mixed]
        have matching : mismatch clustered layout = false := Bool.eq_false_iff.2 mixed
        exact ⟨Nat.zero_le _, Or.inr (Or.inl ⟨⟨layout, detected, matching⟩, rfl, rfl⟩)⟩

end Archiving

/-- Two names are taken; the store goes to the third. -/
example :
    (archiveIncompatibleStore ⟨fun _ _ => true, fun _ store => store = "clustered"⟩ "/js"
      Faults.never
      (fun name =>
        if name ∈ ["jetstream", "jetstream.standalone-20261015T091500Z",
            "jetstream.standalone-20261015T091500Z-1"] then some "standalone" else none)
      true "20261015T091500Z").result =
      .ok ("/js/jetstream.standalone-20261015T091500Z-2", .standalone) := by
  decide

end PgmanProxy.Embedded.StoreArchive
