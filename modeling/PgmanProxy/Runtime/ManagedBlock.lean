import PgmanProxy.Library.GoStrings
import PgmanProxy.Validation

/-!
# Managed blocks in the Postgres configuration files

`applyManagedBlock` rewrites the marker-delimited block of one file;
`applyManagedConf` does so for `postgresql.conf` and then `pg_hba.conf`. A file
is replaced as a whole or not at all.
-/

namespace PgmanProxy.Runtime.ManagedBlock

open PgmanProxy.Library.GoStrings
open PgmanProxy.Validation

set_option autoImplicit false

inductive BlockAction where
  | inserted
  | updated
  | removed
  | unchanged
deriving DecidableEq, Repr

structure BlockChange where
  file : String
  block : String
  action : BlockAction
  lines : Nat
deriving DecidableEq, Repr

def beginMarker (name : String) : String := "# BEGIN pgman-proxy managed: " ++ name

def endMarker (name : String) : String := "# END pgman-proxy managed: " ++ name

/-- The file's lines with their terminators. -/
def fileParts (content : String) : List String :=
  let parts := (splitAfter '\n' content.toList).map String.ofList
  if parts.getLast? = some "" then parts.dropLast else parts

def malformed (name path why : String) : String :=
  "managed block " ++ name ++ " malformed in " ++ path ++ ": " ++ why

/-- The marker scan; `index` counts the parts passed. -/
def findMarkers (name path : String) :
    Nat → List String → Option Nat → Option Nat → Except String (Option Nat × Option Nat)
  | _, [], first, last => .ok (first, last)
  | index, part :: parts, first, last =>
      let text := trimRight (fun rune => rune ∈ ['\r', '\n', ' ', '\t']) part
      if text = beginMarker name then
        if first.isSome then .error (malformed name path "duplicate BEGIN marker")
        else findMarkers name path (index + 1) parts (some index) last
      else if text = endMarker name then
        if last.isSome then .error (malformed name path "duplicate END marker")
        else findMarkers name path (index + 1) parts first (some index)
      else findMarkers name path (index + 1) parts first last

def renderBlock (name : String) (lines : List String) : String :=
  if lines.length > 0 then
    beginMarker name ++ "\n" ++ "\n".intercalate lines ++ "\n" ++ endMarker name ++ "\n"
  else ""

/-- What is to become of a file: left alone, or replaced by `next`. -/
inductive Rewrite where
  | keep
  | replace (action : BlockAction) (next : String)
deriving DecidableEq, Repr

def insertBlock (name content : String) (lines : List String) : Rewrite :=
  if lines.length = 0 then .keep
  else
    let ended := content = "" || content.toList.getLast? = some '\n'
    .replace .inserted ((if ended then content else content ++ "\n") ++ renderBlock name lines)

/-- The block between the parts `first` and `last` gets `lines` as its body. -/
def replaceBlock (name : String) (parts lines : List String) (first last : Nat) : Rewrite :=
  let body := (parts.drop (first + 1)).take (last - first - 1)
  let current := body.map (trimRight (fun rune => rune ∈ ['\r', '\n']))
  if lines.length > 0 && current = lines then .keep
  else
    .replace (if lines.length = 0 then .removed else .updated)
      (String.join (parts.take first) ++ renderBlock name lines ++
        String.join (parts.drop (last + 1)))

def rewriteBlock (path name content : String) (lines : List String) : Except String Rewrite :=
  match findMarkers name path 0 (fileParts content) none none with
  | .error text => .error text
  | .ok (none, none) => .ok (insertBlock name content lines)
  | .ok (some first, some last) =>
      if last < first then .error (malformed name path "unmatched BEGIN/END markers")
      else .ok (replaceBlock name (fileParts content) lines first last)
  | .ok _ => .error (malformed name path "unmatched BEGIN/END markers")

/-- The data directory: what reading each file gives. -/
abbrev Files := String → Except String String

def Files.write (files : Files) (file content : String) : Files :=
  fun asked => if asked = file then .ok content else files asked

structure Target where
  file : String
  block : String
  lines : List String
deriving DecidableEq, Repr

section Applying

/- `writeFault` is the error of `writeFileAtomic` on a file, should it fail. -/
variable (dataDir : String) (writeFault : String → Option String)

def applyManagedBlock (files : Files) (target : Target) : Files × Except String BlockAction :=
  match files target.file with
  | .error text => (files, .error text)
  | .ok content =>
      match rewriteBlock (dataDir ++ "/" ++ target.file) target.block content target.lines with
      | .error text => (files, .error text)
      | .ok .keep => (files, .ok .unchanged)
      | .ok (.replace action next) =>
          match writeFault target.file with
          | some text => (files, .error text)
          | none => (Files.write files target.file next, .ok action)

/-- The files, the changed blocks and the error that stopped the loop, if any. -/
structure Applied where
  files : Files
  changes : List BlockChange
  failure : Option String

def applyTargets : List Target → Files → Applied
  | [], files => ⟨files, [], none⟩
  | target :: targets, files =>
      match applyManagedBlock dataDir writeFault files target with
      | (next, .error text) =>
          ⟨next, [], some ("apply " ++ target.block ++ " to " ++ target.file ++ ": " ++ text)⟩
      | (next, .ok action) =>
          let rest := applyTargets targets next
          if action = .unchanged then rest
          else { rest with
            changes := ⟨target.file, target.block, action, target.lines.length⟩ :: rest.changes }

def targets (postgres : PostgresConfig) : List Target :=
  [⟨"postgresql.conf", "postgres.conf_extras", postgres.confExtras⟩,
    ⟨"pg_hba.conf", "postgres.hba_extras", postgres.hbaExtras⟩]

def applyManagedConf (postgres : PostgresConfig) (files : Files) : Applied :=
  applyTargets dataDir writeFault (targets postgres) files

/-- The target's block, as its file stands, is not yet the configured one. -/
def NeedsRewrite (files : Files) (target : Target) : Prop :=
  ∃ content action next, files target.file = .ok content ∧
    rewriteBlock (dataDir ++ "/" ++ target.file) target.block content target.lines =
      .ok (.replace action next)

variable {dataDir writeFault}

theorem insert_block_action (name content : String) (lines : List String)
    (action : BlockAction) (next : String)
    (planned : insertBlock name content lines = .replace action next) : action ≠ .unchanged := by
  unfold insertBlock at planned
  split at planned
  · cases planned
  · cases planned
    decide

theorem replace_block_action (name : String) (parts lines : List String) (first last : Nat)
    (action : BlockAction) (next : String)
    (planned : replaceBlock name parts lines first last = .replace action next) :
    action ≠ .unchanged := by
  simp only [replaceBlock] at planned
  split at planned
  · cases planned
  · cases planned
    split <;> decide

theorem rewrite_block_action (path name content : String) (lines : List String)
    (action : BlockAction) (next : String)
    (planned : rewriteBlock path name content lines = .ok (.replace action next)) :
    action ≠ .unchanged := by
  unfold rewriteBlock at planned
  split at planned
  · cases planned
  · exact insert_block_action _ _ _ action next (Except.ok.inj planned)
  · split at planned
    · cases planned
    · exact replace_block_action _ _ _ _ _ action next (Except.ok.inj planned)
  · cases planned

/-- A block step that succeeds keeps its file or writes the planned text to it. -/
theorem apply_managed_block_cases (files next : Files) (target : Target) (action : BlockAction)
    (done : applyManagedBlock dataDir writeFault files target = (next, .ok action)) :
    ∃ content, files target.file = .ok content ∧
      ((rewriteBlock (dataDir ++ "/" ++ target.file) target.block content target.lines =
          .ok .keep ∧ next = files ∧ action = .unchanged) ∨
        ∃ text, rewriteBlock (dataDir ++ "/" ++ target.file) target.block content target.lines =
            .ok (.replace action text) ∧
          writeFault target.file = none ∧ next = Files.write files target.file text) := by
  unfold applyManagedBlock at done
  cases read : files target.file with
  | error text =>
      rw [read] at done
      cases done
  | ok content =>
      simp only [read] at done
      refine ⟨content, rfl, ?_⟩
      cases planned : rewriteBlock (dataDir ++ "/" ++ target.file) target.block content
          target.lines with
      | error text =>
          rw [planned] at done
          cases done
      | ok rewrite =>
          rw [planned] at done
          cases rewrite with
          | keep =>
              cases done
              exact Or.inl ⟨rfl, rfl, rfl⟩
          | replace planAction text =>
              cases fault : writeFault target.file with
              | some failure =>
                  simp only [fault] at done
                  cases done
              | none =>
                  simp only [fault] at done
                  cases done
                  exact Or.inr ⟨text, rfl, rfl, rfl⟩

/-- A block step that succeeds changes its own file at most, and reports a change exactly
when one was needed. -/
theorem apply_managed_block_ok (files next : Files) (target : Target) (action : BlockAction)
    (done : applyManagedBlock dataDir writeFault files target = (next, .ok action)) :
    (action ≠ .unchanged ↔ NeedsRewrite dataDir files target) ∧
      ∀ file, file ≠ target.file → next file = files file := by
  obtain ⟨content, read, step⟩ := apply_managed_block_cases files next target action done
  rcases step with ⟨kept, same, unchanged⟩ | ⟨text, planned, -, written⟩
  · have settled : ¬NeedsRewrite dataDir files target := by
      rintro ⟨other, replaceAction, text, otherRead, replaced⟩
      cases read.symm.trans otherRead
      cases kept.symm.trans replaced
    refine ⟨iff_of_false (fun changed => changed unchanged) settled, ?_⟩
    intro file _
    rw [same]
  · have changed := rewrite_block_action _ _ _ _ _ _ planned
    refine ⟨iff_of_true changed ⟨content, action, text, read, planned⟩, ?_⟩
    intro file other
    rw [written]
    exact if_neg other

theorem needs_rewrite_congr (files next : Files) (target : Target)
    (same : next target.file = files target.file) :
    NeedsRewrite dataDir next target ↔ NeedsRewrite dataDir files target := by
  unfold NeedsRewrite
  rw [same]

theorem apply_targets_changes (targets : List Target) (files : Files)
    (distinct : (targets.map (fun target => target.file)).Nodup)
    (done : (applyTargets dataDir writeFault targets files).failure = none) :
    (applyTargets dataDir writeFault targets files).changes ≠ [] ↔
      ∃ target ∈ targets, NeedsRewrite dataDir files target := by
  induction targets generalizing files with
  | nil => simp [applyTargets]
  | cons target targets ih =>
      obtain ⟨fresh, distinct⟩ := List.nodup_cons.1 distinct
      rcases applied : applyManagedBlock dataDir writeFault files target with ⟨next, result⟩
      cases result with
      | error text => simp [applyTargets, applied] at done
      | ok action =>
          obtain ⟨needed, kept⟩ := apply_managed_block_ok files next target action applied
          have rest : (∃ other ∈ targets, NeedsRewrite dataDir next other) ↔
              ∃ other ∈ targets, NeedsRewrite dataDir files other := by
            apply exists_congr
            intro other
            apply and_congr_right
            intro member
            apply needs_rewrite_congr
            apply kept
            intro same
            exact fresh (List.mem_map.2 ⟨other, member, same⟩)
          simp only [applyTargets, applied, List.exists_mem_cons_iff] at done ⊢
          by_cases unchanged : action = .unchanged
          · have idle : ¬NeedsRewrite dataDir files target :=
              fun needs => needed.2 needs unchanged
            rw [if_pos unchanged] at done ⊢
            rw [ih next distinct done, rest, or_iff_right idle]
          · rw [if_neg unchanged]
            exact iff_of_true (List.cons_ne_nil _ _) (Or.inl (needed.1 unchanged))

variable (dataDir writeFault) in
/-- A managed-conf step that succeeds has changed something exactly when a block was not
yet the configured one. -/
theorem apply_managed_conf_changes (postgres : PostgresConfig) (files : Files)
    (done : (applyManagedConf dataDir writeFault postgres files).failure = none) :
    (applyManagedConf dataDir writeFault postgres files).changes ≠ [] ↔
      ∃ target ∈ targets postgres, NeedsRewrite dataDir files target :=
  apply_targets_changes (targets postgres) files (by simp [targets]) done

end Applying

end PgmanProxy.Runtime.ManagedBlock
