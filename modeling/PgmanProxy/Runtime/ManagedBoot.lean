import PgmanProxy.Library.Runs
import PgmanProxy.Runtime.ManagedBlock

/-!
# Managed blocks over the boots of a node

Each boot re-applies the managed blocks and reloads Postgres when something
changed. The files outlive a boot; the knowledge of what was changed does not.
-/

namespace PgmanProxy.Runtime.ManagedBoot

open PgmanProxy.Library.Runs
open PgmanProxy.Runtime.ManagedBlock
open PgmanProxy.Validation

set_option autoImplicit false

/-- What a boot does to the outside. -/
inductive Effect where
  | wrote (change : BlockChange)
  | reloaded
deriving DecidableEq, Repr

def Effect.isWrite : Effect → Bool
  | .wrote _ => true
  | .reloaded => false

def Effect.isReload : Effect → Bool
  | .wrote _ => false
  | .reloaded => true

/-- The answers a boot gets: from the data directory, from writes and from Postgres. -/
structure Answers where
  pgdataComplete : Except String Bool
  writeFault : String → Option String
  isRunning : Except String Bool
  reload : Except String Unit

structure BootStep where
  files : Files
  effects : List Effect
  result : Except String Unit

def applyManagedConfAtBoot (postgres : PostgresConfig) (answers : Answers) (files : Files) :
    BootStep :=
  match answers.pgdataComplete with
  | .error text => ⟨files, [], .error ("inspect data dir: " ++ text)⟩
  | .ok false => ⟨files, [], .ok ()⟩
  | .ok true =>
      let applied := applyManagedConf postgres.dataDir answers.writeFault postgres files
      let wrote := applied.changes.map Effect.wrote
      match applied.failure with
      | some text => ⟨applied.files, wrote, .error text⟩
      | none =>
          if applied.changes.length = 0 then ⟨applied.files, wrote, .ok ()⟩
          else
            match answers.isRunning with
            | .error text => ⟨applied.files, wrote, .error ("check postmaster: " ++ text)⟩
            | .ok false => ⟨applied.files, wrote, .ok ()⟩
            | .ok true =>
                match answers.reload with
                | .error text =>
                    ⟨applied.files, wrote,
                      .error ("reload after managed block change: " ++ text)⟩
                | .ok () => ⟨applied.files, wrote ++ [.reloaded], .ok ()⟩

/-- On an existing database, a step that returns nil has applied both blocks and, unless
nothing changed or Postgres is down, ends with a reload. -/
theorem conf_at_boot_ok (postgres : PostgresConfig) (answers : Answers) (files : Files)
    (applied : Applied)
    (applies : applyManagedConf postgres.dataDir answers.writeFault postgres files = applied)
    (initialised : answers.pgdataComplete ≠ .ok false)
    (returned : (applyManagedConfAtBoot postgres answers files).result = .ok ()) :
    applied.failure = none ∧
      ((applied.changes = [] ∧ (applyManagedConfAtBoot postgres answers files).effects = []) ∨
        (applied.changes ≠ [] ∧
          (answers.isRunning = .ok false ∨
            (applyManagedConfAtBoot postgres answers files).effects =
              applied.changes.map Effect.wrote ++ [.reloaded]))) := by
  unfold applyManagedConfAtBoot at returned ⊢
  rw [applies] at returned ⊢
  split at returned
  · cases returned
  · rename_i absent
    exact absurd absent initialised
  · simp only at returned ⊢
    split at returned
    · cases returned
    · rename_i clean
      refine ⟨clean, ?_⟩
      by_cases idle : applied.changes = []
      · left
        simp [idle]
      · right
        have busy : ¬applied.changes.length = 0 :=
          fun empty => idle (List.length_eq_zero_iff.1 empty)
        rw [if_neg busy] at returned ⊢
        refine ⟨idle, ?_⟩
        split at returned
        · cases returned
        · rename_i down
          exact Or.inl down
        · split at returned
          · cases returned
          · exact Or.inr rfl

/-! ## Histories of a node whose database exists and whose Postgres keeps running -/

structure Boot where
  postgres : PostgresConfig
  answers : Answers
  initialised : answers.pgdataComplete ≠ .ok false
  up : answers.isRunning ≠ .ok false

inductive Event where
  | boot (boot : Boot)
  | edit (file : String) (content : Except String String)

structure Node where
  files : Files
  trace : List Effect

def Node.boot (node : Node) (boot : Boot) : BootStep :=
  applyManagedConfAtBoot boot.postgres boot.answers node.files

def step (node : Node) : Event → Node
  | .boot boot => ⟨(node.boot boot).files, node.trace ++ (node.boot boot).effects⟩
  | .edit file content =>
      { node with files := fun asked => if asked = file then content else node.files asked }

/-- Every managed-block change written so far was followed by a successful reload. -/
def Node.settled (node : Node) : Bool :=
  followed Effect.isWrite Effect.isReload node.trace

/-- The boot finds a block that is not the configured one. -/
def Rewrites (node : Node) (boot : Boot) : Prop :=
  ∃ target ∈ targets boot.postgres, NeedsRewrite boot.postgres.dataDir node.files target

/-- A boot that returns nil either wrote nothing or reloaded last. -/
theorem boot_effects (node : Node) (boot : Boot) (returned : (node.boot boot).result = .ok ()) :
    (¬Rewrites node boot ∧ (node.boot boot).effects = []) ∨
      (Rewrites node boot ∧ ∃ wrote, (node.boot boot).effects = wrote ++ [.reloaded]) := by
  have outcome := conf_at_boot_ok boot.postgres boot.answers node.files _ rfl boot.initialised
    returned
  obtain ⟨clean, ⟨idle, effects⟩ | ⟨changed, down | effects⟩⟩ := outcome
  · left
    have needed := apply_managed_conf_changes _ _ boot.postgres node.files clean
    exact ⟨fun rewrites => needed.2 rewrites idle, effects⟩
  · exact absurd down boot.up
  · right
    have needed := apply_managed_conf_changes _ _ boot.postgres node.files clean
    exact ⟨needed.1 changed, _, effects⟩

theorem boot_settled_iff (node : Node) (boot : Boot)
    (returned : (node.boot boot).result = .ok ()) :
    (step node (.boot boot)).settled = true ↔ Rewrites node boot ∨ node.settled = true := by
  rcases boot_effects node boot returned with ⟨idle, effects⟩ | ⟨rewrites, wrote, effects⟩
  · simp only [step, Node.settled, effects, List.append_nil, idle, false_or]
  · have closed : (step node (.boot boot)).settled = true := by
      simp only [step, Node.settled, effects, ← List.append_assoc]
      exact followed_of_last _ _ _ _ rfl rfl
    exact iff_of_true closed (Or.inl rewrites)

/-- A boot whose managed-conf step returns success leaves nothing unreloaded. -/
def BootSettles (node : Node) : Event → Prop
  | .boot boot => (node.boot boot).result = .ok () → (step node (.boot boot)).settled = true
  | .edit _ _ => True

/-- The boot has a block of its own to rewrite, or nothing waits for a reload. -/
def BootReloadsOrNothingWaits (node : Node) : Event → Prop
  | .boot boot => (node.boot boot).result = .ok () → Rewrites node boot ∨ node.settled = true
  | .edit _ _ => True

/-- Over every history of boots and edits: every successful boot leaves all managed
changes reloaded exactly when each of them rewrites a block or starts with nothing
waiting. -/
theorem successful_boots_settle_iff (start : Node) (events : List Event) :
    StepsMeet step BootSettles start events ↔
      StepsMeet step BootReloadsOrNothingWaits start events := by
  apply steps_meet_congr
  intro node event
  cases event with
  | boot boot => exact forall_congr' (boot_settled_iff node boot)
  | edit file content => exact Iff.rfl

/-- A boot that configures one `postgresql.conf` line. -/
def sampleBoot (reload : Except String Unit) : Boot where
  postgres := ⟨"/usr/lib/postgresql/bin", "/data", "PG_DSN", "", "require", false, [],
    ["wal_level = logical"]⟩
  answers := ⟨.ok true, fun _ => none, .ok true, reload⟩
  initialised := by simp
  up := by simp

def sampleNode : Node := ⟨fun _ => .ok "", []⟩

/-- The first boot writes the block and its reload fails. -/
def failedReload : Node := step sampleNode (.boot (sampleBoot (.error "connection refused")))

theorem retried_boot_skips_reload :
    (sampleNode.boot (sampleBoot (.error "connection refused"))).result =
        .error "reload after managed block change: connection refused" ∧
      (failedReload.boot (sampleBoot (.ok ()))).result = .ok () ∧
      (step failedReload (.boot (sampleBoot (.ok ())))).trace =
        [.wrote ⟨"postgresql.conf", "postgres.conf_extras", .inserted, 1⟩] ∧
      (step failedReload (.boot (sampleBoot (.ok ())))).settled = false := by
  decide +kernel

end PgmanProxy.Runtime.ManagedBoot
