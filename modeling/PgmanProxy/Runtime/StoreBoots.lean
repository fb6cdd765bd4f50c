import PgmanProxy.Embedded.StoreArchive
import PgmanProxy.Runtime.Reload

/-!
# The JetStream directory across boots

Each boot of a proxy may move the store of the other mode aside and then lets the
embedded server write its own. The server writes below `jetstream` only, and no
other process changes the directory.
-/

namespace PgmanProxy.Runtime.StoreBoots

open PgmanProxy.Embedded.ServerOptions
open PgmanProxy.Embedded.StoreArchive
open PgmanProxy.Library.GoStrings PgmanProxy.Library.Runs
open PgmanProxy.Runtime.Reload
open PgmanProxy.Validation

set_option autoImplicit false

/-- One boot: what it reads, when it happens, how the file system answers, and what its
server makes of the store it finds. -/
structure Boot (Entry : Type) where
  config : Config
  host : Host
  stamp : String
  faults : Faults
  served : Option Entry → Option Entry

section Boots

variable {Entry : Type} (std : Stdlib) (volume : Volume Entry) (dir : String)

def Boot.archived (boot : Boot Entry) (entries : Directory Entry) : Archived Entry :=
  archiveIncompatibleStore volume dir boot.faults entries (routesEnabled boot.config.cluster)
    boot.stamp

/-- The server's own writes. -/
def Boot.serve (boot : Boot Entry) (entries : Directory Entry) : Directory Entry :=
  fun name => if name = storeSubdir then boot.served (entries storeSubdir) else entries name

/-- What `bootEmbeddedNATS` and its server do to the directory `dir`. A boot that cannot build
its options does not come to the store, and one that cannot archive it does not start. -/
def bootEmbeddedNATS (entries : Directory Entry) (boot : Boot Entry) : Directory Entry :=
  if boot.config.cluster.jetStreamDir ≠ dir then entries
  else
    match Reload.boot std boot.host boot.config with
    | .error _ => entries
    | .ok _ =>
        match (boot.archived volume dir entries).result with
        | .error _ => (boot.archived volume dir entries).entries
        | .ok _ => boot.serve (boot.archived volume dir entries).entries

/-- Whatever stands in the directory beside the store is still there. -/
def Keeps (entries after : Directory Entry) : Prop :=
  ∀ name, name ≠ storeSubdir → ∀ entry, entries name = some entry → after name = some entry

theorem keeps_trans (first second third : Directory Entry) (early : Keeps first second)
    (late : Keeps second third) : Keeps first third := by
  intro name other entry present
  exact late name other entry (early name other entry present)

theorem archived_keeps (entries : Directory Entry) (boot : Boot Entry) :
    Keeps entries (boot.archived volume dir entries).entries := by
  intro name other entry present
  rcases (archive_loses_nothing boot.faults entries (routesEnabled boot.config.cluster)
      boot.stamp).2 with ⟨-, same⟩ | ⟨-, -, same⟩ | ⟨layout, place, -, -, -, moved⟩
  · rw [Boot.archived, same, present]
  · rw [Boot.archived, same, present]
  · have apart : name ≠ place := by
      rintro rfl
      rw [moved.free] at present
      cases present
    rw [Boot.archived, moved.others name apart other, present]

theorem boot_keeps (entries : Directory Entry) (boot : Boot Entry) :
    Keeps entries (bootEmbeddedNATS std volume dir entries boot) := by
  have archived := archived_keeps volume dir entries boot
  unfold bootEmbeddedNATS
  split
  · exact fun _ _ _ present => present
  · split
    · exact fun _ _ _ present => present
    · split
      · exact archived
      · intro name other entry present
        rw [Boot.serve, if_neg other]
        exact archived name other entry present

/-- Every archiving call of every run loses nothing, and what was archived once is there at
the end. -/
theorem boots_lose_no_store (entries : Directory Entry) (boots : List (Boot Entry)) :
    StepsMeet (bootEmbeddedNATS std volume dir)
        (fun entries boot => LosesNothing volume dir boot.faults entries
          (routesEnabled boot.config.cluster) (boot.archived volume dir entries))
        entries boots ∧
      Keeps entries (run (bootEmbeddedNATS std volume dir) entries boots) := by
  constructor
  · induction boots generalizing entries with
    | nil => trivial
    | cons boot boots ih =>
        exact ⟨archive_loses_nothing _ entries _ _, ih _⟩
  · apply run_invariant (bootEmbeddedNATS std volume dir) (Keeps entries)
    · intro now boot kept
      exact keeps_trans _ _ _ kept (boot_keeps std volume dir now boot)
    · exact fun _ _ _ present => present

end Boots

end PgmanProxy.Runtime.StoreBoots
