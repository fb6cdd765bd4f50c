import Mathlib.Data.List.Sort
import Mathlib.Data.Multiset.AddSub
import Mathlib.Data.String.Basic
import PgmanProxy.Embedded.ServerOptions
import PgmanProxy.Library.GoBytes
import PgmanProxy.Library.MergeDiff

/-!
# The change set of a reload

`ComputeDiff` compares two sets of options: the routes by host with user-info
left out, the cluster password, and the names of the startup-only keys that
differ. TLS material is compared by presence only.
-/

namespace PgmanProxy.Embedded.Reload

open PgmanProxy.Embedded.ServerOptions
open PgmanProxy.Library.GoBytes (utf8)
open PgmanProxy.Library.MergeDiff

set_option autoImplicit false

structure ReloadDiff where
  routesAdded : List String
  routesRemoved : List String
  passwordRotated : Bool
  passwordOldPrefix : List UInt8
  passwordNewPrefix : List UInt8
  skippedKeys : List String
  skippedReason : String
deriving DecidableEq, Repr

def ReloadDiff.isEmpty (diff : ReloadDiff) : Bool :=
  diff.routesAdded.isEmpty && diff.routesRemoved.isEmpty && !diff.passwordRotated &&
    diff.skippedKeys.isEmpty

structure ReloadInputs where
  oldOpts : Options
  newOpts : Options
  oldPasswordRaw : String
  newPasswordRaw : String
deriving DecidableEq, Repr

def routeHosts (options : Options) : List String :=
  options.routes.map (fun url => url.host)

def normalizeRouteHosts (options : Options) : List String :=
  (routeHosts options).insertionSort (· ≤ ·)

/-- Added and removed entries of two sorted lists. -/
def stringSetDiff (oldSet newSet : List String) : List String × List String :=
  mergeDiff oldSet newSet

/-- The first eight bytes, which may end inside a rune. -/
def passwordPrefix (password : String) : List UInt8 := (utf8 password).take 8

def skippedKeys (old new : Options) : List String :=
  let keyIf (changed : Bool) (key : String) : List String := if changed then [key] else []
  (keyIf (old.serverName != new.serverName) "cluster.node_id" ++
    keyIf (old.host != new.host || old.port != new.port) "cluster.client_listen" ++
    keyIf (old.cluster.name != new.cluster.name) "cluster.name" ++
    keyIf (old.cluster.host != new.cluster.host || old.cluster.port != new.cluster.port)
      "cluster.routes_listen" ++
    keyIf (old.cluster.username != new.cluster.username) "cluster.username" ++
    keyIf (old.storeDir != new.storeDir) "cluster.jetstream_dir" ++
    keyIf (old.cluster.tlsConfig.isNone != new.cluster.tlsConfig.isNone)
      "cluster.tls").insertionSort (· ≤ ·)

def computeDiff (inputs : ReloadInputs) : ReloadDiff :=
  let routes := stringSetDiff (normalizeRouteHosts inputs.oldOpts)
    (normalizeRouteHosts inputs.newOpts)
  let rotated := inputs.oldOpts.cluster.password != inputs.newOpts.cluster.password
  let skipped := skippedKeys inputs.oldOpts inputs.newOpts
  { routesAdded := routes.1
    routesRemoved := routes.2
    passwordRotated := rotated
    passwordOldPrefix := if rotated then passwordPrefix inputs.oldPasswordRaw else []
    passwordNewPrefix := if rotated then passwordPrefix inputs.newPasswordRaw else []
    skippedKeys := skipped
    skippedReason :=
      if skipped.isEmpty then ""
      else "the listed keys are startup-only per FR-014a; restart the peer to apply changes to them" }

/-- The reload's trigger: an allow-listed surface changed. -/
def ReloadDiff.hasAllowListed (diff : ReloadDiff) : Bool :=
  !diff.routesAdded.isEmpty || !diff.routesRemoved.isEmpty || diff.passwordRotated

/-- Same cluster password and same route hosts, repetitions counted. -/
def SameSurfaces (old new : Options) : Prop :=
  old.cluster.password = new.cluster.password ∧ (routeHosts old).Perm (routeHosts new)

instance (old new : Options) : Decidable (SameSurfaces old new) :=
  inferInstanceAs (Decidable (_ ∧ _))

theorem normalized_eq_iff (old new : Options) :
    normalizeRouteHosts old = normalizeRouteHosts new ↔
      (routeHosts old).Perm (routeHosts new) := by
  constructor
  · intro same
    have sorted := List.perm_insertionSort (· ≤ ·) (routeHosts old)
    have target := List.perm_insertionSort (· ≤ ·) (routeHosts new)
    rw [normalizeRouteHosts, normalizeRouteHosts] at same
    rw [same] at sorted
    exact sorted.symm.trans target
  · intro permuted
    have spread := (List.perm_insertionSort (· ≤ ·) (routeHosts old)).trans
      (permuted.trans (List.perm_insertionSort (· ≤ ·) (routeHosts new)).symm)
    exact spread.eq_of_pairwise' (List.pairwise_insertionSort _ _) (List.pairwise_insertionSort _ _)

/-- No allow-listed change is detected exactly when both surfaces are the same. -/
theorem no_allow_listed_iff (inputs : ReloadInputs) :
    (computeDiff inputs).hasAllowListed = false ↔
      SameSurfaces inputs.oldOpts inputs.newOpts := by
  have hosts := merge_diff_empty_iff (normalizeRouteHosts inputs.oldOpts)
    (normalizeRouteHosts inputs.newOpts)
  rw [normalized_eq_iff] at hosts
  rw [SameSurfaces, ← hosts]
  simp only [ReloadDiff.hasAllowListed, computeDiff, stringSetDiff, Bool.or_eq_false_iff,
    Bool.not_eq_false', List.isEmpty_iff, bne_eq_false_iff_eq]
  constructor
  · rintro ⟨⟨added, removed⟩, same⟩
    exact ⟨same, added, removed⟩
  · rintro ⟨same, added, removed⟩
    exact ⟨⟨added, removed⟩, same⟩

/-! ## The route diff as a difference of multisets -/

theorem normalized_sorted (options : Options) :
    (normalizeRouteHosts options).Pairwise (· ≤ ·) :=
  List.pairwise_insertionSort _ _

theorem normalized_perm (options : Options) :
    (normalizeRouteHosts options).Perm (routeHosts options) :=
  List.perm_insertionSort _ _

/-- For routes in any order and with repetitions: both lists are sorted, no host is in both,
what is removed was there, and taking it away and adding the rest gives the new hosts. -/
theorem route_diff_exact (old new : Options) :
    let diff := stringSetDiff (normalizeRouteHosts old) (normalizeRouteHosts new)
    diff.1.Pairwise (· ≤ ·) ∧ diff.2.Pairwise (· ≤ ·) ∧ diff.1.Disjoint diff.2 ∧
      (diff.2 : Multiset String) ≤ routeHosts old ∧
      (routeHosts old : Multiset String) - diff.2 + diff.1 = routeHosts new := by
  intro diff
  have added : diff.1.Sublist (normalizeRouteHosts new) := merge_diff_added _ _
  have removed : diff.2.Sublist (normalizeRouteHosts old) := merge_diff_removed _ _
  have held : (diff.2 : Multiset String) ≤ routeHosts old :=
    Multiset.coe_le.2 (removed.subperm.trans (normalized_perm old).subperm)
  have balance : (routeHosts old : Multiset String) + diff.1 = routeHosts new + diff.2 := by
    have walked := merge_diff_balance (normalizeRouteHosts old) (normalizeRouteHosts new)
    rw [Multiset.coe_add, Multiset.coe_add, Multiset.coe_eq_coe]
    exact ((normalized_perm old).symm.append_right diff.1).trans
      (walked.trans ((normalized_perm new).append_right diff.2))
  refine ⟨(normalized_sorted new).sublist added, (normalized_sorted old).sublist removed,
    merge_diff_disjoint _ _ (normalized_sorted old) (normalized_sorted new), held, ?_⟩
  apply Multiset.add_left_inj.1
  calc (routeHosts old : Multiset String) - diff.2 + diff.1 + diff.2
      = (routeHosts old : Multiset String) - diff.2 + diff.2 + diff.1 := by
        rw [Multiset.add_assoc, Multiset.add_comm (diff.1 : Multiset String), Multiset.add_assoc]
    _ = (routeHosts old : Multiset String) + diff.1 := by rw [Multiset.sub_add_cancel held]
    _ = routeHosts new + diff.2 := balance

end PgmanProxy.Embedded.Reload
