import Mathlib.Data.Finset.Card
import PgmanProxy.PgManager
import PgmanProxy.Runtime.ReloadGuarantees

/-!
# The derived replication policy

One peer runs asynchronously; any longer peer list becomes a quorum policy with
the configured number of synchronous standbys. Validation does not read the
policy section of the configuration and does not look for repeated peers.
-/

namespace PgmanProxy.Runtime.ReplicationPolicy

open PgmanProxy.Library.GoStrings
open PgmanProxy.PgManager
open PgmanProxy.Runtime.ReloadGuarantees
open PgmanProxy.Validation

set_option autoImplicit false

/-- The configuration with the one field of its policy section that is read here. -/
structure PolicyConfig extends Config where
  quorumSyncMinSync : Int
deriving DecidableEq, Repr

/-- `pgmanager.ReplicationPolicy` -/
inductive Policy where
  | asyncOnly
  | quorumSync (minSync : Int) (pool : List NodeID)
  | firstSync (minSync : Int) (pool : List NodeID)
deriving DecidableEq, Repr

def replicationPolicy (config : PolicyConfig) : Policy :=
  if config.peers.length = 1 then .asyncOnly
  else .quorumSync config.quorumSyncMinSync config.peers

/-- No commit has to wait for more standbys than there are nodes besides the local one. -/
def Satisfiable (localID : NodeID) : Policy → Prop
  | .asyncOnly => True
  | .quorumSync minSync pool | .firstSync minSync pool =>
      1 ≤ minSync ∧ minSync ≤ (pool.toFinset.erase localID).card

/-- There is one peer entry, or the configured count is positive and below the number of
different peers. -/
def QuorumFits (config : PolicyConfig) : Prop :=
  config.peers.length = 1 ∨
    1 ≤ config.quorumSyncMinSync ∧ config.quorumSyncMinSync < config.peers.toFinset.card

/-- Validation has seen the local node among the peers. -/
theorem local_mem_peers (std : Stdlib) (config : Config)
    (accepted : validate std config = .ok ()) : config.nodeID ∈ config.peers := by
  obtain ⟨_, node, peers, _⟩ := validate_ok config accepted
  have named : config.nodeID ≠ "" := by
    intro blank
    simp only [identifierIssues, blank, if_true] at node
    cases node
  unfold peersIssues at peers
  split at peers
  · cases peers
  · rw [List.append_eq_nil_iff] at peers
    have listed := no_issue _ _ peers.2
    simpa [named] using listed

theorem others_card (config : Config) (listed : config.nodeID ∈ config.peers) :
    (config.peers.toFinset.erase config.nodeID).card + 1 = config.peers.toFinset.card := by
  exact Finset.card_erase_add_one (List.mem_toFinset.mpr listed)

/-- For an accepted configuration the derived policy is satisfiable exactly if the configured
count fits the different peers. -/
theorem derived_policy_satisfiable_iff (std : Stdlib) (config : PolicyConfig)
    (accepted : validate std config.toConfig = .ok ()) :
    Satisfiable config.nodeID (replicationPolicy config) ↔ QuorumFits config := by
  have others := others_card config.toConfig (local_mem_peers std config.toConfig accepted)
  unfold replicationPolicy QuorumFits
  by_cases single : config.peers.length = 1
  · rw [if_pos single]
    exact ⟨fun _ => .inl single, fun _ => trivial⟩
  · rw [if_neg single]
    simp only [Satisfiable, single, false_or]
    omega

def policySample (peers : List String) (minSync : Int) : PolicyConfig :=
  { sampleConfig 4222 ["n2:6222"] with peers := peers, quorumSyncMinSync := minSync }

theorem three_peers_satisfiable :
    Satisfiable "n1" (replicationPolicy (policySample ["n1", "n2", "n3"] 2)) :=
  (derived_policy_satisfiable_iff sampleStd (policySample ["n1", "n2", "n3"] 2)
    (by decide)).mpr (.inr (by decide))

/-- Validation accepts a count no standby set can reach, a count of zero, and a peer list that
repeats the local node. -/
theorem accepted_policy_unsatisfiable :
    (validate sampleStd (policySample ["n1", "n2", "n3"] 3).toConfig = .ok () ∧
        ¬ Satisfiable "n1" (replicationPolicy (policySample ["n1", "n2", "n3"] 3))) ∧
      (validate sampleStd (policySample ["n1", "n2", "n3"] 0).toConfig = .ok () ∧
        ¬ Satisfiable "n1" (replicationPolicy (policySample ["n1", "n2", "n3"] 0))) ∧
      validate sampleStd (policySample ["n1", "n1"] 1).toConfig = .ok () ∧
        ¬ Satisfiable "n1" (replicationPolicy (policySample ["n1", "n1"] 1)) := by
  refine ⟨⟨by decide, ?_⟩, ⟨by decide, ?_⟩, by decide, ?_⟩
  · rintro ⟨_, most⟩
    exact absurd most (by decide)
  · rintro ⟨least, _⟩
    exact absurd least (by decide)
  · rintro ⟨_, most⟩
    exact absurd most (by decide)

end PgmanProxy.Runtime.ReplicationPolicy
