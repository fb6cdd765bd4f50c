import PgmanProxy.Fanout.Client
import Mathlib.Data.Finset.Card

/-!
# Which nodes a broadcast reports as unreachable

The receive loop stops as soon as it has heard from as many nodes as were expected,
whoever they are. An expected node whose reply comes after that is reported as
unreachable although it answered. Exactly the nodes that fewer than the expected
number of other nodes precede are safe from it.
-/

namespace PgmanProxy.Fanout.Unreachable

open PgmanProxy.Fanout.Client

set_option autoImplicit false

variable {Data : Type}

/-- The sender of a message that decodes. -/
def sender : Arrival Data → Option String
  | .malformed => none
  | .reply reply => some reply.nodeID

/-- The nodes whose well-formed replies arrive, in order and with repetitions. -/
def answered (arrivals : List (Arrival Data)) : List String :=
  arrivals.filterMap sender

/-- The expected nodes the synthesis pass adds an entry for. -/
def reportedUnreachable (expected : List String) (arrivals : List (Arrival Data)) : List String :=
  expected.filter (fun node => node ∉ nodeIDs (drain expected arrivals []))

theorem aggregate_entries (call : Call) (expected : List String)
    (arrivals : List (Arrival Data)) :
    aggregate call expected arrivals =
      drain expected arrivals [] ++
        (reportedUnreachable expected arrivals).map (unreachable call) := rfl

/-- The nodes heard from ahead of a node's first reply. -/
def ahead (node : String) (arrivals : List (Arrival Data)) : List String :=
  (answered arrivals).takeWhile (fun other => other != node)

theorem ahead_own (reply : Reply Data) (arrivals : List (Arrival Data)) :
    ahead reply.nodeID (.reply reply :: arrivals) = [] := by
  simp [ahead, answered, sender]

theorem ahead_other (node : String) (reply : Reply Data) (arrivals : List (Arrival Data))
    (other : reply.nodeID ≠ node) :
    ahead node (.reply reply :: arrivals) = reply.nodeID :: ahead node arrivals := by
  simp [ahead, answered, sender, other]

/-! ## The receive loop -/

/-- The collected replies after one more, deduplicated by node. -/
def keep (reply : Reply Data) (got : List (Reply Data)) : List (Reply Data) :=
  if reply.nodeID ∈ nodeIDs got then got else got ++ [reply]

theorem drain_reply (expected : List String) (reply : Reply Data)
    (arrivals : List (Arrival Data)) (got : List (Reply Data)) :
    drain expected (.reply reply :: arrivals) got =
      if expected.length > 0 && (keep reply got).length ≥ expected.length then keep reply got
      else drain expected arrivals (keep reply got) := rfl

theorem mem_keep (reply : Reply Data) (got : List (Reply Data)) (node : String) :
    node ∈ nodeIDs (keep reply got) ↔ node = reply.nodeID ∨ node ∈ nodeIDs got := by
  unfold keep
  split
  · rename_i known
    constructor
    · exact .inr
    · intro either
      rcases either with rfl | present
      · exact known
      · exact present
  · simp [nodeIDs, or_comm]

theorem keep_distinct (reply : Reply Data) (got : List (Reply Data))
    (distinct : (nodeIDs got).Nodup) : (nodeIDs (keep reply got)).Nodup := by
  unfold keep
  split
  · exact distinct
  · rename_i fresh
    have added : nodeIDs (got ++ [reply]) = nodeIDs got ++ [reply.nodeID] := by simp [nodeIDs]
    rw [added, List.nodup_append_comm]
    exact List.nodup_cons.2 ⟨fresh, distinct⟩

theorem keep_cases (reply : Reply Data) (got : List (Reply Data)) (entry : Reply Data)
    (kept : entry ∈ keep reply got) :
    entry ∈ got ∨ (entry = reply ∧ reply.nodeID ∉ nodeIDs got) := by
  unfold keep at kept
  split at kept
  · exact .inl kept
  · rename_i fresh
    rcases List.mem_append.1 kept with early | last
    · exact .inl early
    · exact .inr ⟨List.mem_singleton.1 last, fresh⟩

/-- What every reply that arrives preserves holds of what the loop returns. -/
theorem drain_invariant (expected : List String) (arrivals : List (Arrival Data))
    (invariant : List (Reply Data) → Prop)
    (preserved : ∀ reply got, .reply reply ∈ arrivals → invariant got →
      invariant (keep reply got))
    (got : List (Reply Data)) (initial : invariant got) :
    invariant (drain expected arrivals got) := by
  induction arrivals generalizing got with
  | nil => exact initial
  | cons arrival arrivals ih =>
      have later : ∀ reply got, .reply reply ∈ arrivals → invariant got →
          invariant (keep reply got) := by
        intro reply got arrived
        exact preserved reply got (List.mem_cons_of_mem arrival arrived)
      cases arrival with
      | malformed => exact ih later got initial
      | reply reply =>
          have kept := preserved reply got List.mem_cons_self initial
          rw [drain_reply]
          split
          · exact kept
          · exact ih later (keep reply got) kept

theorem drain_keeps (expected : List String) (arrivals : List (Arrival Data))
    (got : List (Reply Data)) : nodeIDs got ⊆ nodeIDs (drain expected arrivals got) := by
  apply drain_invariant expected arrivals (fun current => nodeIDs got ⊆ nodeIDs current)
  · intro reply current _ grown node present
    exact (mem_keep reply current node).2 (.inr (grown present))
  · exact List.Subset.refl _

theorem heard_length (got : List (Reply Data)) (distinct : (nodeIDs got).Nodup) :
    (nodeIDs got).toFinset.card = got.length := by
  rw [List.toFinset_card_of_nodup distinct]
  exact List.length_map _

/-- Keeping a reply moves its sender from the nodes ahead to the nodes heard from. -/
theorem heard_moved (reply : Reply Data) (got : List (Reply Data)) (later : List String) :
    (nodeIDs got ++ reply.nodeID :: later).toFinset =
      (nodeIDs (keep reply got) ++ later).toFinset := by
  ext name
  simp only [List.mem_toFinset, List.mem_append, List.mem_cons, mem_keep]
  tauto

theorem length_le_heard (got : List (Reply Data)) (distinct : (nodeIDs got).Nodup)
    (later : List String) : got.length ≤ (nodeIDs got ++ later).toFinset.card := by
  rw [← heard_length got distinct]
  apply Finset.card_le_card
  rw [List.toFinset_append]
  exact Finset.subset_union_left

/-- The loop hears of a node exactly when the node answers and the nodes heard from by
then, those already in `got` included, are fewer than expected. -/
theorem heard_iff (expected : List String) (node : String) (arrivals : List (Arrival Data))
    (got : List (Reply Data)) (distinct : (nodeIDs got).Nodup)
    (room : got.length < expected.length) (unheard : node ∉ nodeIDs got) :
    node ∈ nodeIDs (drain expected arrivals got) ↔
      node ∈ answered arrivals ∧
        (nodeIDs got ++ ahead node arrivals).toFinset.card < expected.length := by
  induction arrivals generalizing got with
  | nil => simp [drain, answered, unheard]
  | cons arrival arrivals ih =>
      cases arrival with
      | malformed => exact ih got distinct room unheard
      | reply reply =>
          have senders : answered (.reply reply :: arrivals) = reply.nodeID :: answered arrivals :=
            rfl
          have kept_distinct := keep_distinct reply got distinct
          rw [drain_reply, senders]
          by_cases own : reply.nodeID = node
          · -- the node's first reply: nobody is ahead of it any more
            subst own
            have kept : reply.nodeID ∈ nodeIDs (keep reply got) :=
              (mem_keep reply got reply.nodeID).2 (.inl rfl)
            rw [ahead_own, List.append_nil, heard_length got distinct]
            constructor
            · intro _
              exact ⟨List.mem_cons_self, room⟩
            · intro _
              split
              · exact kept
              · exact drain_keeps _ _ _ kept
          · have still : node ∉ nodeIDs (keep reply got) := by
              rw [mem_keep]
              intro either
              rcases either with same | present
              · exact own same.symm
              · exact unheard present
            have elsewhere : node ∈ reply.nodeID :: answered arrivals ↔
                node ∈ answered arrivals := by
              simp [Ne.symm own]
            rw [ahead_other node reply arrivals own, heard_moved, elsewhere]
            split
            · rename_i full
              have enough : expected.length ≤ (keep reply got).length := by
                simp only [Bool.and_eq_true, decide_eq_true_eq] at full
                exact full.2
              have crowd := length_le_heard (keep reply got) kept_distinct (ahead node arrivals)
              constructor
              · intro present
                exact absurd present still
              · intro answers
                omega
            · rename_i space
              have fits : (keep reply got).length < expected.length := by
                simp only [Bool.and_eq_true, decide_eq_true_eq] at space
                omega
              exact ih (keep reply got) kept_distinct fits still

/-! ## The guarantee -/

/-- No expected node that answers is reported as unreachable. -/
def NeverMisreports (expected : List String) (arrivals : List (Arrival Data)) : Prop :=
  ∀ node ∈ expected, node ∈ answered arrivals → node ∉ reportedUnreachable expected arrivals

/-- Ahead of each expected node's first reply, fewer than the expected number of
different nodes are heard from. -/
def NotCrowdedOut (expected : List String) (arrivals : List (Arrival Data)) : Prop :=
  ∀ node ∈ expected, node ∈ answered arrivals →
    (ahead node arrivals).toFinset.card < expected.length

theorem reported_iff (expected : List String) (arrivals : List (Arrival Data)) (node : String)
    (wanted : node ∈ expected) :
    node ∈ reportedUnreachable expected arrivals ↔
      ¬ (node ∈ answered arrivals ∧ (ahead node arrivals).toFinset.card < expected.length) := by
  have some_expected : 0 < expected.length := List.length_pos_of_mem wanted
  have heard := heard_iff expected node arrivals [] List.nodup_nil some_expected List.not_mem_nil
  have nobody : nodeIDs ([] : List (Reply Data)) ++ ahead node arrivals = ahead node arrivals := rfl
  rw [nobody] at heard
  rw [← heard]
  simp [reportedUnreachable, wanted]

/-- A broadcast reports no node that answered as unreachable exactly when none of the
expected nodes is crowded out. -/
theorem never_misreports_iff (expected : List String) (arrivals : List (Arrival Data)) :
    NeverMisreports expected arrivals ↔ NotCrowdedOut expected arrivals := by
  constructor
  · intro honest node wanted answers
    have unreported := honest node wanted answers
    rw [reported_iff expected arrivals node wanted, not_not] at unreported
    exact unreported.2
  · intro space node wanted answers
    rw [reported_iff expected arrivals node wanted, not_not]
    exact ⟨answers, space node wanted answers⟩

/-- Two nodes are expected; an unexpected third one answers first and `node-b`, whose
reply is the last to arrive, is reported as unreachable. -/
theorem unexpected_reply_hides_node :
    let reply (node : String) : Arrival String :=
      .reply ⟨1, "r1", node, .statusOK, some "up", none, 3⟩
    let arrivals := [reply "node-x", reply "node-a", reply "node-b"]
    "node-b" ∈ answered arrivals ∧
      ∃ result, broadcast true ⟨"r1", "5s", 9⟩ ["node-a", "node-b"] (.delivers arrivals) =
          .ok result ∧
        ⟨1, "r1", "node-b", .statusFailed, none,
          some ⟨codeSiblingUnreachable, "no reply within 5s"⟩, 9⟩ ∈ result := by
  refine ⟨by decide, _, rfl, by decide⟩

end PgmanProxy.Fanout.Unreachable
