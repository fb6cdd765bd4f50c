import PgmanProxy.Fanout.Unreachable

/-!
# A broadcast's result, node by node

Whatever arrives on the inbox, the result has one entry per node. The receive loop
keeps the first reply of a node and drops the others, and the synthesis pass adds an
entry only for a node the loop has not kept.
-/

namespace PgmanProxy.Fanout.Partition

open PgmanProxy.Fanout.Client PgmanProxy.Fanout.Unreachable

set_option autoImplicit false

variable {Data : Type}

/-- The first well-formed reply of a node. -/
def firstReply (node : String) : List (Arrival Data) → Option (Reply Data)
  | [] => none
  | .malformed :: arrivals => firstReply node arrivals
  | .reply reply :: arrivals =>
      if reply.nodeID = node then some reply else firstReply node arrivals

theorem drain_distinct_nodes (expected : List String) (arrivals : List (Arrival Data))
    (got : List (Reply Data)) (distinct : (nodeIDs got).Nodup) :
    (nodeIDs (drain expected arrivals got)).Nodup := by
  apply drain_invariant expected arrivals (fun current => (nodeIDs current).Nodup)
  · intro reply current _ apart
    exact keep_distinct reply current apart
  · exact distinct

/-- What the loop returns was kept before, or is the first reply of a node of which nothing
was kept. -/
theorem drain_first (expected : List String) (arrivals : List (Arrival Data))
    (got : List (Reply Data)) (entry : Reply Data)
    (collected : entry ∈ drain expected arrivals got) :
    entry ∈ got ∨
      (entry.nodeID ∉ nodeIDs got ∧ firstReply entry.nodeID arrivals = some entry) := by
  induction arrivals generalizing got with
  | nil => exact Or.inl collected
  | cons arrival arrivals ih =>
      cases arrival with
      | malformed => exact ih got collected
      | reply reply =>
          have now : entry ∈ keep reply got → entry ∈ got ∨
              (entry.nodeID ∉ nodeIDs got ∧
                firstReply entry.nodeID (.reply reply :: arrivals) = some entry) := by
            intro kept
            rcases keep_cases reply got entry kept with early | ⟨rfl, fresh⟩
            · exact Or.inl early
            · rw [firstReply, if_pos rfl]
              exact Or.inr ⟨fresh, rfl⟩
          rw [drain_reply] at collected
          split at collected
          · exact now collected
          · rcases ih (keep reply got) collected with early | ⟨unheard, first⟩
            · exact now early
            · rw [mem_keep, not_or] at unheard
              obtain ⟨other, before⟩ := unheard
              rw [firstReply, if_neg (Ne.symm other)]
              exact Or.inr ⟨before, first⟩

/-- The result of a broadcast, cut into what was received and what was made up. -/
structure Partitioned (call : Call) (expected : List String) (arrivals : List (Arrival Data))
    (result : List (Reply Data)) : Prop where
  once : ∀ node ∈ expected, (nodeIDs result).count node = 1
  distinct : (nodeIDs result).Nodup
  entries : ∃ received synthetic, result = received ++ synthetic ∧
    (∀ entry ∈ received, firstReply entry.nodeID arrivals = some entry) ∧
    (∀ entry ∈ synthetic, entry.nodeID ∈ expected ∧ entry = unreachable call entry.nodeID)

theorem node_ids_append (left right : List (Reply Data)) :
    nodeIDs (left ++ right) = nodeIDs left ++ nodeIDs right :=
  List.map_append

theorem unreachable_node_ids (call : Call) (nodes : List String) :
    nodeIDs (nodes.map (unreachable call : String → Reply Data)) = nodes := by
  rw [nodeIDs, List.map_map]
  exact List.map_id nodes

/-- The synthesized entries are those of the expected nodes that were not heard of. -/
theorem aggregate_node_ids (call : Call) (expected : List String)
    (arrivals : List (Arrival Data)) :
    nodeIDs (aggregate call expected arrivals) =
      nodeIDs (drain expected arrivals []) ++ reportedUnreachable expected arrivals := by
  rw [aggregate_entries, node_ids_append, unreachable_node_ids]

theorem aggregate_nodes_distinct (call : Call) (expected : List String)
    (arrivals : List (Arrival Data)) (known : expected.Nodup) :
    (nodeIDs (aggregate call expected arrivals)).Nodup := by
  have heard : (nodeIDs (drain expected arrivals [])).Nodup :=
    drain_distinct_nodes expected arrivals [] List.nodup_nil
  have reported : (reportedUnreachable expected arrivals).Nodup := known.filter _
  have apart : ∀ node ∈ nodeIDs (drain expected arrivals []),
      node ∉ reportedUnreachable expected arrivals := by
    intro node present missing
    have absent := of_decide_eq_true (List.mem_filter.1 missing).2
    exact absent present
  rw [aggregate_node_ids]
  exact List.nodup_append'.2 ⟨heard, reported, apart⟩

theorem aggregate_partitioned (call : Call) (expected : List String)
    (arrivals : List (Arrival Data)) (known : expected.Nodup) :
    Partitioned call expected arrivals (aggregate call expected arrivals) := by
  have distinct := aggregate_nodes_distinct call expected arrivals known
  refine ⟨?_, distinct, _, _, aggregate_entries call expected arrivals, ?_, ?_⟩
  · intro node wanted
    apply List.count_eq_one_of_mem distinct
    rw [aggregate_node_ids, List.mem_append]
    by_cases present : node ∈ nodeIDs (drain expected arrivals [])
    · exact Or.inl present
    · exact Or.inr (List.mem_filter.2 ⟨wanted, decide_eq_true present⟩)
  · intro entry collected
    rcases drain_first expected arrivals [] entry collected with early | ⟨-, first⟩
    · cases early
    · exact first
  · intro entry made
    obtain ⟨node, missing, rfl⟩ := List.mem_map.1 made
    exact ⟨(List.mem_filter.1 missing).1, rfl⟩

/-- Every expected node has exactly one entry, no node has two, and an entry that is not
synthetic is the first well-formed reply of its node. -/
theorem broadcast_partitions (connected : Bool) (call : Call) (expected : List String)
    (exchange : Exchange Data) (result : List (Reply Data)) (known : expected.Nodup)
    (returned : broadcast connected call expected exchange = .ok result) :
    ∃ arrivals, exchange = .delivers arrivals ∧ Partitioned call expected arrivals result := by
  unfold broadcast at returned
  split at returned
  · cases returned
  cases exchange with
  | subscribeFails text => cases returned
  | publishFails text => cases returned
  | delivers arrivals =>
      cases returned
      exact ⟨arrivals, rfl, aggregate_partitioned call expected arrivals known⟩

/-- An inbox with an undecodable body, two replies of `node-a` and one of a node nobody
expected. -/
def mixedInbox : List (Arrival String) :=
  [.malformed, .reply ⟨1, "r1", "node-a", .statusOK, some "up", none, 3⟩,
    .reply ⟨1, "r1", "node-a", .statusFailed, some "again", none, 4⟩,
    .reply ⟨1, "r1", "node-x", .statusPartial, none, none, 5⟩]

theorem mixed_inbox_partitions :
    let call : Call := ⟨"r1", "5s", 9⟩
    let expected := ["node-a", "node-b", "node-c"]
    expected.Nodup ∧
      ∃ arrivals, Exchange.delivers mixedInbox = .delivers arrivals ∧
        Partitioned call expected arrivals
          [⟨1, "r1", "node-a", .statusOK, some "up", none, 3⟩,
            ⟨1, "r1", "node-x", .statusPartial, none, none, 5⟩,
            unreachable call "node-b", unreachable call "node-c"] :=
  ⟨by decide, broadcast_partitions true ⟨"r1", "5s", 9⟩ _ (.delivers mixedInbox) _
    (by decide) rfl⟩

end PgmanProxy.Fanout.Partition
