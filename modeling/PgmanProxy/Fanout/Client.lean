import Mathlib.Data.List.Nodup
import Mathlib.Data.List.Perm.Subperm

/-!
# The fan-out client's broadcast

`Broadcast` collects replies in order of arrival until the deadline or until as
many nodes as expected have answered, then adds a failed entry for every
expected node it has not heard of.
-/

namespace PgmanProxy.Fanout.Client

set_option autoImplicit false

/-- `Error`, the optional error block of a reply. -/
structure ReplyError where
  code : String
  message : String
deriving DecidableEq, Repr

def codeSiblingUnreachable : String := "sibling_unreachable"

/-- The wire's status string: one of the documented three, or some other text. -/
inductive ReplyStatus where
  | statusOK
  | statusPartial
  | statusFailed
  | other (text : String)
deriving DecidableEq, Repr

/-- One responder's answer; `Data` is the slice's payload as it arrived. -/
structure Reply (Data : Type) where
  version : Int
  requestID : String
  nodeID : String
  status : ReplyStatus
  data : Option Data
  error : Option ReplyError
  respondedAt : Nat
deriving DecidableEq, Repr

/-- A message on the inbox: a reply, or bytes that do not decode to one. -/
inductive Arrival (Data : Type) where
  | reply (reply : Reply Data)
  | malformed

/-- What NATS does with one broadcast; `delivers` lists the inbox in order of
arrival, up to the deadline. -/
inductive Exchange (Data : Type) where
  | subscribeFails (text : String)
  | publishFails (text : String)
  | delivers (arrivals : List (Arrival Data))

variable {Data : Type}

def nodeIDs (replies : List (Reply Data)) : List String :=
  replies.map (fun reply => reply.nodeID)

/-- The receive loop. `arrivals` is what the inbox delivers before the deadline. -/
def drain (expected : List String) : List (Arrival Data) → List (Reply Data) → List (Reply Data)
  | [], got => got
  | .malformed :: arrivals, got => drain expected arrivals got
  | .reply reply :: arrivals, got =>
      let kept := if reply.nodeID ∈ nodeIDs got then got else got ++ [reply]
      if expected.length > 0 && kept.length ≥ expected.length then kept
      else drain expected arrivals kept

/-- One call: its request id, the text of its deadline and the time it ends. -/
structure Call where
  requestID : String
  deadline : String
  now : Nat
deriving DecidableEq, Repr

/-- The `sibling_unreachable` entry of an expected node that was not heard of. -/
def unreachable (call : Call) (nodeID : String) : Reply Data where
  version := 1
  requestID := call.requestID
  nodeID := nodeID
  status := .statusFailed
  data := none
  error := some ⟨codeSiblingUnreachable, "no reply within " ++ call.deadline⟩
  respondedAt := call.now

/-- The replies of a broadcast whose request went out. -/
def aggregate (call : Call) (expected : List String) (arrivals : List (Arrival Data)) :
    List (Reply Data) :=
  let got := drain expected arrivals []
  let missing := expected.filter (fun node => node ∉ nodeIDs got)
  got ++ missing.map (unreachable call)

/-- `Broadcast`; `connected` is false for a nil client or a nil connection. Its callers name one of
the known slices and send a request that can be encoded, so neither of these errors is there. -/
def broadcast (connected : Bool) (call : Call) (expected : List String) :
    Exchange Data → Except String (List (Reply Data))
  | exchange =>
      if !connected then .error "fanout: nil Client"
      else
        match exchange with
        | .subscribeFails text => .error ("inbox subscribe: " ++ text)
        | .publishFails text => .error ("publish request: " ++ text)
        | .delivers arrivals => .ok (aggregate call expected arrivals)

/-- Distinct expected nodes fit into the expected count, so the loop keeps them all. -/
theorem drain_distinct (expected : List String) (replies got : List (Reply Data))
    (distinct : (nodeIDs (got ++ replies)).Nodup)
    (known : nodeIDs (got ++ replies) ⊆ expected) :
    drain expected (replies.map .reply) got = got ++ replies := by
  induction replies generalizing got with
  | nil => simp [drain]
  | cons reply replies ih =>
      have shifted : got ++ reply :: replies = (got ++ [reply]) ++ replies := by simp
      have fresh : reply.nodeID ∉ nodeIDs got := by
        intro seen
        simp only [nodeIDs, List.map_append, List.map_cons] at distinct
        exact (List.nodup_append'.1 distinct).2.2 seen (List.mem_cons_self)
      simp only [List.map_cons, drain, fresh, if_false]
      split
      · rename_i enough
        -- the expected count is reached, so nothing can be left over
        have bound := (distinct.subperm known).length_le
        simp only [nodeIDs, List.length_map, List.length_append, List.length_cons] at bound
        simp only [List.length_append, List.length_cons, List.length_nil, Bool.and_eq_true,
          decide_eq_true_eq] at enough
        have empty : replies = [] := List.length_eq_zero_iff.1 (by omega)
        rw [empty]
      · rw [shifted] at distinct known ⊢
        exact ih (got ++ [reply]) distinct known

/-- Replies of distinct expected nodes all come back, in order of arrival, before the
synthesized entries. -/
theorem aggregate_distinct (call : Call) (expected : List String)
    (replies : List (Reply Data)) (distinct : (nodeIDs replies).Nodup)
    (known : nodeIDs replies ⊆ expected) :
    aggregate call expected (replies.map .reply) =
      replies ++ (expected.filter (fun node => node ∉ nodeIDs replies)).map
        (unreachable call) := by
  have drained : drain expected (replies.map .reply) [] = replies :=
    drain_distinct expected replies [] distinct known
  simp only [aggregate, drained]

end PgmanProxy.Fanout.Client
