import Mathlib.Logic.Function.Basic
import PgmanProxy.Embedded.Bucket
import PgmanProxy.Library.Runs
import PgmanProxy.PgManager
import PgmanProxy.Validation

/-!
# Replication addresses in the cluster KV

A node publishes the address other nodes reach its Postgres at, under a key made of its
id, and pg-manager looks the address of its clone source up there. A lookup asks up to
five times and waits after each miss, while the other nodes boot and publish. Publishers,
lookups and pg-manager's own writes to the bucket interleave freely below.
-/

namespace PgmanProxy.Cluster.PeerAddress

open PgmanProxy.Embedded.Bucket (Answer)
open PgmanProxy.Library.GoStrings PgmanProxy.Library.Runs
open PgmanProxy.PgManager (NodeID)
open PgmanProxy.Validation (isNodeID node_id_runes)

set_option autoImplicit false

def peerAddrKeyPrefix : String := "peer."

/-- The runes that stay in a key; any other becomes an underscore. -/
def keyRune (rune : Char) : Bool := isNameRune rune || rune = '='

def sanitizePeerKey (nodeID : String) : String :=
  String.ofList (nodeID.toList.map (fun rune => if keyRune rune then rune else '_'))

def peerAddrKey (nodeID : String) : String :=
  peerAddrKeyPrefix ++ sanitizePeerKey nodeID ++ ".pg-replication-addr"

def conninfo (host port : String) : String :=
  "host=" ++ host ++ " port=" ++ port ++ " user=postgres dbname=postgres sslmode=disable"

abbrev Store := String → Option String

/-- `PublishPeerAddress`: what it leaves in the bucket and what it returns. -/
def publishPeerAddress (store : Store) (nodeID addr : String) (answer : Answer) :
    Store × Except String Unit :=
  if nodeID = "" then (store, .error "PublishPeerAddress: nodeID is empty")
  else
    match splitHostPort addr with
    | .error why =>
        (store, .error ("PublishPeerAddress: addr " ++ quote addr ++ " must be host:port: " ++ why))
    | .ok _ =>
        let failed (err : String) : Except String Unit :=
          .error ("publish peer address for " ++ quote nodeID ++ ": " ++ err)
        let written := Function.update store (peerAddrKey nodeID) (some addr)
        match answer with
        | .served => (written, .ok ())
        | .lost err => (store, failed err)
        | .cut err => (written, failed err)

/-- Whether a publication gets into the bucket. -/
def reaches (nodeID addr : String) (answer : Answer) : Bool :=
  nodeID ≠ "" && (splitHostPort addr).isOk &&
    match answer with
    | .served => true
    | .lost _ => false
    | .cut _ => true

theorem publish_store (store : Store) (nodeID addr : String) (answer : Answer) :
    (publishPeerAddress store nodeID addr answer).1 =
      if reaches nodeID addr answer then Function.update store (peerAddrKey nodeID) (some addr)
      else store := by
  unfold publishPeerAddress reaches
  by_cases named : nodeID = ""
  · simp [named]
  · rw [if_neg named]
    cases splitHostPort addr with
    | error why => simp [Except.isOk, Except.toBool]
    | ok parts => cases answer <;> simp [named, Except.isOk, Except.toBool]

inductive LookupError where
  | badAddress (peer : NodeID) (addr why : String)
  | lookupFailed (peer : NodeID) (err : String)
  | cancelled (err : String)
  | notPublished (peer : NodeID)
deriving DecidableEq, Repr

def attempts : Nat := 5

def LookupError.text : LookupError → String
  | .badAddress peer addr why => "peer " ++ peer ++ " addr " ++ quote addr ++ ": " ++ why
  | .lookupFailed peer err => "peer " ++ peer ++ " KV lookup: " ++ err
  | .cancelled err => err
  | .notPublished peer =>
      "peer " ++ peer ++ " address not in KV after " ++ toString attempts ++
        " attempts: nats: key not found"

/-- Where a lookup stands. `attempt` counts the misses so far. -/
inductive Lookup where
  | idle
  | asking (peer : NodeID) (attempt : Nat)
  | waiting (peer : NodeID) (attempt : Nat)
  | ended (peer : NodeID) (result : Except LookupError String)
deriving DecidableEq, Repr

inductive Input where
  | get
  | getFails (err : String)
  | elapse
  | cancel (err : String)
deriving DecidableEq, Repr

/-- What is made of the address found. -/
def resolved (peer : NodeID) (addr : String) : Except LookupError String :=
  match splitHostPort addr with
  | .error why => .error (.badAddress peer addr why)
  | .ok (host, port) => .ok (conninfo host port)

/-- The loop of `PeerAddressResolver`. -/
def lookupStep (store : Store) : Lookup → Input → Lookup
  | .asking peer attempt, .get =>
      match store (peerAddrKey peer) with
      | some addr => .ended peer (resolved peer addr)
      | none => .waiting peer (attempt + 1)
  | .asking peer _, .getFails err => .ended peer (.error (.lookupFailed peer err))
  | .waiting peer attempt, .elapse =>
      if attempt < attempts then .asking peer attempt
      else .ended peer (.error (.notPublished peer))
  | .waiting peer _, .cancel err => .ended peer (.error (.cancelled err))
  | lookup, _ => lookup

/-- The DSN of a peer in the static map that `peerDSNsForConfig` derives from the topology. -/
def defaultPeerDSN (peer : NodeID) (port : Int) : String := conninfo peer (toString port)

/-- `peerDSNsForConfig`; an empty table is derived from the peers. -/
def peerDSNsForConfig (peers : List NodeID) (port : Int) (peerDSNs : List (NodeID × String)) :
    List (NodeID × String) :=
  if peerDSNs.length = 0 then peers.map (fun peer => (peer, defaultPeerDSN peer port))
  else peerDSNs

/-! ## The cluster -/

structure Registry (Call : Type) where
  store : Store
  /-- the publications that reached the bucket, the latest first -/
  published : List (NodeID × String)
  lookups : Call → Lookup

inductive Event (Call : Type) where
  | publish (node : NodeID) (addr : String) (answer : Answer)
  | foreign (key value : String)
  | resolve (call : Call) (peer : NodeID)
  | turn (call : Call) (input : Input)

section Cluster

variable {Call : Type} [DecidableEq Call]

def step (registry : Registry Call) : Event Call → Registry Call
  | .publish node addr answer =>
      let written := (publishPeerAddress registry.store node addr answer).1
      { registry with
        store := written
        published :=
          if reaches node addr answer then (node, addr) :: registry.published
          else registry.published }
  | .foreign key value =>
      { registry with store := Function.update registry.store key (some value) }
  | .resolve call peer =>
      match registry.lookups call with
      | .idle => { registry with lookups := Function.update registry.lookups call (.asking peer 0) }
      | _ => registry
  | .turn call input =>
      { registry with
        lookups := Function.update registry.lookups call
          (lookupStep registry.store (registry.lookups call) input) }

def empty : Registry Call := ⟨fun _ => none, [], fun _ => .idle⟩

/-- Nodes have validated ids, and nobody else writes below the key prefix. -/
def Allowed : Event Call → Prop
  | .publish node _ _ => isNodeID node = true
  | .foreign key _ => ¬peerAddrKeyPrefix.toList <+: key.toList
  | .resolve _ peer => isNodeID peer = true
  | .turn _ _ => True

end Cluster

/-! ## Keys -/

theorem sanitize_valid (nodeID : String) (valid : isNodeID nodeID = true) :
    sanitizePeerKey nodeID = nodeID := by
  have runes := (node_id_runes nodeID valid).2
  have same : nodeID.toList.map (fun rune => if keyRune rune then rune else '_') =
      nodeID.toList := by
    apply (List.map_congr_left _).trans (List.map_id _)
    intro rune member
    have kept := runes rune member
    simp only [Bool.or_eq_true] at kept
    have stays : keyRune rune = true := by
      simp only [keyRune, isNameRune, Bool.or_eq_true]
      tauto
    rw [if_pos stays]
    rfl
  rw [sanitizePeerKey, same, String.ofList_toList]

/-- Validated ids have keys of their own. -/
theorem key_injective (first second : String) (firstValid : isNodeID first = true)
    (secondValid : isNodeID second = true) (same : peerAddrKey first = peerAddrKey second) :
    first = second := by
  unfold peerAddrKey at same
  rw [sanitize_valid first firstValid, sanitize_valid second secondValid] at same
  have runes := congrArg String.toList same
  simp only [String.toList_append] at runes
  exact String.toList_inj.1 (List.append_cancel_left (List.append_cancel_right runes))

theorem key_prefixed (nodeID : String) :
    peerAddrKeyPrefix.toList <+: (peerAddrKey nodeID).toList := by
  unfold peerAddrKey
  simp only [String.toList_append, List.append_assoc]
  exact List.prefix_append _ _

/-! ## The bucket -/

section Bucket

variable {Call : Type} [DecidableEq Call]

/-- The bucket has the latest publication of every node, and every publication has a host and a
port. -/
structure Faithful (registry : Registry Call) : Prop where
  latest : ∀ node, isNodeID node = true →
    registry.store (peerAddrKey node) = registry.published.lookup node
  parsed : ∀ entry ∈ registry.published, (splitHostPort entry.2).isOk = true

theorem step_faithful (registry : Registry Call) (event : Event Call) (allowed : Allowed event)
    (faithful : Faithful registry) : Faithful (step registry event) := by
  cases event with
  | publish node addr answer =>
      simp only [step, publish_store]
      by_cases written : reaches node addr answer = true
      · simp only [written, if_true]
        constructor
        · intro other valid
          rw [List.lookup_cons]
          by_cases same : other = node
          · simp [same]
          · have keys : peerAddrKey other ≠ peerAddrKey node :=
              fun equal => same (key_injective other node valid allowed equal)
            have differ : (other == node) = false := by simpa using same
            dsimp only
            rw [Function.update_of_ne keys, differ]
            exact faithful.latest other valid
        · rw [List.forall_mem_cons]
          simp only [reaches, Bool.and_eq_true] at written
          exact ⟨written.1.2, faithful.parsed⟩
      · simp only [written, if_false, Bool.false_eq_true]
        exact faithful
  | foreign key value =>
      refine ⟨?_, faithful.parsed⟩
      intro node valid
      have keys : peerAddrKey node ≠ key := by
        intro same
        apply allowed
        rw [← same]
        exact key_prefixed node
      simp only [step]
      rw [Function.update_of_ne keys]
      exact faithful.latest node valid
  | resolve call peer =>
      simp only [step]
      split
      · exact ⟨faithful.latest, faithful.parsed⟩
      · exact faithful
  | turn call input => exact ⟨faithful.latest, faithful.parsed⟩

theorem run_faithful (events : List (Event Call)) (allowed : ∀ event ∈ events, Allowed event) :
    Faithful (run step (empty : Registry Call) events) := by
  induction events using List.reverseRecOn with
  | nil => exact ⟨fun _ _ => rfl, fun _ member => nomatch member⟩
  | append_singleton events event ih =>
      rw [run_snoc]
      apply step_faithful _ _ (allowed event (by simp))
      exact ih (fun other member => allowed other (by simp [member]))

end Bucket

/-! ## Lookups -/

section Lookups

variable {Call : Type} [DecidableEq Call]

/-- What was so at the moment a lookup got its answer: it was asking, and the answer was that of
the publications so far. A lookup gives up on the fifth miss. -/
def Justified (call : Call) (peer : NodeID) (registry : Registry Call) :
    Except LookupError String → Prop
  | .ok dsn =>
      (∃ attempt < attempts, registry.lookups call = .asking peer attempt) ∧
        ∃ addr host port, registry.published.lookup peer = some addr ∧
          splitHostPort addr = .ok (host, port) ∧ dsn = conninfo host port
  | .error (.notPublished node) =>
      node = peer ∧ registry.lookups call = .asking peer (attempts - 1) ∧
        registry.published.lookup peer = none
  | .error (.lookupFailed node _) =>
      node = peer ∧ ∃ attempt < attempts, registry.lookups call = .asking peer attempt
  | .error (.cancelled _) => ∃ attempt ≤ attempts, registry.lookups call = .waiting peer attempt
  | .error (.badAddress _ _ _) => False

/-- What is known of a lookup along a run. -/
def Tracked (events : List (Event Call)) (call : Call) : Lookup → Prop
  | .idle => True
  | .asking peer attempt => isNodeID peer = true ∧ attempt < attempts
  | .waiting peer attempt =>
      isNodeID peer = true ∧ ∃ earlier, attempt = earlier + 1 ∧ earlier < attempts ∧
        Sometime step empty (fun registry =>
          registry.lookups call = .asking peer earlier ∧
            registry.published.lookup peer = none) events
  | .ended peer result =>
      Sometime step empty (fun registry => Justified call peer registry result) events

theorem tracked_later (events later : List (Event Call)) (call : Call) (lookup : Lookup)
    (tracked : Tracked events call lookup) : Tracked (events ++ later) call lookup := by
  cases lookup with
  | idle => trivial
  | asking peer attempt => exact tracked
  | waiting peer attempt =>
      rcases tracked with ⟨valid, earlier, next, few, missed⟩
      exact ⟨valid, earlier, next, few, sometime_later _ _ _ _ _ missed⟩
  | ended peer result =>
      exact sometime_later step empty (fun registry => Justified call peer registry result) events
        later tracked

theorem ended_now (events : List (Event Call)) (call : Call) (peer : NodeID)
    (result : Except LookupError String)
    (justified : Justified call peer (run step empty events) result) :
    Tracked events call (.ended peer result) :=
  sometime_now step empty (fun registry => Justified call peer registry result) events justified

omit [DecidableEq Call] in
theorem published_parsed (registry : Registry Call) (faithful : Faithful registry)
    (peer : NodeID) (addr : String) (found : registry.published.lookup peer = some addr) :
    ∃ host port, splitHostPort addr = .ok (host, port) := by
  rcases List.lookup_eq_some_iff.1 found with ⟨later, earlier, whole, _⟩
  have parsed := faithful.parsed (peer, addr) (by rw [whole]; simp)
  cases parts : splitHostPort addr with
  | error why =>
      rw [parts] at parsed
      cases parsed
  | ok pair => exact ⟨pair.1, pair.2, rfl⟩

/-- A turn of the lookup itself. -/
theorem lookup_tracked (events : List (Event Call)) (call : Call) (input : Input)
    (faithful : Faithful (run step (empty : Registry Call) events))
    (tracked : Tracked events call ((run step empty events).lookups call)) :
    Tracked events call
      (lookupStep (run step (empty : Registry Call) events).store
        ((run step empty events).lookups call) input) := by
  generalize now : (run step (empty : Registry Call) events).lookups call = lookup at tracked ⊢
  cases lookup with
  | idle => exact trivial
  | ended peer result => exact tracked
  | asking peer attempt =>
      rcases tracked with ⟨valid, few⟩
      cases input with
      | get =>
          unfold lookupStep
          dsimp only
          rw [faithful.latest peer valid]
          cases found : (run step (empty : Registry Call) events).published.lookup peer with
          | none =>
              refine ⟨valid, attempt, rfl, few, ?_⟩
              exact sometime_now _ _ _ _ ⟨now, found⟩
          | some addr =>
              rcases published_parsed _ faithful peer addr found with ⟨host, port, parts⟩
              have made : resolved peer addr = .ok (conninfo host port) := by
                rw [resolved, parts]
              dsimp only
              rw [made]
              exact ended_now events call peer _
                ⟨⟨attempt, few, now⟩, addr, host, port, found, parts, rfl⟩
      | getFails err => exact ended_now events call peer _ ⟨rfl, attempt, few, now⟩
      | elapse => exact ⟨valid, few⟩
      | cancel err => exact ⟨valid, few⟩
  | waiting peer attempt =>
      cases input with
      | get => exact tracked
      | getFails err => exact tracked
      | elapse =>
          rcases tracked with ⟨valid, earlier, next, few, missed⟩
          unfold lookupStep
          dsimp only
          split
          · rename_i more
            exact ⟨valid, more⟩
          · have last : earlier = attempts - 1 := by omega
            rw [last] at missed
            rcases missed with ⟨before, after, whole, asked, silent⟩
            exact ⟨before, after, whole, rfl, asked, silent⟩
      | cancel err =>
          rcases tracked with ⟨_, earlier, next, few, _⟩
          exact ended_now events call peer _ ⟨attempt, by omega, now⟩

theorem run_tracked (events : List (Event Call)) (allowed : ∀ event ∈ events, Allowed event)
    (call : Call) :
    Tracked events call ((run step (empty : Registry Call) events).lookups call) := by
  induction events using List.reverseRecOn with
  | nil => trivial
  | append_singleton events event ih =>
      have before : ∀ other ∈ events, Allowed other :=
        fun other member => allowed other (by simp [member])
      have tracked := ih before
      have faithful := run_faithful events before
      have now := allowed event (by simp)
      rw [run_snoc]
      cases event with
      | publish node addr answer => exact tracked_later events _ call _ tracked
      | foreign key value => exact tracked_later events _ call _ tracked
      | resolve caller peer =>
          simp only [step]
          split
          · by_cases same : call = caller
            · dsimp only
              rw [same, Function.update_self]
              exact ⟨now, by decide⟩
            · dsimp only
              rw [Function.update_of_ne same]
              exact tracked_later events _ call _ tracked
          · exact tracked_later events _ call _ tracked
      | turn caller input =>
          simp only [step]
          by_cases same : call = caller
          · rw [same] at tracked ⊢
            rw [Function.update_self]
            apply tracked_later
            exact lookup_tracked events caller input faithful tracked
          · rw [Function.update_of_ne same]
            exact tracked_later events _ call _ tracked

/-- A finished lookup answered what was so at one moment while it was asking: the connection
string of the address its peer had published last, or, at the fifth miss, that it had published
none. It never meets an address that does not parse. -/
theorem lookup_linearized (events : List (Event Call))
    (allowed : ∀ event ∈ events, Allowed event) (call : Call) (peer : NodeID)
    (result : Except LookupError String)
    (ended : (run step (empty : Registry Call) events).lookups call = .ended peer result) :
    Sometime step empty (fun registry => Justified call peer registry result) events := by
  have tracked := run_tracked events allowed call
  rw [ended] at tracked
  exact tracked

/-- A lookup that misses once, and finds the address that was published meanwhile. -/
def patientLookup : List (Event Nat) :=
  [.resolve 0 "n2", .turn 0 .get, .foreign "state__leader" "n1",
    .publish "n2" "10.0.0.2:5432" .served, .turn 0 .elapse, .turn 0 .get]

theorem patient_lookup_allowed : ∀ event ∈ patientLookup, Allowed event := by
  have valid : isNodeID "n2" = true := by decide
  have foreign : ¬peerAddrKeyPrefix.toList <+: "state__leader".toList := by decide
  simp only [patientLookup, List.forall_mem_cons]
  exact ⟨valid, trivial, foreign, valid, trivial, trivial, List.forall_mem_nil _⟩

theorem patient_lookup_linearized :
    Sometime step empty (fun registry => Justified 0 "n2" registry
      (.ok (conninfo "10.0.0.2" "5432"))) patientLookup := by
  apply lookup_linearized patientLookup patient_lookup_allowed 0 "n2"
  decide

/-- What is in the history was published by its node. -/
theorem published_events (events : List (Event Call)) (node : NodeID) (addr : String)
    (member : (node, addr) ∈ (run step (empty : Registry Call) events).published) :
    ∃ answer, .publish node addr answer ∈ events := by
  induction events using List.reverseRecOn with
  | nil => cases member
  | append_singleton events event ih =>
      have earlier : (node, addr) ∈ (run step (empty : Registry Call) events).published →
          ∃ answer, .publish node addr answer ∈ events ++ [event] := by
        intro old
        rcases ih old with ⟨answer, found⟩
        exact ⟨answer, List.mem_append_left _ found⟩
      rw [run_snoc] at member
      cases event with
      | publish other text answer =>
          simp only [step] at member
          split at member
          · rcases List.mem_cons.1 member with same | old
            · cases same
              exact ⟨answer, by simp⟩
            · exact earlier old
          · exact earlier member
      | foreign key value => exact earlier member
      | resolve caller peer =>
          simp only [step] at member
          split at member
          · exact earlier member
          · exact earlier member
      | turn caller input => exact earlier member

theorem plain_of_runes (text : String) (fine : Char → Bool) (colon : fine ':' = false)
    (opens : fine '[' = false) (closes : fine ']' = false)
    (runes : ∀ rune ∈ text.toList, fine rune = true) : Plain text := by
  have absent : ∀ rune, fine rune = false → rune ∉ text.toList := by
    intro rune refused present
    rw [runes rune present] at refused
    cases refused
  exact ⟨absent ':' colon, absent '[' opens, absent ']' closes⟩

/-- Where every node publishes its own id and the topology's port, a lookup that succeeds gives
the entry of the static map. -/
theorem lookup_matches_static_map (events : List (Event Call))
    (allowed : ∀ event ∈ events, Allowed event) (port : Int)
    (own : ∀ node addr answer, .publish node addr answer ∈ events →
      addr = node ++ ":" ++ toString port)
    (call : Call) (peer : NodeID) (dsn : String)
    (ended : (run step (empty : Registry Call) events).lookups call = .ended peer (.ok dsn))
    (peers : List NodeID) (listed : peer ∈ peers) :
    (peer, dsn) ∈ peerDSNsForConfig peers port [] := by
  have tracked := run_tracked events allowed call
  rw [ended] at tracked
  rcases tracked with
    ⟨before, after, whole, ⟨attempt, _, asked⟩, addr, host, found, last, parts, made⟩
  have earlier : ∀ event ∈ before, event ∈ events := by
    intro event member
    rw [whole]
    exact List.mem_append_left _ member
  have asking := run_tracked before (fun event member => allowed event (earlier event member)) call
  rw [asked] at asking
  have plainPeer : Plain peer :=
    plain_of_runes peer _ (by decide) (by decide) (by decide) (node_id_runes peer asking.1).2
  have plainPort : Plain (toString port) := by
    apply plain_of_runes (toString port) (fun rune => rune = '-' || rune.isDigit) (by decide)
      (by decide) (by decide)
    intro rune member
    simpa using int_text_runes port rune member
  rcases List.lookup_eq_some_iff.1 last with ⟨later, older, history, _⟩
  rcases published_events before peer addr (by rw [history]; simp) with ⟨answer, published⟩
  rw [own peer addr answer (earlier _ published),
    split_host_port_plain peer (toString port) plainPeer plainPort] at parts
  cases parts
  rw [made]
  exact List.mem_map.2 ⟨peer, listed, rfl⟩

/-- A node that publishes its own id, looked up. -/
def namedPublication : List (Event Nat) :=
  [.publish "n2" "n2:5432" .served, .resolve 0 "n2", .turn 0 .get]

theorem named_publication_static :
    ("n2", conninfo "n2" "5432") ∈ peerDSNsForConfig ["n1", "n2"] 5432 [] := by
  have ended : (run step (empty : Registry Nat) namedPublication).lookups 0 =
      .ended "n2" (.ok (conninfo "n2" "5432")) := by decide
  apply lookup_matches_static_map namedPublication _ 5432 _ 0 "n2" _ ended _ (by decide)
  · have valid : isNodeID "n2" = true := by decide
    simp only [namedPublication, List.forall_mem_cons]
    exact ⟨valid, valid, trivial, List.forall_mem_nil _⟩
  · intro node addr answer member
    simp only [namedPublication, List.mem_cons, Event.publish.injEq, reduceCtorEq,
      List.not_mem_nil, or_false] at member
    rw [member.1, member.2.1]
    decide

end Lookups

end PgmanProxy.Cluster.PeerAddress
