import PgmanProxy.Embedded.Bucket
import PgmanProxy.History.Stream

/-!
# Bootstrap of the history stream by concurrent peers

Every peer runs `EnsureHistoryStream` at boot. An attempt creates the stream, or fetches
the one that is there and updates it where it differs from what this peer wants. As with
the cluster bucket, each JetStream call is atomic and may fail before or after it took
effect, and a failed attempt is made again. JetStream acknowledges the creation of a
stream that exists with the same configuration and refuses it otherwise.
-/

namespace PgmanProxy.History.StreamBootstrap

open PgmanProxy.Library.GoStrings PgmanProxy.Library.Interleaving PgmanProxy.Library.Runs
open PgmanProxy.Embedded.Bucket (Answer Input)
open PgmanProxy.History.Stream

set_option autoImplicit false

/-! ## Options -/

inductive StorageType where
  | file
  | memory
deriving DecidableEq, Repr

inductive RetentionPolicy where
  | limits
  | interest
  | workQueue
deriving DecidableEq, Repr

inductive DiscardPolicy where
  | old
  | new
deriving DecidableEq, Repr

/-- `maxAge` is in nanoseconds. -/
structure StreamOptions where
  replicas : Int
  maxAge : Int
  maxBytes : Int
  maxMsgSize : Int
  storage : StorageType
deriving DecidableEq, Repr

def defaultStreamOptions (replicas : Int) : StreamOptions where
  replicas := replicas
  maxAge := 86400000000000
  maxBytes := 268435456
  maxMsgSize := 1048576
  storage := .file

inductive OptionsError where
  | replicas (given : Int)
  | maxAge (given : Int)
  | maxBytes (given : Int)
  | retentionUnbounded
deriving DecidableEq, Repr

def OptionsError.text (formatDuration : Int → String) : OptionsError → String
  | .replicas given => "history: Replicas must be in [1,5], got " ++ toString given
  | .maxAge given => "history: MaxAge must be >= 0, got " ++ formatDuration given
  | .maxBytes given => "history: MaxBytes must be >= 0, got " ++ toString given
  | .retentionUnbounded =>
      "history: at least one of MaxAge / MaxBytes must be set (infinite retention refused)"

def StreamOptions.validate (opts : StreamOptions) : Except OptionsError Unit :=
  if opts.replicas < 1 ∨ opts.replicas > 5 then .error (.replicas opts.replicas)
  else if opts.maxAge < 0 then .error (.maxAge opts.maxAge)
  else if opts.maxBytes < 0 then .error (.maxBytes opts.maxBytes)
  else if opts.maxAge = 0 ∧ opts.maxBytes = 0 then .error .retentionUnbounded
  else .ok ()

/-! ## How many replicas a node asks for -/

structure ReplicaDecision where
  declaredSize : Int
  derived : Int
  override : Int
  warning : String
deriving DecidableEq, Repr

/-- No answer where the source panics. -/
def deriveReplicas (declaredSize : Int) : Option (Int × String) :=
  if declaredSize ≤ 0 then none
  else if declaredSize = 1 then some (1, "")
  else if declaredSize = 2 then
    some (2, "two-peer cluster has zero peer-loss tolerance; scale to 3 ASAP")
  else some (3, "")

def ReplicaDecision.effective (decision : ReplicaDecision) : Int :=
  if decision.override > 0 then decision.override else decision.derived

def decideReplicas (declaredSize override : Int) : Option ReplicaDecision :=
  (deriveReplicas declaredSize).map (fun (derived, warn) =>
    if override > 0 then
      let audit :=
        "cluster.replication_factor_override=" ++ toString override ++
          " in effect (derived would have been " ++ toString derived ++ " for declared_size=" ++
          toString declaredSize ++ ")"
      ⟨declaredSize, derived, override, if warn ≠ "" then warn ++ "; " ++ audit else audit⟩
    else ⟨declaredSize, derived, 0, warn⟩)

theorem default_options_valid_iff (replicas : Int) :
    (defaultStreamOptions replicas).validate = .ok () ↔ 1 ≤ replicas ∧ replicas ≤ 5 := by
  unfold StreamOptions.validate
  split
  · rename_i outside
    simp only [defaultStreamOptions] at outside
    constructor
    · intro impossible
      cases impossible
    · intro inside
      omega
  · rename_i inside
    simp only [defaultStreamOptions] at inside
    constructor
    · intro _
      omega
    · intro _
      rfl

/-- Startup's options are refused for an override above five, and only then. -/
theorem boot_options_valid_iff (declaredSize override : Int) (decision : ReplicaDecision)
    (decided : decideReplicas declaredSize override = some decision) :
    (defaultStreamOptions decision.effective).validate = .ok () ↔ override ≤ 5 := by
  rw [default_options_valid_iff]
  rcases Option.map_eq_some_iff.1 decided with ⟨⟨derived, warn⟩, found, made⟩
  have small : 1 ≤ derived ∧ derived ≤ 3 := by
    unfold deriveReplicas at found
    split at found
    · cases found
    · split at found
      · cases found
        omega
      · split at found
        · cases found
          omega
        · cases found
          omega
  subst made
  dsimp only
  split
  · rename_i overridden
    simp only [ReplicaDecision.effective, if_pos overridden]
    omega
  · simp only [ReplicaDecision.effective]
    omega

/-! ## JetStream -/

/-- The part of a stream's configuration that the code sets. -/
structure StreamConfig where
  name : String
  subjects : List String
  storage : StorageType
  retention : RetentionPolicy
  discard : DiscardPolicy
  maxAge : Int
  maxBytes : Int
  maxMsgSize : Int
  replicas : Int
deriving DecidableEq, Repr

def streamName (clusterID : String) : String :=
  "PGMAN_PROXY_HISTORY_" ++ (sanitize clusterID).toUpper

def streamConfig (clusterID : String) (opts : StreamOptions) : StreamConfig where
  name := streamName clusterID
  subjects := [subjectFilterAll clusterID]
  storage := opts.storage
  retention := .limits
  discard := .old
  maxAge := opts.maxAge
  maxBytes := opts.maxBytes
  maxMsgSize := opts.maxMsgSize
  replicas := opts.replicas

/-- What `reconcile` compares; the subjects are not among it. -/
def StreamConfig.agrees (current desired : StreamConfig) : Bool :=
  current.maxAge = desired.maxAge && current.maxBytes = desired.maxBytes &&
    current.maxMsgSize = desired.maxMsgSize && current.replicas = desired.replicas &&
    current.storage = desired.storage && current.discard = desired.discard &&
    current.retention = desired.retention

theorem agrees_self (config : StreamConfig) : config.agrees config = true := by
  simp [StreamConfig.agrees]

theorem agrees_replicas (current desired : StreamConfig)
    (same : current.agrees desired = true) : current.replicas = desired.replicas := by
  simp only [StreamConfig.agrees, Bool.and_eq_true, decide_eq_true_eq] at same
  exact same.1.1.1.2

abbrev Held := Option StreamConfig

def errStreamNotFound : String := Embedded.Bucket.errStreamNotFound

/-! ## One peer -/

inductive Place where
  | create
  /-- the stream is there with another configuration -/
  | refetch
  /-- creating it failed for another reason -/
  | fallback (err : String)
  | update
  | backOff (err : String)
  | succeeded
  | failed (err : String)
deriving DecidableEq, Repr

structure Progress where
  attempt : Nat
  place : Place
deriving DecidableEq, Repr

def Place.calls : Place → Bool
  | .backOff _ | .succeeded | .failed _ => false
  | _ => true

section Peer

variable (desired : StreamConfig)

/-- Where an attempt goes on when the call it is at answers with an error. -/
def onError (place : Place) (err : String) : Place :=
  match place with
  | .create => .fallback err
  | .refetch =>
      .backOff ("fetch history stream " ++ quote desired.name ++ " after create race: " ++ err)
  | .fallback first => .backOff ("create history stream " ++ quote desired.name ++ ": " ++ first)
  | .update => .backOff ("reconcile history stream " ++ quote desired.name ++ ": " ++ err)
  | .backOff _ | .succeeded | .failed _ => place

/-- The comparison at the head of `reconcile`. -/
def reconcile (current : StreamConfig) : Place :=
  if current.agrees desired then .succeeded else .update

/-- The call of a place, served. -/
def serve (held : Held) (place : Place) : Held × Place :=
  match place, held with
  | .create, none => (some desired, reconcile desired desired)
  | .create, some current =>
      (held, if current = desired then reconcile desired current else .refetch)
  | .refetch, some current | .fallback _, some current => (held, reconcile desired current)
  | .update, some _ => (some desired, .succeeded)
  | _, _ => (held, onError desired place errStreamNotFound)

/-- One call of an attempt. -/
def ensureOnce (answer : Answer) (held : Held) (place : Place) : Held × Place :=
  if place.calls then
    match answer with
    | .served => serve desired held place
    | .lost err => (held, onError desired place err)
    | .cut err => ((serve desired held place).1, onError desired place err)
  else (held, place)

/-- The loop around the attempts. -/
def ensureLoop (input : Input) (held : Held) (progress : Progress) : Held × Progress :=
  match input, progress.place with
  | .call answer, place =>
      let next := ensureOnce desired answer held place
      (next.1, { progress with place := next.2 })
  | .cancelled err, .backOff _ => (held, { progress with place := .failed err })
  | .budgetSpent, .backOff err =>
      (held, { progress with
        place := .failed ("history: ensure stream gave up after " ++ toString progress.attempt ++
          " attempts: " ++ err) })
  | .elapse, .backOff _ => (held, ⟨progress.attempt + 1, .create⟩)
  | _, _ => (held, progress)

end Peer

/-- The checks before the first attempt; `js` says that there is a JetStream context. -/
def ensureHistoryStream (formatDuration : Int → String) (js : Bool) (clusterID : String)
    (opts : StreamOptions) : Progress :=
  if !js then ⟨0, .failed "history: nil JetStream context"⟩
  else if clusterID = "" then ⟨0, .failed "history: empty clusterID"⟩
  else
    match opts.validate with
    | .error err => ⟨0, .failed (err.text formatDuration)⟩
    | .ok () => ⟨1, .create⟩

/-! ## All peers of a cluster -/

section Peers

variable {Node : Type} [DecidableEq Node]
variable (formatDuration : Int → String) (clusterID : String)
variable (opts : Node → StreamOptions) (js : Node → Bool)

abbrev Cluster (Node : Type) := Crowd Node Held Progress

def start (held : Held) : Cluster Node :=
  ⟨held, fun node => ensureHistoryStream formatDuration (js node) clusterID (opts node)⟩

def step (cluster : Cluster Node) (event : Node × Input) : Cluster Node :=
  turn (fun node => ensureLoop (streamConfig clusterID (opts node))) cluster event

end Peers

/-! ## What a turn writes -/

section Writes

variable (desired : StreamConfig)

theorem serve_held (held : Held) (place : Place) :
    (serve desired held place).1 = held ∨ (serve desired held place).1 = some desired := by
  cases place <;> cases held <;> first | exact .inl rfl | exact .inr rfl

theorem loop_held (input : Input) (held : Held) (progress : Progress) :
    (ensureLoop desired input held progress).1 = held ∨
      (ensureLoop desired input held progress).1 = some desired := by
  rcases progress with ⟨attempt, place⟩
  cases input with
  | call answer =>
      simp only [ensureLoop, ensureOnce]
      split
      · cases answer with
        | served => exact serve_held desired held place
        | lost err => exact .inl rfl
        | cut err => exact serve_held desired held place
      · exact .inl rfl
  | elapse | budgetSpent | cancelled err => cases place <;> exact .inl rfl

/-- A call that ends the attempt well leaves a stream that agrees with what was wanted. -/
theorem serve_succeeded (held : Held) (place : Place) (calling : place.calls = true)
    (ended : (serve desired held place).2 = .succeeded) :
    ∃ current, (serve desired held place).1 = some current ∧ current.agrees desired = true := by
  have compared : ∀ current, reconcile desired current = .succeeded →
      current.agrees desired = true := by
    intro current same
    unfold reconcile at same
    split at same
    · assumption
    · cases same
  cases place with
  | create =>
      cases held with
      | none => exact ⟨desired, rfl, agrees_self desired⟩
      | some current =>
          simp only [serve] at ended
          split at ended
          · exact ⟨current, rfl, compared current ended⟩
          · cases ended
  | refetch | fallback err =>
      cases held with
      | none => cases ended
      | some current => exact ⟨current, rfl, compared current ended⟩
  | update =>
      cases held with
      | none => cases ended
      | some current => exact ⟨desired, rfl, agrees_self desired⟩
  | backOff err | succeeded | failed err => cases calling

theorem on_error_not_succeeded (place : Place) (err : String) (calling : place.calls = true) :
    onError desired place err ≠ .succeeded := by
  intro ended
  cases place with
  | create | refetch | fallback first | update => cases ended
  | backOff err | succeeded | failed err => cases calling

theorem loop_succeeded (input : Input) (held : Held) (progress : Progress)
    (ended : (ensureLoop desired input held progress).2.place = .succeeded) :
    progress.place = .succeeded ∧ (ensureLoop desired input held progress).1 = held ∨
      ∃ current, (ensureLoop desired input held progress).1 = some current ∧
        current.agrees desired = true := by
  rcases progress with ⟨attempt, place⟩
  cases input with
  | call answer =>
      simp only [ensureLoop, ensureOnce] at ended ⊢
      by_cases calling : place.calls = true
      · rw [if_pos calling] at ended ⊢
        right
        cases answer with
        | served => exact serve_succeeded desired held place calling ended
        | lost err => exact absurd ended (on_error_not_succeeded desired place err calling)
        | cut err => exact absurd ended (on_error_not_succeeded desired place err calling)
      · rw [if_neg calling] at ended ⊢
        exact .inl ⟨ended, rfl⟩
  | elapse | budgetSpent | cancelled err =>
      cases place with
      | backOff first => cases ended
      | create | refetch | fallback first | update | failed first => cases ended
      | succeeded => exact .inl ⟨rfl, rfl⟩

end Writes

/-! ## One configuration for all peers -/

section Settles

variable {Node : Type} [DecidableEq Node]
variable (formatDuration : Int → String) (clusterID : String)

/-- What a peer that succeeded relies on. -/
def Assured (desired : StreamConfig) (held : Held) (progress : Progress) : Prop :=
  progress.place = .succeeded → ∃ current, held = some current ∧ current.agrees desired = true

theorem loop_assured (desired : StreamConfig) (input : Input) (held : Held) (progress : Progress)
    (assured : Assured desired held progress) :
    Assured desired (ensureLoop desired input held progress).1
      (ensureLoop desired input held progress).2 := by
  intro ended
  rcases loop_succeeded desired input held progress ended with ⟨before, same⟩ | agreed
  · rw [same]
    exact assured before
  · exact agreed

/-- Nobody else's turn takes a success back: whoever writes, writes the same. -/
theorem loop_keeps_assured (desired : StreamConfig) (input : Input) (held : Held)
    (progress other : Progress) (assured : Assured desired held other) :
    Assured desired (ensureLoop desired input held progress).1 other := by
  intro ended
  rcases loop_held desired input held progress with same | written
  · rw [same]
    exact assured ended
  · exact ⟨desired, written, agrees_self desired⟩

theorem entry_place (js : Bool) (opts : StreamOptions) :
    (ensureHistoryStream formatDuration js clusterID opts).place = .create ∨
      ∃ err, (ensureHistoryStream formatDuration js clusterID opts).place = .failed err := by
  unfold ensureHistoryStream
  split
  · exact .inr ⟨_, rfl⟩
  · split
    · exact .inr ⟨_, rfl⟩
    · split
      · exact .inr ⟨_, rfl⟩
      · exact .inl rfl

/-- A peer's turns while nobody else has one. -/
def alone (desired : StreamConfig) (inputs : List Input) (held : Held) (progress : Progress) :
    Held × Progress :=
  run (fun state input => ensureLoop desired input state.1 state.2) (held, progress) inputs

theorem alone_assured (desired : StreamConfig) (inputs : List Input) (held : Held)
    (progress : Progress) (assured : Assured desired held progress) :
    Assured desired (alone desired inputs held progress).1
      (alone desired inputs held progress).2 :=
  run_invariant (fun state input => ensureLoop desired input state.1 state.2)
    (fun state => Assured desired state.1 state.2)
    (fun state input kept => loop_assured desired input state.1 state.2 kept)
    (held, progress) assured inputs

/-! ### Served turns

A peer whose calls are served gets to its end however the others interleave with it, and whatever
becomes of their calls. What it still needs shrinks with its own turns. -/

/-- Wherever an attempt stands, these turns bring the peer to its end. -/
def servedTurns : List Input :=
  [.call .served, .elapse, .call .served, .call .served, .call .served]

/-- The turns that are enough from a place on. -/
def needs (held : Held) : Place → List Input
  | .succeeded => []
  | .update => if held.isSome then [.call .served] else servedTurns
  | .refetch | .fallback _ =>
      if held.isSome then [.call .served, .call .served] else servedTurns
  | .create => [.call .served, .call .served, .call .served]
  | .backOff _ => [.elapse, .call .served, .call .served, .call .served]
  | .failed _ => servedTurns

theorem needs_of_some (held : Held) (current : StreamConfig) (place : Place) :
    (needs (some current) place).Sublist (needs held place) := by
  cases held <;> cases place <;> simp [needs, servedTurns]

theorem needs_served (held : Held) (place : Place) :
    (needs held place).Sublist servedTurns := by
  cases held <;> cases place <;> simp [needs, servedTurns]

theorem reconcile_needs (desired current : StreamConfig) :
    (needs (some current) (reconcile desired current)).Sublist [.call .served] ∧
      ∀ err, reconcile desired current ≠ .failed err := by
  unfold reconcile
  split <;> simp [needs]

/-- A comparison leaves at most the last call to be made, whatever else was needed before it. -/
theorem compared_needs (desired current : StreamConfig) (more : List Input) :
    (∀ err, reconcile desired current ≠ .failed err) ∧
      (needs (some current) (reconcile desired current)).Sublist
        (.call .served :: .call .served :: more) ∧
      ∀ rest, .call .served :: .call .served :: more = .call .served :: rest →
        (needs (some current) (reconcile desired current)).Sublist rest := by
  have compared := reconcile_needs desired current
  refine ⟨compared.2, compared.1.trans (by simp), ?_⟩
  intro rest same
  cases same
  exact compared.1.trans (by simp)

/-- The peer's own turn. If it is the one that is needed next, the rest is enough. -/
theorem own_needs (desired : StreamConfig) (input : Input) (held : Held) (progress : Progress)
    (served : input = .call .served ∨ input = .elapse)
    (unfailed : ∀ err, progress.place ≠ .failed err) :
    let next := ensureLoop desired input held progress
    (∀ err, next.2.place ≠ .failed err) ∧
      (needs next.1 next.2.place).Sublist (needs held progress.place) ∧
      ∀ rest, needs held progress.place = input :: rest →
        (needs next.1 next.2.place).Sublist rest := by
  rcases progress with ⟨attempt, place⟩
  rcases served with rfl | rfl
  · cases place with
    | create =>
        cases held with
        | none => exact compared_needs desired desired [.call .served]
        | some current =>
            simp only [ensureLoop, ensureOnce, serve, Place.calls, if_true]
            split
            · exact compared_needs desired current [.call .served]
            · simp [needs]
    | refetch | fallback first =>
        cases held with
        | none => simp [ensureLoop, ensureOnce, serve, Place.calls, onError, needs, servedTurns]
        | some current => exact compared_needs desired current []
    | update =>
        cases held with
        | none => simp [ensureLoop, ensureOnce, serve, Place.calls, onError, needs, servedTurns]
        | some current => simp [ensureLoop, ensureOnce, serve, Place.calls, needs]
    | backOff err | succeeded => simp [ensureLoop, ensureOnce, Place.calls, needs]
    | failed err => exact absurd rfl (unfailed err)
  · cases place with
    | failed err => exact absurd rfl (unfailed err)
    | update | refetch | fallback first =>
        cases held <;> simp [ensureLoop, needs, servedTurns]
    | create | backOff err | succeeded => simp [ensureLoop, needs]

/-- The turns of one peer. -/
def ownTurns (node : Node) (events : List (Node × Input)) : List Input :=
  (events.filter (fun event => event.1 = node)).map Prod.snd

theorem run_settles (opts : Node → StreamOptions) (node : Node) (events : List (Node × Input))
    (cluster : Cluster Node) (unfailed : ∀ err, (cluster.place node).place ≠ .failed err)
    (served : ∀ input ∈ ownTurns node events, input = .call .served ∨ input = .elapse)
    (enough : (needs cluster.shared (cluster.place node).place).Sublist (ownTurns node events)) :
    ((run (step clusterID opts) cluster events).place node).place = .succeeded := by
  induction events generalizing cluster with
  | nil =>
      have nothing := List.sublist_nil.1 enough
      cases place : (cluster.place node).place with
      | succeeded => exact place
      | failed err => exact absurd place (unfailed err)
      | _ =>
          rw [place] at nothing
          cases shared : cluster.shared <;> simp [shared, needs, servedTurns] at nothing
  | cons event events ih =>
      by_cases own : event.1 = node
      · have turns : ownTurns node (event :: events) = event.2 :: ownTurns node events := by
          simp [ownTurns, own]
        have placed : (step clusterID opts cluster event).place node =
            (ensureLoop (streamConfig clusterID (opts event.1)) event.2 cluster.shared
              (cluster.place node)).2 := by
          rw [← own]
          exact Function.update_self _ _ _
        have shared : (step clusterID opts cluster event).shared =
            (ensureLoop (streamConfig clusterID (opts event.1)) event.2 cluster.shared
              (cluster.place node)).1 := by
          rw [← own]
          rfl
        rw [turns, List.forall_mem_cons] at served
        rw [turns, List.sublist_cons_iff] at enough
        have moved := own_needs (streamConfig clusterID (opts event.1)) event.2 cluster.shared
          (cluster.place node) served.1 unfailed
        simp only [← placed, ← shared] at moved
        apply ih _ moved.1 served.2
        rcases enough with spare | ⟨rest, next, left⟩
        · exact moved.2.1.trans spare
        · exact (moved.2.2 rest next).trans left
      · have turns : ownTurns node (event :: events) = ownTurns node events := by
          simp [ownTurns, own]
        have placed : (step clusterID opts cluster event).place node = cluster.place node :=
          Function.update_of_ne (Ne.symm own) _ _
        have less : (needs (step clusterID opts cluster event).shared
            (cluster.place node).place).Sublist
              (needs cluster.shared (cluster.place node).place) := by
          rcases loop_held (streamConfig clusterID (opts event.1)) event.2 cluster.shared
            (cluster.place event.1) with same | written
          · rw [show (step clusterID opts cluster event).shared = cluster.shared from same]
          · rw [show (step clusterID opts cluster event).shared = _ from written]
            exact needs_of_some _ _ _
        rw [turns] at served enough
        apply ih
        · rw [placed]
          exact unfailed
        · exact served
        · rw [placed]
          exact less.trans enough

/-- Peers that want the same stream, in any interleaving and with any losses: the stream is the
one they found or the one they want, who has succeeded can rely on it from then on, and whoever
has not given up succeeds with the next of its calls that are served, whatever the others do in
between. -/
theorem ensure_history_stream_settles (opts : StreamOptions) (js : Node → Bool)
    (initial : Held) (events : List (Node × Input)) :
    let desired := streamConfig clusterID opts
    let cluster := run (step clusterID (fun _ => opts))
      (start formatDuration clusterID (fun _ => opts) js initial) events
    (cluster.shared = initial ∨ cluster.shared = some desired) ∧
      (∀ node, (cluster.place node).place = .succeeded →
        ∃ current, cluster.shared = some current ∧ current.agrees desired = true) ∧
      ∀ node later, (∀ err, (cluster.place node).place ≠ .failed err) →
        (∀ input ∈ ownTurns node later, input = .call .served ∨ input = .elapse) →
        servedTurns.Sublist (ownTurns node later) →
          ((run (step clusterID (fun _ => opts)) cluster later).place node).place =
            .succeeded := by
  intro desired cluster
  have annotated : Annotated (fun held => held = initial ∨ held = some desired)
      (Assured desired) cluster := by
    apply run_invariant (step clusterID (fun _ => opts)) _
    · intro before event kept
      apply turn_annotated _ _ (Assured desired) _ _ before event kept
      · intro node input held progress safe assured
        refine ⟨?_, loop_assured desired input held progress assured⟩
        rcases loop_held desired input held progress with same | written
        · rw [same]
          exact safe
        · exact .inr written
      · intro node input held progress other _ _ assured
        exact loop_keeps_assured desired input held progress other assured
    · refine ⟨.inl rfl, ?_⟩
      intro node ended
      simp only [start] at ended
      rcases entry_place formatDuration clusterID (js node) opts with begins | ⟨err, refused⟩
      · rw [begins] at ended
        cases ended
      · rw [refused] at ended
        cases ended
  refine ⟨annotated.1, annotated.2, ?_⟩
  intro node later unfailed served enough
  exact run_settles clusterID (fun _ => opts) node later cluster unfailed served
    ((needs_served cluster.shared (cluster.place node).place).trans enough)

end Settles

/-! ## Peers that want different streams -/

section Shrinks

variable {Node : Type} [DecidableEq Node]
variable (formatDuration : Int → String) (clusterID : String)
variable (opts : Node → StreamOptions) (js : Node → Bool)

/-- The peer gets past the checks before the first attempt. -/
def TakesPart (node : Node) : Prop :=
  (ensureHistoryStream formatDuration (js node) clusterID (opts node)).place = .create

/-- The stream has lost replicas. -/
def Shrinks (before after : Held) : Prop :=
  ∃ old new, before = some old ∧ after = some new ∧ new.replicas < old.replicas

/-- All peers that take part ask for the same count, and for no less than there is. -/
def Uniform (initial : Held) : Prop :=
  (∀ left right, TakesPart formatDuration clusterID opts js left →
      TakesPart formatDuration clusterID opts js right →
      (opts left).replicas = (opts right).replicas) ∧
    ∀ node, TakesPart formatDuration clusterID opts js node →
      ∀ stream, initial = some stream → stream.replicas ≤ (opts node).replicas

/-- Along the run nobody asks for less than there is, and a refused peer stays out. -/
structure Modest (cluster : Cluster Node) : Prop where
  refused : ∀ node, ¬TakesPart formatDuration clusterID opts js node →
    ∃ err, (cluster.place node).place = .failed err
  most : ∀ stream, cluster.shared = some stream →
    ∀ node, TakesPart formatDuration clusterID opts js node →
      stream.replicas ≤ (opts node).replicas

theorem failed_idle (desired : StreamConfig) (input : Input) (held : Held) (progress : Progress)
    (err : String) (place : progress.place = .failed err) :
    ensureLoop desired input held progress = (held, progress) := by
  rcases progress with ⟨attempt, _⟩
  subst place
  cases input <;> rfl

/-- A turn leaves the stream alone, or a peer that takes part writes what it wants. -/
theorem step_held (cluster : Cluster Node) (event : Node × Input)
    (modest : Modest formatDuration clusterID opts js cluster) :
    (step clusterID opts cluster event).shared = cluster.shared ∨
      TakesPart formatDuration clusterID opts js event.1 ∧
        (step clusterID opts cluster event).shared =
          some (streamConfig clusterID (opts event.1)) := by
  by_cases takes : TakesPart formatDuration clusterID opts js event.1
  · rcases loop_held (streamConfig clusterID (opts event.1)) event.2 cluster.shared
      (cluster.place event.1) with same | written
    · exact .inl same
    · exact .inr ⟨takes, written⟩
  · rcases modest.refused event.1 takes with ⟨err, failed⟩
    left
    simp only [step, turn, failed_idle _ _ _ _ err failed]

theorem step_modest (initial : Held) (uniform : Uniform formatDuration clusterID opts js initial)
    (cluster : Cluster Node) (event : Node × Input)
    (modest : Modest formatDuration clusterID opts js cluster) :
    Modest formatDuration clusterID opts js (step clusterID opts cluster event) where
  refused := by
    intro node outside
    rcases modest.refused node outside with ⟨err, failed⟩
    refine ⟨err, ?_⟩
    simp only [step, turn]
    by_cases same : node = event.1
    · subst same
      rw [Function.update_self, failed_idle _ _ _ _ err failed]
      exact failed
    · rw [Function.update_of_ne same]
      exact failed
  most := by
    intro stream held node takes
    rcases step_held formatDuration clusterID opts js cluster event modest with
      same | ⟨writer, written⟩
    · rw [same] at held
      exact modest.most stream held node takes
    · rw [written] at held
      cases held
      exact Int.le_of_eq (uniform.1 event.1 node writer takes)

theorem step_not_shrinks (cluster : Cluster Node) (event : Node × Input)
    (modest : Modest formatDuration clusterID opts js cluster) :
    ¬Shrinks cluster.shared (step clusterID opts cluster event).shared := by
  intro shrinks
  rcases shrinks with ⟨old, new, before, after, fewer⟩
  rcases step_held formatDuration clusterID opts js cluster event modest with
    same | ⟨writer, written⟩
  · rw [same, before] at after
    cases after
    exact absurd fewer (Int.lt_irrefl _)
  · rw [written] at after
    cases after
    have most := modest.most old before event.1 writer
    exact absurd (Int.lt_of_lt_of_le fewer most) (Int.lt_irrefl _)

/-- Without a shrinking step the replicas at the end are no fewer than at the start. -/
theorem replicas_kept (cluster : Cluster Node) (events : List (Node × Input))
    (meets : StepsMeet (step clusterID opts)
      (fun before event => ¬Shrinks before.shared (step clusterID opts before event).shared)
      cluster events)
    (old : StreamConfig) (before : cluster.shared = some old) :
    ∃ new, (run (step clusterID opts) cluster events).shared = some new ∧
      old.replicas ≤ new.replicas := by
  induction events generalizing cluster old with
  | nil => exact ⟨old, before, Int.le_refl _⟩
  | cons event events ih =>
      have next : ∃ new, (step clusterID opts cluster event).shared = some new ∧
          old.replicas ≤ new.replicas := by
        rcases loop_held (streamConfig clusterID (opts event.1)) event.2 cluster.shared
          (cluster.place event.1) with same | written
        · exact ⟨old, same.trans before, Int.le_refl _⟩
        · refine ⟨_, written, ?_⟩
          by_contra fewer
          exact meets.1 ⟨old, _, before, written, Int.not_le.1 fewer⟩
      rcases next with ⟨middle, now, least⟩
      rcases ih (step clusterID opts cluster event) meets.2 middle now with ⟨new, after, more⟩
      exact ⟨new, after, Int.le_trans least more⟩

/-- Three served calls of a peer that begins leave the count it asks for. -/
theorem served_calls_write (cluster : Cluster Node) (node : Node)
    (begins : (cluster.place node).place = .create) :
    ∃ stream, (run (step clusterID opts) cluster
        ([.call .served, .call .served, .call .served].map (Prod.mk node))).shared = some stream ∧
      stream.replicas = (opts node).replicas := by
  have turns := run_alone (fun node => ensureLoop (streamConfig clusterID (opts node))) cluster
    node [.call .served, .call .served, .call .served]
  have ended := run_settles clusterID opts node
    ([.call .served, .call .served, .call .served].map (Prod.mk node)) cluster
    (by rw [begins]; exact fun _ => Place.noConfusion) (by simp [ownTurns])
    (by rw [begins]; simp [ownTurns, needs])
  have place := congrFun (congrArg Crowd.place turns) node
  dsimp only at place
  rw [Function.update_self] at place
  rw [show (run (step clusterID opts) cluster _).place node = _ from place] at ended
  have assured := alone_assured (streamConfig clusterID (opts node))
    [.call .served, .call .served, .call .served] cluster.shared (cluster.place node)
    (by
      intro impossible
      rw [begins] at impossible
      cases impossible)
  rcases assured ended with ⟨stream, held, same⟩
  refine ⟨stream, ?_, agrees_replicas _ _ same⟩
  exact (congrArg Crowd.shared turns).trans held

theorem served_calls_others (cluster : Cluster Node) (node other : Node) (inputs : List Input)
    (different : other ≠ node) :
    (run (step clusterID opts) cluster (inputs.map (Prod.mk node))).place other =
      cluster.place other := by
  have turns := run_alone (fun node => ensureLoop (streamConfig clusterID (opts node))) cluster
    node inputs
  have place := congrFun (congrArg Crowd.place turns) other
  dsimp only at place
  rw [Function.update_of_ne different] at place
  exact place

/-- Unlike the cluster bucket, the history stream takes any count a peer asks for: no run of the
peers ever costs it replicas exactly if all that take part ask for the same count and none for
less than it has. -/
theorem history_stream_never_shrinks_iff (initial : Held) :
    (∀ events, StepsMeet (step clusterID opts)
        (fun before event => ¬Shrinks before.shared (step clusterID opts before event).shared)
        (start formatDuration clusterID opts js initial) events) ↔
      Uniform formatDuration clusterID opts js initial := by
  constructor
  · intro never
    let calls := fun node : Node =>
      [Input.call .served, .call .served, .call .served].map (Prod.mk node)
    constructor
    · -- the second peer finds what the first one left
      have ordered : ∀ left right, TakesPart formatDuration clusterID opts js left →
          TakesPart formatDuration clusterID opts js right →
          (opts left).replicas ≤ (opts right).replicas := by
        intro left right leftTakes rightTakes
        by_cases same : right = left
        · rw [same]
        · have meets := never (calls left ++ calls right)
          have later := ((steps_meet_append _ _ _ _ _).1 meets).2
          rcases served_calls_write clusterID opts
            (start formatDuration clusterID opts js initial) left leftTakes with
            ⟨first, held, count⟩
          have begins := served_calls_others clusterID opts
            (start formatDuration clusterID opts js initial) left right
            [.call .served, .call .served, .call .served] same
          rcases served_calls_write clusterID opts
            (run (step clusterID opts) (start formatDuration clusterID opts js initial)
              (calls left)) right ((congrArg Progress.place begins).trans rightTakes) with
            ⟨second, after, secondCount⟩
          rcases replicas_kept clusterID opts _ _ later first held with ⟨new, found, more⟩
          rw [after] at found
          cases found
          rw [← count, ← secondCount]
          exact more
      intro left right leftTakes rightTakes
      exact Int.le_antisymm (ordered left right leftTakes rightTakes)
        (ordered right left rightTakes leftTakes)
    · intro node takes stream found
      rcases served_calls_write clusterID opts
        (start formatDuration clusterID opts js initial) node takes with ⟨last, held, count⟩
      rcases replicas_kept clusterID opts _ _ (never (calls node)) stream found with
        ⟨new, after, more⟩
      rw [held] at after
      cases after
      rw [← count]
      exact more
  · intro uniform events
    apply steps_meet_of_invariant (step clusterID opts) (fun _ _ => True) _
      (Modest formatDuration clusterID opts js)
    · intro cluster event modest _
      exact step_not_shrinks formatDuration clusterID opts js cluster event modest
    · intro cluster event modest _
      exact step_modest formatDuration clusterID opts js initial uniform cluster event modest
    · exact
        { refused := by
            intro node outside
            rcases entry_place formatDuration clusterID (js node) (opts node) with begins | failed
            · exact absurd begins outside
            · exact failed
          most := fun stream held node takes => uniform.2 node takes stream held }
    · apply steps_meet_of_forall
      intro _ _
      trivial

end Shrinks

end PgmanProxy.History.StreamBootstrap
