import PgmanProxy.Library.GoStrings
import PgmanProxy.Library.CheckThenAct
import PgmanProxy.Library.Interleaving

/-!
# Pre-creation of the cluster bucket by concurrent peers

Every peer runs `PreCreateClusterKV` at boot. One attempt of it is a sequence of
JetStream calls, each of which is atomic, sees the bucket as it is at that moment
and may fail, before or after it took effect; a failed attempt is retried from the
start. A peer's place says which call comes next and what the attempt remembers of
its earlier reads.
-/

namespace PgmanProxy.Embedded.Bucket

open PgmanProxy.Library.CheckThenAct PgmanProxy.Library.GoStrings
  PgmanProxy.Library.Interleaving PgmanProxy.Library.Runs

set_option autoImplicit false

/-! ## Names -/

def bucketName (clusterID : String) : String :=
  "pgmgr_" ++ String.ofList (clusterID.toList.map (fun rune =>
    if isNameRune rune then rune else '_'))

def bucketStreamName (bucket : String) : String := "KV_" ++ bucket

/-! ## JetStream -/

/-- The part of a stream's configuration that the bucket code sets or carries along. -/
structure StreamConfig where
  name : String
  maxMsgsPerSubject : Int
  replicas : Int
  allowDirect : Bool
deriving DecidableEq, Repr

structure KeyValueConfig where
  bucket : String
  history : Int
  replicas : Int
deriving DecidableEq, Repr

/-- The stream that the KV API provisions: direct reads are always allowed. -/
def KeyValueConfig.stream (config : KeyValueConfig) : StreamConfig :=
  ⟨bucketStreamName config.bucket, config.history, config.replicas, true⟩

/-- The configuration that both `CreateKeyValue` and `UpdateKeyValue` are called with. -/
def clusterKV (name : String) (replicas : Int) : KeyValueConfig := ⟨name, 8, replicas⟩

def errBucketNotFound : String := "nats: bucket not found"

def errStreamNotFound : String :=
  "nats: API error: code=404 err_code=10059 description=stream not found"

/-- The bucket as JetStream holds it. -/
abbrev KV := Option StreamConfig

/-! ## One peer -/

/-- Where a peer stands in its call. -/
inductive Place where
  | lookUp
  | create
  | refetch
  | readStatus
  | upgrade (current : Int)
  | fetchStream
  | awaitLeader (scfg : StreamConfig)
  | tune (scfg : StreamConfig)
  | backOff (err : String)
  | succeeded
  | failed (err : String)
deriving DecidableEq, Repr

/-- What happens to a JetStream call: it is served, its request is lost, or it takes effect
and its answer is lost. -/
inductive Answer where
  | served
  | lost (err : String)
  | cut (err : String)
deriving DecidableEq, Repr

/-- A peer's turn: a call of the running attempt, or one of the three ways on after a
failed one. -/
inductive Input where
  | call (answer : Answer)
  | elapse
  | budgetSpent
  | cancelled (err : String)
deriving DecidableEq, Repr

/-- The peer's call: the number of the attempt and the place in it. -/
structure Progress where
  attempt : Nat
  place : Place
deriving DecidableEq, Repr

def Place.calls : Place → Bool
  | .backOff _ | .succeeded | .failed _ => false
  | _ => true

/-- The text an attempt fails with when the call it is at answers with `err`. -/
def failureText (name : String) (replicas : Int) (place : Place) (err : String) : String :=
  match place with
  | .lookUp => "look up cluster KV bucket " ++ quote name ++ ": " ++ err
  | .create =>
      "create cluster KV bucket " ++ quote name ++ " with replicas=" ++ toString replicas ++
        ": " ++ err
  | .refetch => "re-fetch cluster KV bucket " ++ quote name ++ " after create-race: " ++ err
  | .readStatus => "read cluster KV bucket " ++ quote name ++ " status: " ++ err
  | .upgrade current =>
      "upgrade cluster KV bucket " ++ quote name ++ " Replicas " ++ toString current ++ " -> " ++
        toString replicas ++ ": " ++ err
  | .fetchStream =>
      "fetch KV stream " ++ quote (bucketStreamName name) ++ " to tune AllowDirect: " ++ err
  | .awaitLeader _ =>
      "wait for KV stream " ++ quote (bucketStreamName name) ++
        " leader before AllowDirect tune: " ++ err
  | .tune _ =>
      "disable AllowDirect on KV stream " ++ quote (bucketStreamName name) ++ ": " ++ err
  | .backOff _ | .succeeded | .failed _ => err

def wouldShrink (name : String) (current replicas : Int) : String :=
  "cluster KV bucket " ++ quote name ++ " has Replicas=" ++ toString current ++ ", target " ++
    toString replicas ++ " (would shrink — FR-011a / RD-004); " ++
    "drop the bucket via the operator's recovery procedure to reduce the cluster's declared size"

/-- The call of a place, served: what it leaves in JetStream and where the attempt goes on. -/
def serve (name : String) (replicas : Int) (bucket : KV) (place : Place) : KV × Place :=
  let absent (err : String) := (bucket, Place.backOff (failureText name replicas place err))
  match place with
  | .lookUp =>
      match bucket with
      | none => (bucket, .create)
      | some _ => (bucket, .readStatus)
  | .create =>
      match bucket with
      | none => (some (clusterKV name replicas).stream, .readStatus)
      -- Race lost: another peer created the bucket since the lookup.
      | some _ => (bucket, .refetch)
  | .refetch =>
      match bucket with
      | none => absent errBucketNotFound
      | some _ => (bucket, .readStatus)
  | .readStatus =>
      match bucket with
      | none => absent errStreamNotFound
      | some stream =>
          if stream.replicas > replicas then
            (bucket, .backOff (wouldShrink name stream.replicas replicas))
          else if stream.replicas < replicas then (bucket, .upgrade stream.replicas)
          else (bucket, .fetchStream)
  | .upgrade _ =>
      match bucket with
      | none => absent errBucketNotFound
      | some _ => (some (clusterKV name replicas).stream, .fetchStream)
  | .fetchStream =>
      match bucket with
      | none => absent errStreamNotFound
      | some stream => (bucket, if stream.allowDirect then .awaitLeader stream else .succeeded)
  | .awaitLeader scfg => (bucket, .tune scfg)
  | .tune scfg =>
      match bucket with
      | none => absent errStreamNotFound
      | some _ => (some { scfg with allowDirect := false }, .succeeded)
  | .backOff _ | .succeeded | .failed _ => (bucket, place)

/-- One call of an attempt. -/
def tryPreCreateClusterKV (name : String) (replicas : Int) (answer : Answer) (bucket : KV)
    (place : Place) : KV × Place :=
  if place.calls then
    match answer with
    | .served => serve name replicas bucket place
    | .lost err => (bucket, .backOff (failureText name replicas place err))
    | .cut err =>
        ((serve name replicas bucket place).1, .backOff (failureText name replicas place err))
  else (bucket, place)

/-- The retry loop around the attempts. -/
def retryLoop (name : String) (replicas : Int) (input : Input) (bucket : KV)
    (progress : Progress) : KV × Progress :=
  match input, progress.place with
  | .call answer, place =>
      let next := tryPreCreateClusterKV name replicas answer bucket place
      (next.1, { progress with place := next.2 })
  | .cancelled err, .backOff _ => (bucket, { progress with place := .failed err })
  | .budgetSpent, .backOff err =>
      (bucket, { progress with
        place := .failed ("PreCreateClusterKV failed after " ++ toString progress.attempt ++
          " attempts: " ++ err) })
  | .elapse, .backOff _ => (bucket, ⟨progress.attempt + 1, .lookUp⟩)
  | _, _ => (bucket, progress)

/-- The connection a peer calls with, and what `jetstream.New` makes of it. -/
structure Caller where
  connected : Bool
  jetstream : Except String Unit

/-- The checks before the first attempt. -/
def preCreateClusterKV (caller : Caller) (clusterID : String) (replicas : Int) : Progress :=
  if !caller.connected then ⟨0, .failed "PreCreateClusterKV: nats connection is nil"⟩
  else if clusterID = "" then ⟨0, .failed "PreCreateClusterKV: clusterID is empty"⟩
  else if replicas < 1 then
    ⟨0, .failed ("PreCreateClusterKV: replicas must be >= 1, got " ++ toString replicas)⟩
  else
    match caller.jetstream with
    | .error err => ⟨0, .failed ("jetstream context: " ++ err)⟩
    | .ok () => ⟨1, .lookUp⟩

/-! ## All peers of a cluster -/

section Peers

variable {Node : Type} [DecidableEq Node]

abbrev Cluster (Node : Type) := Crowd Node KV Progress

def start (clusterID : String) (targets : Node → Int) (callers : Node → Caller) (bucket : KV) :
    Cluster Node :=
  ⟨bucket, fun node => preCreateClusterKV (callers node) clusterID (targets node)⟩

def peer (clusterID : String) (targets : Node → Int) (node : Node) (input : Input) (bucket : KV)
    (progress : Progress) : KV × Progress :=
  retryLoop (bucketName clusterID) (targets node) input bucket progress

def step (clusterID : String) (targets : Node → Int) (cluster : Cluster Node)
    (event : Node × Input) : Cluster Node :=
  turn (peer clusterID targets) cluster event

end Peers

/-! ## What a turn writes -/

section Writes

variable (name : String) (replicas : Int)

/-- The only three writes: creation where there is no bucket, the replica upgrade, and the
write-back of the remembered stream configuration. -/
theorem serve_bucket (bucket : KV) (place : Place) :
    (serve name replicas bucket place).1 = bucket ∨
      (bucket = none ∧ place = .create ∧
        (serve name replicas bucket place).1 = some (clusterKV name replicas).stream) ∨
      (∃ stream current, bucket = some stream ∧ place = .upgrade current ∧
        (serve name replicas bucket place).1 = some (clusterKV name replicas).stream) ∨
      ∃ stream scfg, bucket = some stream ∧ place = .tune scfg ∧
        (serve name replicas bucket place).1 = some { scfg with allowDirect := false } := by
  cases place with
  | create =>
      cases bucket with
      | none => exact .inr (.inl ⟨rfl, rfl, rfl⟩)
      | some stream => exact .inl rfl
  | upgrade current =>
      cases bucket with
      | none => exact .inl rfl
      | some stream => exact .inr (.inr (.inl ⟨stream, current, rfl, rfl, rfl⟩))
  | tune scfg =>
      cases bucket with
      | none => exact .inl rfl
      | some stream => exact .inr (.inr (.inr ⟨stream, scfg, rfl, rfl, rfl⟩))
  | readStatus =>
      cases bucket with
      | none => exact .inl rfl
      | some stream =>
          refine .inl ?_
          simp only [serve]
          split
          · rfl
          · split <;> rfl
  | lookUp | refetch | fetchStream => cases bucket <;> exact .inl rfl
  | awaitLeader _ | backOff _ | succeeded | failed _ => exact .inl rfl

/-- The call reached JetStream and took effect. -/
def Input.applies : Input → Bool
  | .call .served | .call (.cut _) => true
  | _ => false

/-- A turn writes what its call writes when served, or nothing. -/
theorem loop_bucket (input : Input) (bucket : KV) (progress : Progress) :
    (retryLoop name replicas input bucket progress).1 =
      if input.applies then (serve name replicas bucket progress.place).1 else bucket := by
  obtain ⟨attempt, place⟩ := progress
  cases input with
  | call answer =>
      have idle : place.calls = false → (serve name replicas bucket place).1 = bucket := by
        intro quiet
        cases place <;> first | rfl | cases quiet
      simp only [retryLoop, tryPreCreateClusterKV]
      by_cases calling : place.calls = true
      · cases answer <;> simp [calling, Input.applies]
      · rw [Bool.not_eq_true] at calling
        cases answer <;> simp [calling, Input.applies, idle calling]
  | elapse => cases place <;> rfl
  | budgetSpent => cases place <;> rfl
  | cancelled err => cases place <;> rfl

/-- Where a turn can leave the peer: at the served call's next place, at the start of the next
attempt, out of the running ones, or where it was. -/
theorem loop_place (input : Input) (bucket : KV) (progress : Progress) :
    (input = .call .served ∧ progress.place.calls = true ∧
        (retryLoop name replicas input bucket progress).2.place =
          (serve name replicas bucket progress.place).2) ∨
      (retryLoop name replicas input bucket progress).2.place = .lookUp ∨
      (∃ err, (retryLoop name replicas input bucket progress).2.place = .backOff err) ∨
      (∃ err, (retryLoop name replicas input bucket progress).2.place = .failed err) ∨
      ((input.applies = false ∨ progress.place.calls = false) ∧
        retryLoop name replicas input bucket progress = (bucket, progress)) := by
  obtain ⟨attempt, place⟩ := progress
  cases input with
  | call answer =>
      by_cases calling : place.calls = true
      · cases answer with
        | served =>
            refine .inl ⟨rfl, calling, ?_⟩
            simp [retryLoop, tryPreCreateClusterKV, calling]
        | lost err =>
            refine .inr (.inr (.inl ⟨failureText name replicas place err, ?_⟩))
            simp [retryLoop, tryPreCreateClusterKV, calling]
        | cut err =>
            refine .inr (.inr (.inl ⟨failureText name replicas place err, ?_⟩))
            simp [retryLoop, tryPreCreateClusterKV, calling]
      · refine .inr (.inr (.inr (.inr ⟨.inr (Bool.not_eq_true _ ▸ calling), ?_⟩)))
        simp [retryLoop, tryPreCreateClusterKV, calling]
  | elapse =>
      cases place with
      | backOff err => exact .inr (.inl rfl)
      | _ => exact .inr (.inr (.inr (.inr ⟨.inl rfl, rfl⟩)))
  | budgetSpent =>
      cases place with
      | backOff err => exact .inr (.inr (.inr (.inl ⟨_, rfl⟩)))
      | _ => exact .inr (.inr (.inr (.inr ⟨.inl rfl, rfl⟩)))
  | cancelled reason =>
      cases place with
      | backOff err => exact .inr (.inr (.inr (.inl ⟨reason, rfl⟩)))
      | _ => exact .inr (.inr (.inr (.inr ⟨.inl rfl, rfl⟩)))

end Writes

/-! ## One target for all peers -/

section Converges

/-- No more replicas than the peers ask for. -/
def Bounded (target : Int) (bucket : KV) : Prop :=
  ∀ stream, bucket = some stream → stream.replicas ≤ target

def AtTarget (target : Int) (bucket : KV) : Prop :=
  ∃ stream, bucket = some stream ∧ stream.replicas = target

/-- What a peer past the replica check knows: the bucket has the target count, and so has the
stream configuration the peer remembers. -/
def Assured (target : Int) (bucket : KV) (place : Place) : Prop :=
  match place with
  | .fetchStream | .succeeded => AtTarget target bucket
  | .awaitLeader scfg | .tune scfg => AtTarget target bucket ∧ scfg.replicas = target
  | _ => True

def AllowsDirect (bucket : KV) : Prop :=
  ∃ stream, bucket = some stream ∧ stream.allowDirect = true

variable (name : String) (target : Int)

/-- Every write of a peer that is where it can be leaves the target count. -/
theorem serve_writes_target (bucket : KV) (place : Place) (assured : Assured target bucket place) :
    (serve name target bucket place).1 = bucket ∨
      AtTarget target (serve name target bucket place).1 := by
  rcases serve_bucket name target bucket place with
    same | ⟨_, _, written⟩ | ⟨_, _, _, _, written⟩ | ⟨stream, scfg, _, tuning, written⟩
  · exact .inl same
  · exact .inr ⟨_, written, rfl⟩
  · exact .inr ⟨_, written, rfl⟩
  · subst tuning
    exact .inr ⟨_, written, assured.2⟩

theorem loop_writes_target (input : Input) (bucket : KV) (progress : Progress)
    (assured : Assured target bucket progress.place) :
    (retryLoop name target input bucket progress).1 = bucket ∨
      AtTarget target (retryLoop name target input bucket progress).1 := by
  rw [loop_bucket]
  split
  · exact serve_writes_target name target bucket progress.place assured
  · exact .inl rfl

theorem bounded_of_at_target (bucket : KV) (reached : AtTarget target bucket) :
    Bounded target bucket := by
  obtain ⟨stream, held, count⟩ := reached
  intro other same
  rw [held, Option.some.injEq] at same
  rw [← same]
  exact Int.le_of_eq count

/-- Once reached, the target count stays, whoever moves. -/
theorem loop_at_target (input : Input) (bucket : KV) (progress : Progress)
    (assured : Assured target bucket progress.place) (reached : AtTarget target bucket) :
    AtTarget target (retryLoop name target input bucket progress).1 := by
  rcases loop_writes_target name target input bucket progress assured with same | written
  · rw [same]
    exact reached
  · exact written

theorem loop_bounded (input : Input) (bucket : KV) (progress : Progress)
    (assured : Assured target bucket progress.place) (bounded : Bounded target bucket) :
    Bounded target (retryLoop name target input bucket progress).1 := by
  rcases loop_writes_target name target input bucket progress assured with same | written
  · rw [same]
    exact bounded
  · exact bounded_of_at_target target _ written

theorem assured_of_at_target (bucket next : KV) (place : Place)
    (stays : AtTarget target bucket → AtTarget target next)
    (assured : Assured target bucket place) : Assured target next place := by
  cases place with
  | fetchStream | succeeded => exact stays assured
  | awaitLeader scfg | tune scfg => exact ⟨stays assured.1, assured.2⟩
  | lookUp | create | refetch | readStatus | upgrade _ | backOff _ | failed _ => trivial

/-- The replica check, the upgrade and the stream fetch establish what the peer goes on with. -/
theorem serve_assured (bucket : KV) (place : Place) (bounded : Bounded target bucket)
    (assured : Assured target bucket place) :
    Assured target (serve name target bucket place).1 (serve name target bucket place).2 := by
  cases place with
  | readStatus =>
      cases bucket with
      | none => trivial
      | some stream =>
          have most : stream.replicas ≤ target := bounded stream rfl
          simp only [serve]
          split
          · trivial
          · split
            · trivial
            · have count : stream.replicas = target := by omega
              exact ⟨stream, rfl, count⟩
  | upgrade current =>
      cases bucket with
      | none => trivial
      | some stream => exact ⟨_, rfl, rfl⟩
  | fetchStream =>
      obtain ⟨stream, held, count⟩ := assured
      subst held
      simp only [serve]
      cases stream.allowDirect with
      | true => exact ⟨⟨stream, rfl, count⟩, count⟩
      | false => exact ⟨stream, rfl, count⟩
  | awaitLeader scfg => exact assured
  | tune scfg =>
      obtain ⟨⟨stream, held, _⟩, count⟩ := assured
      subst held
      exact ⟨_, rfl, count⟩
  | succeeded => exact assured
  | lookUp | create | refetch => cases bucket <;> trivial
  | backOff _ | failed _ => trivial

theorem loop_assured (input : Input) (bucket : KV) (progress : Progress)
    (bounded : Bounded target bucket) (assured : Assured target bucket progress.place) :
    Assured target (retryLoop name target input bucket progress).1
      (retryLoop name target input bucket progress).2.place := by
  rcases loop_place name target input bucket progress with
    ⟨served, _, moved⟩ | moved | ⟨err, moved⟩ | ⟨err, moved⟩ | ⟨-, idle⟩
  · have written : (retryLoop name target input bucket progress).1 =
        (serve name target bucket progress.place).1 := by
      rw [loop_bucket, served]
      rfl
    rw [written, moved]
    exact serve_assured name target bucket progress.place bounded assured
  · rw [moved]
    trivial
  · rw [moved]
    trivial
  · rw [moved]
    trivial
  · rw [idle]
    exact assured

/-- A call that succeeds has just seen or made the stream one without direct reads. -/
theorem serve_succeeded (replicas : Int) (bucket : KV) (place : Place)
    (calling : place.calls = true)
    (ended : (serve name replicas bucket place).2 = .succeeded) :
    ¬ AllowsDirect (serve name replicas bucket place).1 := by
  rintro ⟨stream, left, direct⟩
  cases place with
  | fetchStream =>
      cases bucket with
      | none => cases ended
      | some held =>
          cases left
          simp [serve, direct] at ended
  | tune scfg =>
      cases bucket with
      | none => cases ended
      | some held =>
          cases left
          cases direct
  | readStatus =>
      cases bucket with
      | none => cases ended
      | some held =>
          simp only [serve] at ended
          split at ended
          · cases ended
          · split at ended <;> cases ended
  | lookUp | create | refetch | upgrade _ => cases bucket <;> cases ended
  | awaitLeader _ => cases ended
  | backOff _ | succeeded | failed _ => cases calling

theorem loop_succeeded (replicas : Int) (input : Input) (bucket : KV) (progress : Progress)
    (direct : AllowsDirect (retryLoop name replicas input bucket progress).1)
    (ended : (retryLoop name replicas input bucket progress).2.place = .succeeded) :
    retryLoop name replicas input bucket progress = (bucket, progress) := by
  rcases loop_place name replicas input bucket progress with
    ⟨served, calling, moved⟩ | moved | ⟨err, moved⟩ | ⟨err, moved⟩ | ⟨-, idle⟩
  · rw [moved] at ended
    have written : (retryLoop name replicas input bucket progress).1 =
        (serve name replicas bucket progress.place).1 := by
      rw [loop_bucket, served]
      rfl
    rw [written] at direct
    exact absurd direct (serve_succeeded name replicas bucket progress.place calling ended)
  · rw [moved] at ended
    cases ended
  · rw [moved] at ended
    cases ended
  · rw [moved] at ended
    cases ended
  · exact idle

theorem entry_place (caller : Caller) (clusterID : String) (replicas : Int) :
    (preCreateClusterKV caller clusterID replicas).place = .lookUp ∨
      ∃ err, (preCreateClusterKV caller clusterID replicas).place = .failed err := by
  unfold preCreateClusterKV
  split
  · exact .inr ⟨_, rfl⟩
  · split
    · exact .inr ⟨_, rfl⟩
    · split
      · exact .inr ⟨_, rfl⟩
      · split
        · exact .inr ⟨_, rfl⟩
        · exact .inl rfl

theorem entry_assured (caller : Caller) (clusterID : String) (bucket : KV) :
    Assured target bucket (preCreateClusterKV caller clusterID target).place := by
  rcases entry_place caller clusterID target with looking | ⟨err, refused⟩
  · rw [looking]
    trivial
  · rw [refused]
    trivial

theorem entry_not_succeeded (caller : Caller) (clusterID : String) (replicas : Int) :
    (preCreateClusterKV caller clusterID replicas).place ≠ .succeeded := by
  intro ended
  rcases entry_place caller clusterID replicas with looking | ⟨err, refused⟩
  · rw [looking] at ended
    cases ended
  · rw [refused] at ended
    cases ended

variable {Node : Type}

/-- The bucket stays within the target, and each peer's assertion about it holds. -/
def Agreed (target : Int) (cluster : Cluster Node) : Prop :=
  Annotated (Bounded target) (fun held progress => Assured target held progress.place) cluster

theorem start_agreed (clusterID : String) (callers : Node → Caller) (bucket : KV)
    (bounded : Bounded target bucket) :
    Agreed target (start clusterID (fun _ => target) callers bucket) :=
  ⟨bounded, fun node => entry_assured target (callers node) clusterID bucket⟩

variable [DecidableEq Node]

theorem step_agreed (clusterID : String) (cluster : Cluster Node) (event : Node × Input)
    (agreed : Agreed target cluster) :
    Agreed target (step clusterID (fun _ => target) cluster event) := by
  apply turn_annotated (peer clusterID (fun _ => target)) _ _ _ _ cluster event agreed
  · intro node input held progress safe assured
    exact ⟨loop_bounded _ target input held progress assured safe,
      loop_assured _ target input held progress safe assured⟩
  · intro node input held progress other _ assured asserted
    apply assured_of_at_target target held _ other.place _ asserted
    exact loop_at_target _ target input held progress assured

/-- In every interleaving, while direct reads are allowed some peer has yet to succeed. -/
theorem run_direct_pending [Nonempty Node] (clusterID : String) (targets : Node → Int)
    (callers : Node → Caller) (bucket : KV) (turns : List (Node × Input)) :
    Pending AllowsDirect (fun progress => progress.place = .succeeded)
      (run (step clusterID targets) (start clusterID targets callers bucket) turns) := by
  apply run_pending (peer clusterID targets)
  · intro node input held progress direct ended
    exact loop_succeeded _ (targets node) input held progress direct ended
  · intro _
    obtain ⟨node⟩ := ‹Nonempty Node›
    exact ⟨node, entry_not_succeeded (callers node) clusterID (targets node)⟩

/-- Peers that all ask for the same count, however their calls interleave, fail and are
retried, leave a bucket with that count and without direct reads once all have succeeded. -/
theorem concurrent_pre_create_converges [Nonempty Node] (clusterID : String)
    (callers : Node → Caller) (bucket : KV)
    (bounded : ∀ stream, bucket = some stream → stream.replicas ≤ target)
    (turns : List (Node × Input))
    (all : ∀ node, ((run (step clusterID (fun _ => target))
      (start clusterID (fun _ => target) callers bucket) turns).place node).place = .succeeded) :
    ∃ stream, (run (step clusterID (fun _ => target))
        (start clusterID (fun _ => target) callers bucket) turns).shared = some stream ∧
      stream.replicas = target ∧ stream.allowDirect = false := by
  have agreed := run_invariant (step clusterID (fun _ => target)) (Agreed target)
    (step_agreed target clusterID) _ (start_agreed target clusterID callers bucket bounded) turns
  have pending := run_direct_pending clusterID (fun _ => target) callers bucket turns
  generalize run (step clusterID (fun _ => target))
    (start clusterID (fun _ => target) callers bucket) turns = final at *
  obtain ⟨node⟩ := ‹Nonempty Node›
  have known : Assured target final.shared (final.place node).place := agreed.2 node
  rw [all node] at known
  obtain ⟨stream, held, count⟩ := known
  refine ⟨stream, held, count, ?_⟩
  by_contra direct
  rw [Bool.not_eq_false] at direct
  obtain ⟨late, unfinished⟩ := pending ⟨stream, held, direct⟩
  exact unfinished (all late)

def ready : Caller := ⟨true, .ok ()⟩

def go {Node : Type} (node : Node) : Node × Input := (node, .call .served)

/-- Two peers that race for the creation; the winner never sees its answer and starts over. -/
def race : List (Bool × Input) :=
  [go false, go true, (true, .call (.cut "timeout")), go false, go false, (true, .elapse),
    go false, go false, go true, go true, go false, go true, go true, go false, go true]

theorem race_converges :
    ∃ stream, (run (step "main" (fun _ : Bool => 3))
        (start "main" (fun _ => 3) (fun _ => ready) none) race).shared = some stream ∧
      stream.replicas = 3 ∧ stream.allowDirect = false :=
  concurrent_pre_create_converges 3 "main" (fun _ => ready) none
    (fun _ held => nomatch held) race (by decide)

end Converges

/-! ## Different targets -/

section Shrinks

variable {Node : Type}

/-- The bucket is still there and has lost no replica. -/
def NotLowered (before after : KV) : Prop :=
  ∀ stream ∈ before, ∃ next ∈ after, stream.replicas ≤ next.replicas

/-- What the turn of a peer does to the replica count: it reads the count or writes it. A read whose
answer is lost tells the peer nothing. -/
def accesses (node : Node) (target : Int) (input : Input) (bucket : KV) (place : Place) :
    List (Access Node Int) :=
  match bucket, place with
  | some _, .readStatus | some _, .fetchStream =>
      if input = .call .served then [.read node] else []
  | none, .create | some _, .upgrade _ => if input.applies then [.write node target] else []
  | some _, .tune scfg => if input.applies then [.write node scfg.replicas] else []
  | _, _ => []

def count (bucket : KV) : Option Int := bucket.map StreamConfig.replicas

theorem not_lowered_iff_count (before after : KV) :
    NotLowered before after ↔
      ∀ present ∈ count before, ∃ later ∈ count after, present ≤ later := by
  simp [NotLowered, count]

section Turn

variable (name : String) (node : Node) (target : Int) (input : Input) (bucket : KV)

theorem accesses_cases (place : Place) :
    accesses node target input bucket place = [] ∨
      accesses node target input bucket place = [.read node] ∨
      ∃ value, accesses node target input bucket place = [.write node value] ∧
        (bucket = none ∨ (∃ current, place = .upgrade current ∧ value = target) ∨
          ∃ scfg, place = .tune scfg ∧ value = scfg.replicas) := by
  unfold accesses
  split
  · split
    · exact .inr (.inl rfl)
    · exact .inl rfl
  · split
    · exact .inr (.inl rfl)
    · exact .inl rfl
  · split
    · exact .inr (.inr ⟨target, rfl, .inl rfl⟩)
    · exact .inl rfl
  · split
    · exact .inr (.inr ⟨target, rfl, .inr (.inl ⟨_, rfl, rfl⟩)⟩)
    · exact .inl rfl
  · split
    · exact .inr (.inr ⟨_, rfl, .inr (.inr ⟨_, rfl, rfl⟩)⟩)
    · exact .inl rfl
  · exact .inl rfl

theorem accesses_own (place : Place) :
    ∀ access ∈ accesses node target input bucket place, access.node = node := by
  rcases accesses_cases node target input bucket place with
    same | same | ⟨value, same, -⟩ <;> simp [same, Access.node]

theorem accesses_of_unapplied (place : Place) (unapplied : input.applies = false) :
    accesses node target input bucket place = [] := by
  have unserved : input ≠ .call .served := by
    intro served
    rw [served] at unapplied
    cases unapplied
  cases bucket <;> cases place <;> simp [accesses, unapplied, unserved]

/-- The log tells the replica count. -/
theorem loop_count (progress : Progress) :
    count (retryLoop name target input bucket progress).1 =
      run Access.apply (count bucket) (accesses node target input bucket progress.place) := by
  rw [loop_bucket]
  cases applies : input.applies with
  | false =>
      rw [accesses_of_unapplied node target input bucket progress.place applies]
      rfl
  | true =>
      cases bucket with
      | none => cases progress.place <;> simp [accesses, applies, serve, run, count, Access.apply,
          clusterKV, KeyValueConfig.stream]
      | some stream =>
          cases progress.place with
          | readStatus =>
              simp only [serve, accesses, if_true]
              split <;> split <;> try split
              all_goals rfl
          | fetchStream =>
              simp only [serve, accesses]
              split <;> split <;> rfl
          | _ => simp [accesses, applies, serve, run, count, Access.apply, clusterKV,
              KeyValueConfig.stream]

theorem loop_not_lowered_iff (progress : Progress) :
    NotLowered bucket (retryLoop name target input bucket progress).1 ↔
      NeverLowered (count bucket) (accesses node target input bucket progress.place) := by
  rw [not_lowered_iff_count, loop_count name node target input bucket progress]
  have stays : ∀ present ∈ count bucket, ∃ later ∈ count bucket, present ≤ later := by
    intro present found
    exact ⟨present, found, Int.le_refl present⟩
  rcases accesses_cases node target input bucket progress.place with
    same | same | ⟨value, same, -⟩
  · rw [same]
    exact iff_of_true stays trivial
  · rw [same]
    exact iff_of_true stays ⟨trivial, trivial⟩
  · rw [same]
    simp [NeverLowered, StepsMeet, run, Access.apply, Access.Keeps]

/-- What the write that a peer is on its way to rests on. -/
def Rests (held : Option Int) (log : List (Access Node Int)) (node : Node) (target : Int) :
    Place → Prop
  | .upgrade _ => Checked held log node target
  | .awaitLeader scfg | .tune scfg => Checked held log node scfg.replicas
  | _ => True

variable (held : Option Int) (log : List (Access Node Int))

/-- The shrink guard: a peer goes on to the upgrade only from a count below its target. -/
theorem serve_rests (place : Place) (told : count bucket = run Access.apply held log)
    (rests : Rests held log node target place) :
    Rests held (log ++ accesses node target (.call .served) bucket place) node target
      (serve name target bucket place).2 := by
  cases place with
  | readStatus =>
      cases bucket with
      | none => trivial
      | some stream =>
          simp only [serve]
          split
          · trivial
          · split
            · apply checked_read
              rw [← told]
              intro present found
              cases found
              omega
            · trivial
  | fetchStream =>
      cases bucket with
      | none => trivial
      | some stream =>
          simp only [serve]
          split
          · apply checked_read
            rw [← told]
            intro present found
            cases found
            exact Int.le_refl _
          · trivial
  | awaitLeader scfg =>
      cases bucket <;> exact checked_append held log _ node _ (by simp [accesses]) rests
  | lookUp | create | refetch | upgrade _ | tune _ => cases bucket <;> trivial
  | backOff _ | succeeded | failed _ => trivial

theorem loop_rests (progress : Progress) (told : count bucket = run Access.apply held log)
    (rests : Rests held log node target progress.place) :
    Rests held (log ++ accesses node target input bucket progress.place) node target
      (retryLoop name target input bucket progress).2.place := by
  rcases loop_place name target input bucket progress with
    ⟨served, _, moved⟩ | moved | ⟨err, moved⟩ | ⟨err, moved⟩ | ⟨quiet, idle⟩
  · rw [moved, served]
    exact serve_rests name node target bucket held log progress.place told rests
  · rw [moved]
    trivial
  · rw [moved]
    trivial
  · rw [moved]
    trivial
  · rw [idle]
    rcases quiet with unapplied | resting
    · rw [accesses_of_unapplied node target input bucket progress.place unapplied,
        List.append_nil]
      exact rests
    · cases place : progress.place with
      | upgrade _ | awaitLeader _ | tune _ =>
          rw [place] at resting
          cases resting
      | _ => trivial

theorem loop_guarded (place : Place) (told : count bucket = run Access.apply held log)
    (guarded : Guarded held log) (rests : Rests held log node target place) :
    Guarded held (log ++ accesses node target input bucket place) := by
  rcases accesses_cases node target input bucket place with
    same | same | ⟨value, same, from_place⟩
  · rw [same, List.append_nil]
    exact guarded
  · rw [same]
    exact guarded_snoc held log _ guarded (fun _ _ clash => nomatch clash)
  · rw [same]
    apply guarded_snoc held log _ guarded
    intro writer written last
    cases last
    rcases from_place with empty | ⟨current, upgrading, count⟩ | ⟨scfg, tuning, count⟩
    · left
      rw [← told, empty]
      rfl
    · right
      rw [upgrading] at rests
      rw [count]
      exact rests
    · right
      rw [tuning] at rests
      rw [count]
      exact rests

end Turn

/-- Every write so far has been checked, and so will be the next one of every peer. -/
structure Vetted (held : Option Int) (targets : Node → Int) (cluster : Cluster Node)
    (log : List (Access Node Int)) : Prop where
  told : count cluster.shared = run Access.apply held log
  guarded : Guarded held log
  rests : ∀ node, Rests held log node (targets node) (cluster.place node).place

theorem start_vetted (clusterID : String) (targets : Node → Int) (callers : Node → Caller)
    (bucket : KV) :
    Vetted (count bucket) targets (start clusterID targets callers bucket) [] := by
  refine ⟨rfl, ?_, ?_⟩
  · intro before after node value whole
    cases before <;> cases whole
  · intro node
    rcases entry_place (callers node) clusterID (targets node) with looking | ⟨err, refused⟩
    · simp only [start, looking, Rests]
    · simp only [start, refused, Rests]

variable [DecidableEq Node]

/-- No turn of the run lowers the replica count. -/
def NeverShrinks (clusterID : String) (targets : Node → Int) (cluster : Cluster Node)
    (turns : List (Node × Input)) : Prop :=
  StepsMeet (step clusterID targets)
    (fun now event => NotLowered now.shared (step clusterID targets now event).shared)
    cluster turns

/-- The reads and writes of the replica count, in the order of the run. -/
def accessLog (clusterID : String) (targets : Node → Int) (cluster : Cluster Node)
    (turns : List (Node × Input)) : List (Access Node Int) :=
  trail (step clusterID targets)
    (fun now event =>
      accesses event.1 (targets event.1) event.2 now.shared (now.place event.1).place)
    cluster turns

theorem step_vetted (clusterID : String) (targets : Node → Int) (held : Option Int)
    (cluster : Cluster Node) (event : Node × Input) (log : List (Access Node Int))
    (vetted : Vetted held targets cluster log) :
    Vetted held targets (step clusterID targets cluster event)
      (log ++ accesses event.1 (targets event.1) event.2 cluster.shared
        (cluster.place event.1).place) := by
  constructor
  · rw [run_append, ← vetted.told]
    exact loop_count _ event.1 _ event.2 cluster.shared (cluster.place event.1)
  · exact loop_guarded _ _ _ _ _ log _ vetted.told vetted.guarded (vetted.rests event.1)
  · intro node
    by_cases same : node = event.1
    · rw [same]
      simp only [step, turn, Function.update_self]
      exact loop_rests _ _ _ _ _ _ log _ vetted.told (vetted.rests event.1)
    · have others : ∀ access ∈ accesses event.1 (targets event.1) event.2 cluster.shared
          (cluster.place event.1).place, access.node ≠ node := by
        intro access member
        rw [accesses_own _ _ _ _ _ access member]
        exact Ne.symm same
      have before := vetted.rests node
      simp only [step, turn, Function.update_of_ne same]
      cases place : (cluster.place node).place with
      | upgrade _ | awaitLeader _ | tune _ =>
          rw [place] at before
          exact checked_append held log _ node _ others before
      | _ => trivial

/-- Whatever the targets, a run never shrinks the bucket exactly if between the read of a peer and
the write that rests on it no other peer has written a larger count. -/
theorem pre_create_never_shrinks_iff (clusterID : String) (targets : Node → Int)
    (callers : Node → Caller) (bucket : KV) (turns : List (Node × Input)) :
    NeverShrinks clusterID targets (start clusterID targets callers bucket) turns ↔
      Undisturbed (accessLog clusterID targets (start clusterID targets callers bucket) turns) := by
  have vetted := trail_invariant (step clusterID targets) _ (Vetted (count bucket) targets)
    (step_vetted clusterID targets (count bucket)) _ (start_vetted clusterID targets callers bucket)
    turns
  rw [accessLog, ← never_lowered_iff_undisturbed (count bucket) _ vetted.guarded]
  apply steps_meet_trail (step clusterID targets) _ Access.apply (fun now => count now.shared)
  · intro cluster event
    exact loop_count _ event.1 _ event.2 cluster.shared (cluster.place event.1)
  · intro cluster event
    exact loop_not_lowered_iff _ event.1 _ event.2 cluster.shared (cluster.place event.1)

/-- One peer already runs with the new declared size, the other still with the old one. -/
def rollingTargets (node : Bool) : Int := if node then 5 else 3

def sampleBucket (replicas : Int) (allowDirect : Bool) : KV :=
  some ⟨"KV_pgmgr_main", 8, replicas, allowDirect⟩

/-- The old peer's upgrade to three replicas lands after the new peer's to five; or its
write-back of a configuration with three does. -/
theorem overtaken_write_shrinks :
    ¬ NeverShrinks "main" rollingTargets
        (start "main" rollingTargets (fun _ => ready) (sampleBucket 1 false))
        [go false, go false, go true, go true, go true, go false] ∧
      ¬ NeverShrinks "main" rollingTargets
        (start "main" rollingTargets (fun _ => ready) (sampleBucket 3 true))
        [go false, go false, go false, go false, go true, go true, go true, go false] := by
  constructor
  · intro meets
    have kept := steps_meet_at _ _ _ [go false, go false, go true, go true, go true] [] (go false)
      meets
    revert kept
    unfold NotLowered
    decide
  · intro meets
    have kept := steps_meet_at _ _ _
      [go false, go false, go false, go false, go true, go true, go true] [] (go false) meets
    revert kept
    unfold NotLowered
    decide

end Shrinks

end PgmanProxy.Embedded.Bucket
