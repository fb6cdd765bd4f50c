import Mathlib.Data.List.Basic
import PgmanProxy.Library.Runs
import PgmanProxy.Pgmctl.PromotionTTL
import PgmanProxy.Pgmctl.Sse

/-!
# Reconnecting a watch stream

`Tail` opens one connection after the other. The count of its attempts and the delay
before the next one are set once, before the loop, and a connection that delivered
frames does not set them back. So the count is one of connections lost since the
command started.
-/

namespace PgmanProxy.Pgmctl.Reconnects

open PgmanProxy.Library.Runs
open PgmanProxy.Pgmctl.PromotionTTL (second)
open PgmanProxy.Pgmctl.Sse (Frame Tail pipeFrames)

set_option autoImplicit false

/-! ## The loop -/

structure ReconnectPolicy where
  base : Int
  /-- What multiplying by `Factor` in floating point makes of a delay. -/
  scale : Int → Int
  cap : Int
  maxAttempts : Int

def millisecond : Int := 1000000

def defaultReconnectPolicy : ReconnectPolicy where
  base := 250 * millisecond
  scale := fun delay => 2 * delay
  cap := 10 * second
  maxAttempts := 30

/-- The policy `Tail` goes by. -/
def ReconnectPolicy.effective (policy : ReconnectPolicy) : ReconnectPolicy :=
  if policy.base = 0 then defaultReconnectPolicy else policy

def ReconnectPolicy.next (policy : ReconnectPolicy) (delay : Int) : Int :=
  if policy.cap < policy.scale delay then policy.cap else policy.scale delay

/-- Where the context can be found done: at the top of the loop, after the connection, or
in the wait before the next one. -/
inductive Moment where
  | opening
  | streaming
  | waiting
deriving DecidableEq, Repr

/-- The frames a connection delivered and the error it ended with. One that fails to open
delivers none; one that the server closes has no error. -/
structure Connection where
  frames : List Frame
  error : Option String
  cancelled : Option Moment
deriving DecidableEq, Repr

/-- A call of `OnReconnect`, with the connection lost before it. -/
structure Reconnect where
  after : Connection
  attempt : Nat
  delay : Int
deriving DecidableEq, Repr

inductive TailEnd where
  | cancelled
  | gaveUp (text : String)
deriving DecidableEq, Repr

structure TailLoop where
  tail : Tail
  attempt : Nat
  delay : Int
  /-- the connections that ended while the context was alive -/
  lost : List Connection
  reconnects : List Reconnect
  ended : Option TailEnd
deriving DecidableEq, Repr

def ceilingText (attempts : Nat) (error : Option String) : String :=
  "reconnect ceiling exceeded after " ++ toString attempts ++ " attempts: " ++
    error.getD "%!w(<nil>)"

/-- The frames of a connection that ends by itself are handed on. -/
def TailLoop.losing (loop : TailLoop) (connection : Connection) : TailLoop :=
  { loop with
    tail := pipeFrames loop.tail connection.frames
    lost := loop.lost ++ [connection] }

/-- From the end of a connection to the next one. -/
def afterLoss (policy : ReconnectPolicy) (loop : TailLoop) (connection : Connection) : TailLoop :=
  let attempt := loop.attempt + 1
  if 0 < policy.maxAttempts ∧ policy.maxAttempts < attempt then
    { loop with
      attempt := attempt
      ended := some (.gaveUp (ceilingText (attempt - 1) connection.error)) }
  else
    let reconnects := loop.reconnects ++ [⟨connection, attempt, loop.delay⟩]
    if connection.cancelled = some .waiting then
      { loop with attempt := attempt, reconnects := reconnects, ended := some .cancelled }
    else
      { loop with
        attempt := attempt, reconnects := reconnects, delay := policy.next loop.delay }

def turn (policy : ReconnectPolicy) (loop : TailLoop) (connection : Connection) : TailLoop :=
  if loop.ended.isSome then loop
  else if connection.cancelled = some .opening then { loop with ended := some .cancelled }
  else if connection.cancelled = some .streaming then
    { loop with tail := pipeFrames loop.tail connection.frames, ended := some .cancelled }
  else afterLoss policy (loop.losing connection) connection

def TailLoop.start (policy : ReconnectPolicy) (lastID : List UInt8) : TailLoop :=
  ⟨⟨lastID, []⟩, 0, policy.base, [], [], none⟩

def tailRun (policy : ReconnectPolicy) (lastID : List UInt8) (connections : List Connection) :
    TailLoop :=
  run (turn policy.effective) (TailLoop.start policy.effective lastID) connections

/-! ## What the loop keeps -/

section Loop

variable (policy : ReconnectPolicy)

/-- The delay after `losses` lost connections. -/
def backoff : Nat → Int
  | 0 => policy.base
  | losses + 1 => policy.next (backoff losses)

def announced (lost : List Connection) : List Reconnect :=
  lost.mapIdx (fun losses connection => ⟨connection, losses + 1, backoff policy losses⟩)

/-- More connections are lost than the policy allows. -/
def Exhausts (lost : List Connection) : Prop :=
  0 < policy.maxAttempts ∧ policy.maxAttempts < lost.length

/-- Count, delay and calls are functions of the connections lost so far. -/
def Follows (loop : TailLoop) : Prop :=
  match loop.ended with
  | none =>
      loop.attempt = loop.lost.length ∧ loop.delay = backoff policy loop.lost.length ∧
        loop.reconnects = announced policy loop.lost ∧ ¬ Exhausts policy loop.lost
  | some .cancelled =>
      loop.reconnects = announced policy loop.lost ∧ ¬ Exhausts policy loop.lost
  | some (.gaveUp _) =>
      ∃ earlier last, loop.lost = earlier ++ [last] ∧ loop.reconnects = announced policy earlier ∧
        0 < policy.maxAttempts ∧ policy.maxAttempts = earlier.length

theorem announced_append (lost : List Connection) (connection : Connection) :
    announced policy (lost ++ [connection]) =
      announced policy lost ++ [⟨connection, lost.length + 1, backoff policy lost.length⟩] := by
  unfold announced
  exact List.mapIdx_concat

theorem turn_follows (loop : TailLoop) (connection : Connection) (follows : Follows policy loop) :
    Follows policy (turn policy loop connection) := by
  unfold turn
  split
  · exact follows
  · rename_i running
    have ongoing : loop.ended = none := by simpa using running
    unfold Follows at follows
    rw [ongoing] at follows
    obtain ⟨counted, delayed, called, within⟩ := follows
    split
    · exact ⟨called, within⟩
    split
    · exact ⟨called, within⟩
    · have calls := announced_append policy loop.lost connection
      unfold afterLoss TailLoop.losing
      dsimp only
      rw [counted, delayed, called]
      split
      · rename_i exceeded
        have reached : policy.maxAttempts = loop.lost.length := by
          unfold Exhausts at within
          omega
        exact ⟨loop.lost, connection, rfl, rfl, exceeded.1, reached⟩
      · rename_i allowed
        have inside : ¬ Exhausts policy (loop.lost ++ [connection]) := by
          unfold Exhausts
          rw [List.length_append, List.length_singleton]
          exact allowed
        split
        · exact ⟨calls.symm, inside⟩
        · unfold Follows
          rw [ongoing]
          dsimp only
          rw [List.length_append, List.length_singleton]
          exact ⟨rfl, rfl, calls.symm, inside⟩

theorem start_follows (lastID : List UInt8) : Follows policy (TailLoop.start policy lastID) := by
  have within : ¬ Exhausts policy [] := by
    unfold Exhausts
    rw [List.length_nil]
    omega
  exact ⟨rfl, rfl, rfl, within⟩

/-! ## Which connections are lost -/

/-- The connections that end while the context is alive, in a tail that never gives up. -/
def uninterrupted : List Connection → List Connection
  | [] => []
  | connection :: connections =>
      match connection.cancelled with
      | none => connection :: uninterrupted connections
      | some .waiting => [connection]
      | some _ => []

/-- Those of them that come up to the ceiling, when `losses` are counted already. -/
def lostAfter (losses : Nat) (connections : List Connection) : List Connection :=
  if 0 < policy.maxAttempts then
    (uninterrupted connections).take (policy.maxAttempts.toNat + 1 - losses)
  else uninterrupted connections

theorem ended_stays (loop : TailLoop) (ended : loop.ended.isSome = true)
    (connections : List Connection) : run (turn policy) loop connections = loop := by
  induction connections with
  | nil => rfl
  | cons connection connections ih =>
      have same : turn policy loop connection = loop := by
        unfold turn
        exact if_pos ended
      unfold run at ih ⊢
      rw [List.foldl_cons, same]
      exact ih

theorem lost_after_cons (losses : Nat) (connection : Connection) (connections : List Connection)
    (counted : ¬ (0 < policy.maxAttempts ∧ policy.maxAttempts < losses))
    (alive : connection.cancelled = none) :
    lostAfter policy losses (connection :: connections) =
      connection :: lostAfter policy (losses + 1) connections := by
  have first : uninterrupted (connection :: connections) =
      connection :: uninterrupted connections := by
    rw [uninterrupted, alive]
  unfold lostAfter
  rw [first]
  split
  · have room : policy.maxAttempts.toNat + 1 - losses =
        policy.maxAttempts.toNat + 1 - (losses + 1) + 1 := by omega
    rw [room, List.take_succ_cons]
  · rfl

/-- A connection that ends by itself is counted, whatever it delivered. -/
theorem turn_of_loss (loop : TailLoop) (connection : Connection) (running : loop.ended = none)
    (alive : connection.cancelled = none ∨ connection.cancelled = some .waiting) :
    turn policy loop connection = afterLoss policy (loop.losing connection) connection := by
  unfold turn
  rcases alive with alive | alive <;> simp [running, alive]

theorem turn_of_cancel (loop : TailLoop) (connection : Connection) (running : loop.ended = none)
    (cancelled : connection.cancelled = some .opening ∨ connection.cancelled = some .streaming) :
    (turn policy loop connection).lost = loop.lost ∧
      (turn policy loop connection).ended.isSome = true := by
  unfold turn
  rcases cancelled with cancelled | cancelled <;> simp [running, cancelled]

theorem after_loss_lost (loop : TailLoop) (connection : Connection) :
    (afterLoss policy loop connection).lost = loop.lost := by
  unfold afterLoss
  dsimp only
  split
  · rfl
  · split <;> rfl

theorem after_loss_ends (loop : TailLoop) (connection : Connection)
    (ends : (0 < policy.maxAttempts ∧ policy.maxAttempts < (loop.attempt + 1 : Nat)) ∨
      connection.cancelled = some .waiting) :
    (afterLoss policy loop connection).ended.isSome = true := by
  unfold afterLoss
  dsimp only
  split
  · rfl
  · rename_i allowed
    rw [if_pos (ends.resolve_left allowed)]
    rfl

theorem after_loss_goes_on (loop : TailLoop) (connection : Connection)
    (allowed : ¬ (0 < policy.maxAttempts ∧ policy.maxAttempts < (loop.attempt + 1 : Nat)))
    (alive : connection.cancelled = none) :
    (afterLoss policy loop connection).ended = loop.ended ∧
      (afterLoss policy loop connection).attempt = loop.attempt + 1 := by
  unfold afterLoss
  rw [if_neg allowed, if_neg (by rw [alive]; decide)]
  exact ⟨rfl, rfl⟩

theorem lost_after_cancel (losses : Nat) (connection : Connection)
    (connections : List Connection)
    (cancelled : connection.cancelled = some .opening ∨ connection.cancelled = some .streaming) :
    lostAfter policy losses (connection :: connections) = [] := by
  rcases cancelled with cancelled | cancelled <;> simp [lostAfter, uninterrupted, cancelled]

theorem lost_after_waiting (losses : Nat) (connection : Connection)
    (connections : List Connection)
    (counted : ¬ (0 < policy.maxAttempts ∧ policy.maxAttempts < losses))
    (cancelled : connection.cancelled = some .waiting) :
    lostAfter policy losses (connection :: connections) = [connection] := by
  have single : uninterrupted (connection :: connections) = [connection] := by
    rw [uninterrupted, cancelled]
  unfold lostAfter
  rw [single]
  split
  · apply List.take_of_length_le
    rw [List.length_singleton]
    omega
  · rfl

theorem lost_after_full (losses : Nat) (connections : List Connection)
    (exceeded : 0 < policy.maxAttempts ∧ policy.maxAttempts < losses) :
    lostAfter policy losses connections = [] := by
  have room : policy.maxAttempts.toNat + 1 - losses = 0 := by omega
  rw [lostAfter, if_pos exceeded.1, room, List.take_zero]

theorem run_lost (loop : TailLoop) (running : loop.ended = none)
    (counted : ¬ (0 < policy.maxAttempts ∧ policy.maxAttempts < loop.attempt))
    (connections : List Connection) :
    (run (turn policy) loop connections).lost =
      loop.lost ++ lostAfter policy loop.attempt connections := by
  induction connections generalizing loop with
  | nil => simp [run, lostAfter, uninterrupted]
  | cons connection connections ih =>
      have step : run (turn policy) loop (connection :: connections) =
          run (turn policy) (turn policy loop connection) connections := rfl
      have grown : (loop.losing connection).lost = loop.lost ++ [connection] := rfl
      rw [step]
      by_cases interrupted : connection.cancelled = some .opening ∨
          connection.cancelled = some .streaming
      · obtain ⟨kept, ended⟩ := turn_of_cancel policy loop connection running interrupted
        rw [ended_stays policy _ ended, kept, lost_after_cancel policy _ _ _ interrupted,
          List.append_nil]
      · have alive : connection.cancelled = none ∨ connection.cancelled = some .waiting := by
          cases known : connection.cancelled with
          | none => exact Or.inl rfl
          | some moment =>
              rw [known] at interrupted
              cases moment with
              | opening => exact absurd (Or.inl rfl) interrupted
              | streaming => exact absurd (Or.inr rfl) interrupted
              | waiting => exact Or.inr rfl
        rw [turn_of_loss policy loop connection running alive]
        rcases alive with alive | waiting
        · rw [lost_after_cons policy _ _ _ counted alive]
          by_cases exceeded : 0 < policy.maxAttempts ∧
              policy.maxAttempts < (loop.attempt + 1 : Nat)
          · have ended := after_loss_ends policy (loop.losing connection) connection
              (Or.inl exceeded)
            rw [ended_stays policy _ ended, after_loss_lost, grown,
              lost_after_full policy _ _ exceeded]
          · obtain ⟨onward, attempts⟩ :=
              after_loss_goes_on policy (loop.losing connection) connection exceeded alive
            have later := ih (afterLoss policy (loop.losing connection) connection)
              (onward.trans running) (by rw [attempts]; exact exceeded)
            rw [later, after_loss_lost, attempts, grown, List.append_assoc,
              List.singleton_append]
            rfl
        · have ended := after_loss_ends policy (loop.losing connection) connection
            (Or.inr waiting)
          rw [ended_stays policy _ ended, after_loss_lost, grown,
            lost_after_waiting policy _ _ _ counted waiting]

/-- Of the outcomes, the connections that are lost while the tail runs. -/
def lostConnections (connections : List Connection) : List Connection :=
  lostAfter policy 0 connections

end Loop

/-! ## Giving up -/

/-- What a tail that gives up on permanent failure only has done. -/
structure Patient (policy : ReconnectPolicy) (loop : TailLoop) : Prop where
  ceiling : ∀ text, loop.ended = some (.gaveUp text) →
    policy.maxAttempts ≤ loop.lost.length ∧
      ∀ connection ∈ loop.lost.drop (loop.lost.length - policy.maxAttempts.toNat),
        connection.frames = []
  reset : ∀ reconnect ∈ loop.reconnects, reconnect.after.frames ≠ [] →
    reconnect.delay = policy.base

/-- A connection with frames comes first, or while the delay is at its base in a tail that
does not use up its attempts. -/
def Sparing (policy : ReconnectPolicy) (lost : List Connection) : Prop :=
  ∀ losses connection, lost[losses]? = some connection → connection.frames ≠ [] →
    losses = 0 ∨ (backoff policy losses = policy.base ∧ ¬ Exhausts policy lost)

theorem reset_iff (policy : ReconnectPolicy) (lost : List Connection) :
    (∀ reconnect ∈ announced policy lost, reconnect.after.frames ≠ [] →
        reconnect.delay = policy.base) ↔
      ∀ losses connection, lost[losses]? = some connection → connection.frames ≠ [] →
        backoff policy losses = policy.base := by
  unfold announced
  constructor
  · intro reset losses connection found delivered
    have call : (⟨connection, losses + 1, backoff policy losses⟩ : Reconnect) ∈
        announced policy lost := by
      apply List.mem_of_getElem? (i := losses)
      rw [announced, List.getElem?_mapIdx, found]
      rfl
    exact reset _ call delivered
  · intro steady reconnect called delivered
    rw [List.mem_mapIdx] at called
    obtain ⟨losses, inside, rfl⟩ := called
    exact steady losses _ (List.getElem?_eq_getElem inside) delivered

theorem within_sparing_iff (policy : ReconnectPolicy) (lost : List Connection)
    (within : ¬ Exhausts policy lost) :
    Sparing policy lost ↔ ∀ losses connection, lost[losses]? = some connection →
      connection.frames ≠ [] → backoff policy losses = policy.base := by
  constructor
  · intro sparing losses connection found delivered
    rcases sparing losses connection found delivered with rfl | ⟨steady, -⟩
    · rfl
    · exact steady
  · intro steady losses connection found delivered
    exact Or.inr ⟨steady losses connection found delivered, within⟩

/-- Where a later connection has no excuse, only the first may deliver. -/
theorem first_sparing_iff (policy : ReconnectPolicy) (lost : List Connection)
    (strict : ∀ losses, backoff policy (losses + 1) = policy.base → Exhausts policy lost) :
    Sparing policy lost ↔ ∀ connection ∈ lost.drop 1, connection.frames = [] := by
  constructor
  · intro sparing connection later
    obtain ⟨index, found⟩ := List.mem_iff_getElem?.1 later
    rw [List.getElem?_drop, Nat.add_comm] at found
    by_contra delivered
    rcases sparing _ connection found delivered with first | ⟨steady, within⟩
    · omega
    · exact within (strict index steady)
  · intro silent losses connection found delivered
    cases losses with
    | zero => exact Or.inl rfl
    | succ index =>
        have later : connection ∈ lost.drop 1 := by
          apply List.mem_of_getElem? (i := index)
          rw [List.getElem?_drop, Nat.add_comm]
          exact found
        exact absurd (silent connection later) delivered

/-- As long as every lost connection was answered by a reconnect, only the delays count. -/
theorem answered_patient_iff (policy : ReconnectPolicy) (loop : TailLoop)
    (silent : ∀ text, loop.ended ≠ some (.gaveUp text))
    (called : loop.reconnects = announced policy loop.lost)
    (within : ¬ Exhausts policy loop.lost) :
    Patient policy loop ↔ Sparing policy loop.lost := by
  rw [within_sparing_iff policy _ within, ← reset_iff, ← called]
  constructor
  · intro patient
    exact patient.reset
  · intro reset
    constructor
    · intro text ended
      exact absurd ended (silent text)
    · exact reset

theorem given_up_patient_iff (policy : ReconnectPolicy) (loop : TailLoop) (text : String)
    (gaveUp : loop.ended = some (.gaveUp text)) (earlier : List Connection) (last : Connection)
    (whole : loop.lost = earlier ++ [last])
    (called : loop.reconnects = announced policy earlier) (positive : 0 < policy.maxAttempts)
    (reached : policy.maxAttempts = earlier.length) :
    Patient policy loop ↔ Sparing policy loop.lost := by
  have length : loop.lost.length = earlier.length + 1 := by
    rw [whole, List.length_append, List.length_singleton]
  have exhausts : Exhausts policy loop.lost := ⟨positive, by omega⟩
  -- the last attempts are all connections but the first
  have first : loop.lost.length - policy.maxAttempts.toNat = 1 := by omega
  have only := first_sparing_iff policy loop.lost (fun _ _ => exhausts)
  constructor
  · intro patient
    rw [only, ← first]
    exact (patient.ceiling text gaveUp).2
  · intro sparing
    constructor
    · intro _ _
      rw [first, ← only]
      exact ⟨by omega, sparing⟩
    · rw [called, reset_iff]
      intro losses connection found delivered
      have inside : losses < earlier.length := (List.getElem?_eq_some_iff.1 found).1
      have among : loop.lost[losses]? = some connection := by
        rw [whole, List.getElem?_append_left inside]
        exact found
      rcases sparing losses connection among delivered with start | excused
      · rw [start]
        rfl
      · exact excused.1

theorem patient_iff_sparing (policy : ReconnectPolicy) (loop : TailLoop)
    (follows : Follows policy loop) : Patient policy loop ↔ Sparing policy loop.lost := by
  unfold Follows at follows
  split at follows
  · rename_i running
    obtain ⟨-, -, called, within⟩ := follows
    exact answered_patient_iff policy loop (by simp [running]) called within
  · rename_i cancelled
    obtain ⟨called, within⟩ := follows
    exact answered_patient_iff policy loop (by simp [cancelled]) called within
  · rename_i text gaveUp
    obtain ⟨earlier, last, whole, called, positive, reached⟩ := follows
    exact given_up_patient_iff policy loop text gaveUp earlier last whole called positive reached

theorem tail_patient_iff (policy : ReconnectPolicy) (lastID : List UInt8)
    (connections : List Connection) :
    Patient policy.effective (tailRun policy lastID connections) ↔
      Sparing policy.effective (lostConnections policy.effective connections) := by
  have follows : Follows policy.effective (tailRun policy lastID connections) :=
    run_invariant (turn policy.effective) (Follows policy.effective)
      (turn_follows policy.effective) _ (start_follows policy.effective lastID) connections
  have uncounted :
      ¬ (0 < policy.effective.maxAttempts ∧ policy.effective.maxAttempts < (0 : Nat)) := by omega
  have lost : (tailRun policy lastID connections).lost =
      lostConnections policy.effective connections := by
    have ran := run_lost policy.effective (TailLoop.start policy.effective lastID) rfl
      uncounted connections
    exact ran
  rw [← lost]
  exact patient_iff_sparing policy.effective _ follows

def healthy : Connection := ⟨[⟨[0x73], [0x37], []⟩], none, none⟩

theorem healthy_tail_gives_up :
    (tailRun ⟨0, id, 0, 0⟩ [] (List.replicate 31 healthy)).ended =
        some (.gaveUp (ceilingText 30 none)) ∧
      ¬ Patient defaultReconnectPolicy (tailRun ⟨0, id, 0, 0⟩ [] (List.replicate 31 healthy)) := by
  have ended : (tailRun ⟨0, id, 0, 0⟩ [] (List.replicate 31 healthy)).ended =
      some (.gaveUp (ceilingText 30 none)) := rfl
  have lost : (tailRun ⟨0, id, 0, 0⟩ [] (List.replicate 31 healthy)).lost =
      List.replicate 31 healthy := rfl
  constructor
  · exact ended
  · intro patient
    have silent := (patient.ceiling _ ended).2
    rw [lost] at silent
    have delivered := silent healthy (by decide)
    cases delivered

end PgmanProxy.Pgmctl.Reconnects
