import PgmanProxy.Library.FailureStreak
import PgmanProxy.Control.Wire

/-!
# The multi-sink audit emitter

`Emit` logs the record, publishes it on the NATS subject and appends it to the
history stream; each of the last two sinks keeps a counter of its consecutive
failures, and `Healthy` is the zero test on both counters. What a sink's
publishes answer is an arbitrary function of the attempt's number. Beside its
counter a sink remembers every attempt, newest first, so that statements about
"the most recent publish" can be made; `counted` ties the two together.
-/

namespace PgmanProxy.Control.AuditSinks

open PgmanProxy.Library.FailureStreak PgmanProxy.Control.Wire

set_option autoImplicit false

structure Attempt where
  record : AuditRecord
  succeeded : Bool
deriving DecidableEq, Repr

def outcomes (attempts : List Attempt) : List Bool :=
  attempts.map (fun attempt => attempt.succeeded)

structure Sink where
  wired : Bool
  /-- The error of the publish with this number, if it fails. -/
  behaviour : Nat → Option String
  attempts : List Attempt
  failures : UInt64
  counted : Tracks failures (outcomes attempts)

def Sink.fresh (wired : Bool) (behaviour : Nat → Option String) : Sink where
  wired := wired
  behaviour := behaviour
  attempts := []
  failures := 0
  counted := tracks_nil

/-- The error the next publish on this sink will meet. -/
def Sink.next (sink : Sink) : Option String :=
  sink.behaviour sink.attempts.length

def Sink.attempt (sink : Sink) (record : AuditRecord) (succeeded : Bool) : Sink where
  wired := sink.wired
  behaviour := sink.behaviour
  attempts := ⟨record, succeeded⟩ :: sink.attempts
  failures := observe sink.failures succeeded
  counted := tracks_observe sink.failures (outcomes sink.attempts) succeeded sink.counted

def Sink.publish (sink : Sink) (record : AuditRecord) : Sink × Option String :=
  if sink.wired then
    match sink.next with
    | some text => (sink.attempt record false, some text)
    | none => (sink.attempt record true, none)
  else (sink, none)

structure Audit where
  /-- Records on the structured log, newest first; this sink never fails. -/
  logged : List AuditRecord
  nats : Sink
  history : Sink

def Audit.fresh (nats history : Sink) : Audit where
  logged := []
  nats := nats
  history := history

/-- The record is a struct of strings and integers, so marshalling it cannot fail
and the publish on the subject always takes place when the bus is wired. -/
def Audit.emit (audit : Audit) (record : AuditRecord) : Audit × Option String :=
  let published := audit.nats.publish record
  let appended := audit.history.publish record
  let failure := match published.2 with
    | some text => some ("audit nats: " ++ text)
    | none => appended.2.map (fun text => "audit history: " ++ text)
  ({ logged := record :: audit.logged, nats := published.1, history := appended.1 }, failure)

def Audit.healthy (audit : Audit) : Bool :=
  audit.nats.failures = 0 && audit.history.failures = 0

def Audit.record (audit : Audit) (record : AuditRecord) : Audit :=
  (audit.emit record).1

@[simp] theorem record_nats (audit : Audit) (record : AuditRecord) :
    (audit.record record).nats = (audit.nats.publish record).1 := rfl

@[simp] theorem record_history (audit : Audit) (record : AuditRecord) :
    (audit.record record).history = (audit.history.publish record).1 := rfl

@[simp] theorem publish_wired (sink : Sink) (record : AuditRecord) :
    (sink.publish record).1.wired = sink.wired := by
  unfold Sink.publish
  split
  · split <;> rfl
  · rfl

@[simp] theorem publish_behaviour (sink : Sink) (record : AuditRecord) :
    (sink.publish record).1.behaviour = sink.behaviour := by
  unfold Sink.publish
  split
  · split <;> rfl
  · rfl

theorem publish_attempts (sink : Sink) (record : AuditRecord) (wired : sink.wired = true) :
    (sink.publish record).1.attempts = ⟨record, sink.next.isNone⟩ :: sink.attempts := by
  unfold Sink.publish
  rw [if_pos wired]
  cases sink.next <;> rfl

/-- The sinks that are wired take the next record they are given. -/
def Audit.AcceptsNext (audit : Audit) : Prop :=
  (audit.nats.wired = true → audit.nats.next = none) ∧
    (audit.history.wired = true → audit.history.next = none)

/-- Each sink's most recent publish succeeded, or there was none. -/
def Audit.LastPublishesSucceeded (audit : Audit) : Prop :=
  LastSucceeded (outcomes audit.nats.attempts) ∧ LastSucceeded (outcomes audit.history.attempts)

theorem healthy_iff (audit : Audit) :
    audit.healthy = true ↔ audit.nats.failures = 0 ∧ audit.history.failures = 0 := by
  simp [Audit.healthy]

/-- Short of `2^64` failures in a row the gate answers what its comment says. -/
theorem healthy_last_publishes_succeeded (audit : Audit)
    (natsBounded : failureStreak (outcomes audit.nats.attempts) < 2 ^ 64)
    (historyBounded : failureStreak (outcomes audit.history.attempts) < 2 ^ 64)
    (healthy : audit.healthy = true) : audit.LastPublishesSucceeded := by
  obtain ⟨natsZero, historyZero⟩ := (healthy_iff audit).1 healthy
  constructor
  · exact (zero_iff_last_succeeded _ _ audit.nats.counted natsBounded).1 natsZero
  · exact (zero_iff_last_succeeded _ _ audit.history.counted historyBounded).1 historyZero

end PgmanProxy.Control.AuditSinks
