import Mathlib.Data.Finset.Card
import PgmanProxy.Library.Alternation
import PgmanProxy.Library.Runs

/-!
# The verifier of the chaos workload

A sweep compares the acknowledged sequence numbers it collected before its query with
the rows the query returned, and rolls forward the set of numbers that are still
missing. A map with empty values is a set here, and since ranging over a map visits its
keys in no particular order, what is collected that way is a set again.
-/

namespace PgmanProxy.Chaos.LossGauge

open PgmanProxy.Library.Alternation PgmanProxy.Library.Runs

set_option autoImplicit false

abbrev Seq := Int

/-! ## One sweep -/

structure VerifyDiff where
  missing : Finset Seq
  extras : Nat
deriving DecidableEq

/-- What is missing is judged by the snapshot from before the query, what is extra also by
the acknowledgements since then. -/
def finalizeVerifyDiff (confirmed expected present : Finset Seq) : VerifyDiff where
  missing := expected.filter (fun seq => seq ∉ present)
  extras := (present.filter (fun seq => seq ∉ expected ∪ confirmed)).card

structure MissingUpdate where
  missingSet : Finset Seq
  newlyDetected : Finset Seq
  resolved : Finset Seq
deriving DecidableEq

def updateMissingSet (missingSet thisTickMissing present : Finset Seq) : MissingUpdate :=
  let resolved := missingSet.filter (fun seq => seq ∈ present)
  let kept := missingSet.filter (fun seq => seq ∉ present)
  let newlyDetected := thisTickMissing.filter (fun seq => seq ∉ kept)
  ⟨kept ∪ newlyDetected, newlyDetected, resolved⟩

/-- The reports of one sweep: DATA LOSS for the first, a recovery for the second. -/
structure Reports where
  newlyMissing : Finset Seq
  resolved : Finset Seq
deriving DecidableEq

/-- What the sweeps have left behind. -/
structure Ledger where
  missingSet : Finset Seq
  reports : List Reports
  dataLoss : Nat
  extraRows : Nat
deriving DecidableEq

def Ledger.empty : Ledger := ⟨∅, [], 0, 0⟩

/-- The end of `verifyOnce`, once all rows are read. -/
def settle (ledger : Ledger) (confirmed expected present : Finset Seq) : Ledger :=
  let diff := finalizeVerifyDiff confirmed expected present
  let update := updateMissingSet ledger.missingSet diff.missing present
  { missingSet := update.missingSet
    reports := ledger.reports ++ [⟨update.newlyDetected, update.resolved⟩]
    dataLoss := update.missingSet.card
    extraRows := diff.extras }

/-- How the query ended; `read` is what had been read when it broke off. -/
inductive Query where
  | queryFailed
  | scanFailed (read : Finset Seq)
  | rowsFailed (read : Finset Seq)
  | rows (present : Finset Seq)
deriving DecidableEq

/-- A sweep from the snapshot on. -/
def verifyOnce (ledger : Ledger) (expected : Finset Seq) (maxSeq : Seq) (query : Query)
    (confirmed : Finset Seq) : Ledger :=
  if maxSeq = 0 then ledger
  else
    match query with
    | .queryFailed => ledger
    | .scanFailed _ => ledger
    | .rowsFailed _ => ledger
    | .rows present => settle ledger confirmed expected present

/-! ## Sweeps and acknowledgements -/

/-- One tick of the verifier. While the snapshot is taken, the writer may acknowledge more
numbers, which the snapshot contains or not, and yet more before the sweep is over. -/
structure Tick where
  seen : Finset Seq
  unseen : Finset Seq
  later : Finset Seq
  maxSeq : Seq
  query : Query
deriving DecidableEq

inductive Event where
  | acknowledged (seq : Seq)
  | tick (tick : Tick)
deriving DecidableEq

structure Sweeps where
  confirmed : Finset Seq
  ledger : Ledger
deriving DecidableEq

def start : Sweeps := ⟨∅, Ledger.empty⟩

/-- Numbers acknowledged before the tick are in its snapshot. -/
def snapshot (state : Sweeps) (tick : Tick) : Finset Seq := state.confirmed ∪ tick.seen

def confirmedAfter (state : Sweeps) (tick : Tick) : Finset Seq :=
  snapshot state tick ∪ tick.unseen ∪ tick.later

def step (state : Sweeps) : Event → Sweeps
  | .acknowledged seq => { state with confirmed := insert seq state.confirmed }
  | .tick tick =>
      { confirmed := confirmedAfter state tick
        ledger := verifyOnce state.ledger (snapshot state tick) tick.maxSeq tick.query
          (confirmedAfter state tick) }

/-- The tick got to its query and read all of its rows. -/
def Tick.Completes (tick : Tick) (present : Finset Seq) : Prop :=
  tick.maxSeq ≠ 0 ∧ tick.query = .rows present

/-- After a completed tick exactly those numbers of its snapshot are missing that its query
did not return, and the gauge counts them. -/
def GaugeExact (state : Sweeps) (event : Event) : Prop :=
  ∀ tick present, event = .tick tick → tick.Completes present →
    (step state event).ledger.missingSet = snapshot state tick \ present ∧
      (step state event).ledger.dataLoss = (snapshot state tick \ present).card

/-- The reports about one number in a sweep, in the order of the log: `true` for newly
missing and `false` for resolved. -/
def flags (seq : Seq) (reports : Reports) : List Bool :=
  (if seq ∈ reports.newlyMissing then [true] else []) ++
    (if seq ∈ reports.resolved then [false] else [])

def flagsOf (seq : Seq) (ledger : Ledger) : List Bool := ledger.reports.flatMap (flags seq)

section Settling

variable (ledger : Ledger) (confirmed expected present : Finset Seq)

theorem settle_missing (within : ledger.missingSet ⊆ expected) :
    (settle ledger confirmed expected present).missingSet = expected \ present := by
  ext seq
  have member := @within seq
  simp only [settle, updateMissingSet, finalizeVerifyDiff, Finset.mem_union, Finset.mem_filter,
    Finset.mem_sdiff]
  tauto

/-- A number gets a report when it goes missing or comes back, and otherwise none. -/
theorem settle_flags (seq : Seq) (within : ledger.missingSet ⊆ expected) :
    flagsOf seq (settle ledger confirmed expected present) = flagsOf seq ledger ++
      if seq ∈ ledger.missingSet then if seq ∈ present then [false] else []
      else if seq ∈ expected \ present then [true] else [] := by
  have member := @within seq
  have appended : flagsOf seq (settle ledger confirmed expected present) = flagsOf seq ledger ++
      flags seq ⟨(expected.filter (fun seq => seq ∉ present)).filter
        (fun seq => seq ∉ ledger.missingSet.filter (fun seq => seq ∉ present)),
        ledger.missingSet.filter (fun seq => seq ∈ present)⟩ := by
    simp [flagsOf, settle, updateMissingSet, finalizeVerifyDiff]
  rw [appended]
  congr 1
  by_cases missing : seq ∈ ledger.missingSet
  · have acknowledged := member missing
    by_cases back : seq ∈ present <;> simp [flags, missing, back, acknowledged]
  · by_cases back : seq ∈ present <;> simp [flags, missing, back]

end Settling

/-! ## Whole runs -/

/-- Only acknowledged numbers are missing, and each number's reports alternate up to the one
that its being missing or not makes due. -/
structure Rolling (state : Sweeps) : Prop where
  acknowledged : state.ledger.missingSet ⊆ state.confirmed
  alternates : ∀ seq, AlternatesFrom true (flagsOf seq state.ledger)
  due : ∀ seq, dueAfter true (flagsOf seq state.ledger) = decide (seq ∉ state.ledger.missingSet)

theorem start_rolling : Rolling start where
  acknowledged := Finset.empty_subset _
  alternates := fun _ => trivial
  due := by simp [start, Ledger.empty, flagsOf, dueAfter]

/-- What a sweep makes of its ledger when it completes, and that it otherwise leaves it. -/
theorem verify_once_cases (ledger : Ledger) (expected : Finset Seq) (maxSeq : Seq) (query : Query)
    (confirmed : Finset Seq) :
    (∃ present, query = .rows present ∧
        verifyOnce ledger expected maxSeq query confirmed =
          settle ledger confirmed expected present) ∨
      verifyOnce ledger expected maxSeq query confirmed = ledger := by
  unfold verifyOnce
  split
  · exact .inr rfl
  · split
    · exact .inr rfl
    · exact .inr rfl
    · exact .inr rfl
    · rename_i present
      exact .inl ⟨present, rfl, rfl⟩

theorem settle_rolling (ledger : Ledger) (confirmed expected present after : Finset Seq)
    (rolling : Rolling ⟨confirmed, ledger⟩) (within : confirmed ⊆ expected)
    (kept : expected ⊆ after) : Rolling ⟨after, settle ledger after expected present⟩ := by
  have inside : ledger.missingSet ⊆ expected := rolling.acknowledged.trans within
  have missing := settle_missing ledger after expected present inside
  have flagged := settle_flags ledger after expected present
  refine ⟨?_, ?_, ?_⟩
  · dsimp only
    rw [missing]
    exact Finset.sdiff_subset.trans kept
  · intro seq
    have due := rolling.due seq
    dsimp only at due ⊢
    rw [flagged seq inside, alternates_append, due]
    refine ⟨rolling.alternates seq, ?_⟩
    by_cases lost : seq ∈ ledger.missingSet
    · by_cases back : seq ∈ present <;> simp [lost, back, AlternatesFrom]
    · by_cases loses : seq ∈ expected \ present
      · simp only [if_neg lost, if_pos loses, AlternatesFrom]
        simp [lost]
      · simp only [if_neg lost, if_neg loses, AlternatesFrom]
  · intro seq
    have due := rolling.due seq
    have member := @inside seq
    dsimp only at due ⊢
    rw [flagged seq inside, due_after_append, due, missing]
    by_cases lost : seq ∈ ledger.missingSet
    · by_cases back : seq ∈ present <;> simp [lost, back, dueAfter, member]
    · by_cases loses : seq ∈ expected \ present
      · simp only [if_neg lost, if_pos loses, dueAfter]
        simp [loses]
      · simp only [if_neg lost, if_neg loses, dueAfter]
        simp [lost, loses]

theorem step_rolling (state : Sweeps) (event : Event) (rolling : Rolling state) :
    Rolling (step state event) := by
  cases event with
  | acknowledged seq =>
      refine ⟨?_, rolling.alternates, rolling.due⟩
      exact rolling.acknowledged.trans (Finset.subset_insert seq state.confirmed)
  | tick tick =>
      have within : state.confirmed ⊆ snapshot state tick := Finset.subset_union_left
      have kept : snapshot state tick ⊆ confirmedAfter state tick :=
        Finset.subset_union_left.trans Finset.subset_union_left
      simp only [step]
      rcases verify_once_cases state.ledger (snapshot state tick) tick.maxSeq tick.query
        (confirmedAfter state tick) with ⟨present, -, settled⟩ | unchanged
      · rw [settled]
        exact settle_rolling state.ledger state.confirmed _ present _ rolling within kept
      · rw [unchanged]
        exact ⟨(rolling.acknowledged.trans within).trans kept, rolling.alternates, rolling.due⟩

theorem step_gauge_exact (state : Sweeps) (event : Event) (rolling : Rolling state) :
    GaugeExact state event := by
  rintro tick present rfl ⟨counted, answered⟩
  have within : state.ledger.missingSet ⊆ snapshot state tick :=
    rolling.acknowledged.trans Finset.subset_union_left
  have settled : (step state (.tick tick)).ledger =
      settle state.ledger (confirmedAfter state tick) (snapshot state tick) present := by
    simp only [step, verifyOnce, if_neg counted, answered]
  have missing := settle_missing state.ledger (confirmedAfter state tick) _ present within
  rw [settled]
  refine ⟨missing, ?_⟩
  change (settle _ _ _ _).missingSet.card = _
  rw [missing]

/-- In every run the gauge is exact after each completed tick, and each number's reports
alternate, beginning with newly missing. -/
theorem loss_gauge_exact (events : List Event) :
    StepsMeet step GaugeExact start events ∧
      ∀ seq, AlternatesFrom true (flagsOf seq (run step start events).ledger) := by
  constructor
  · apply steps_meet_of_invariant step (fun _ _ => True) GaugeExact Rolling
    · intro state event rolling _
      exact step_gauge_exact state event rolling
    · intro state event rolling _
      exact step_rolling state event rolling
    · exact start_rolling
    · exact steps_meet_of_forall step (fun _ => True) start events (fun _ _ => trivial)
  · have rolling := run_invariant step Rolling step_rolling start start_rolling events
    exact rolling.alternates

end PgmanProxy.Chaos.LossGauge
