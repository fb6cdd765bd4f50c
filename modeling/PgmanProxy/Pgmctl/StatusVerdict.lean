import Mathlib.Data.List.Sort
import PgmanProxy.Pgmctl.ReadCommands

/-!
# `pgmctl status`

The headline and one row per peer, each with a severity, and the exit code of the
worst. The rendered text is left out; what the JSON form says beyond the status
itself is the quorum of the substrate and which beliefs are stale.
-/

namespace PgmanProxy.Pgmctl.StatusVerdict

open PgmanProxy.Library.GoStrings (toLower)
open PgmanProxy.Library.RankedFold
open PgmanProxy.Pgmctl.Commands (Failure exitUnhealthy)
open PgmanProxy.Pgmctl.ReadCommands

set_option autoImplicit false

/-! ## Peers and the substrate -/

/-- A real reply of the fan-out; the synthesised rows have the unknown state. -/
def responds (inst : PgmanagerInstance) : Bool :=
  toLower inst.state ≠ "" && toLower inst.state ≠ "unknown"

def runs (inst : PgmanagerInstance) : Bool := inst.postgresUp && toLower inst.state = "running"

structure PeerCounts where
  responding : Nat
  healthy : Nat
  total : Nat
deriving DecidableEq, Repr

def peerCounts (engine : PgmanagerStatus) : PeerCounts where
  responding := engine.instances.countP responds
  healthy := engine.instances.countP runs
  total := engine.instances.length

structure SubstrateQuorum where
  required : Nat
  responding : Nat
  total : Nat
  quorate : Bool
deriving DecidableEq, Repr

def computeSubstrateQuorum (responding total : Nat) : SubstrateQuorum :=
  let required := if total > 0 then total / 2 + 1 else 0
  ⟨required, responding, total, total > 0 && responding ≥ required⟩

def substrateOf (engine : PgmanagerStatus) : SubstrateQuorum :=
  computeSubstrateQuorum (peerCounts engine).responding (peerCounts engine).total

/-- Whether the leader and the primary a node names are frozen beliefs. -/
def beliefsStale (engine : PgmanagerStatus) (substrate : SubstrateQuorum) : Bool × Bool :=
  if substrate.total = 0 ∨ substrate.quorate then (false, false)
  else (engine.leaderNodeID ≠ "", engine.primaryNodeID ≠ "")

structure StatusJSON where
  cluster : PgmanagerStatus
  embeddedNATS : Option EmbeddedNATSSnapshot
  substrate : SubstrateQuorum
  leaderBeliefStale : Bool
  primaryBeliefStale : Bool
deriving DecidableEq, Repr

/-- The payload of the document forms, without the time of the snapshot. -/
def statusJSON (engine : PgmanagerStatus) (embedded : Option EmbeddedNATSSnapshot) : StatusJSON :=
  let stale := beliefsStale engine (substrateOf engine)
  ⟨engine, embedded, substrateOf engine, stale.1, stale.2⟩

/-! ## Severities -/

def primaryHealth (engine : PgmanagerStatus) : Severity × String :=
  if engine.primaryNodeID = "" then (.fail, "(none)") else (.pass, engine.primaryNodeID)

def leaderHealth (engine : PgmanagerStatus) : Severity × String :=
  if engine.leaderNodeID = "" then (.fail, "(unknown)") else (.pass, engine.leaderNodeID)

def leaderSegment (engine : PgmanagerStatus) : Severity × String :=
  if (beliefsStale engine (substrateOf engine)).1 then
    (.fail, engine.leaderNodeID ++ " (stale)")
  else leaderHealth engine

def primarySegment (engine : PgmanagerStatus) : Severity × String :=
  if (beliefsStale engine (substrateOf engine)).2 then
    (.fail, engine.primaryNodeID ++ " (stale)")
  else primaryHealth engine

def peersSeverity (engine : PgmanagerStatus) : Severity :=
  let counts := peerCounts engine
  -- quorum loss outweighs whatever the counts say
  if counts.total > 0 && !(substrateOf engine).quorate then .fail
  else if counts.healthy = 0 then .fail
  else if counts.healthy < counts.total || counts.responding < counts.total then .warn
  else .pass

def warnLagBytes : Int := 64 * 1024 * 1024
def failLagBytes : Int := 1073741824

def isFenced (state : String) : Bool := equalFold state "fenced"
def isFailed (state : String) : Bool := equalFold state "failed" || equalFold state "down"
def isStandby (role : String) : Bool := equalFold role "standby" || equalFold role "replica"

def nodeSeverity (inst : PgmanagerInstance) : Severity :=
  if isFailed inst.state then .fail
  else if isFenced inst.state then .warn
  else if !inst.postgresUp then .fail
  else if isStandby inst.role && inst.lagBytes > warnLagBytes then
    if inst.lagBytes > failLagBytes then .fail else .warn
  else .pass

/-- Its order of severities is that of `rank`. -/
def worse (held : Severity) (others : List Severity) : Severity := worst rank held others

/-- What one row of the table does to the worst severity. -/
def rowStep (held : Severity) (inst : PgmanagerInstance) : Severity :=
  if nodeSeverity inst = .fail then .fail
  else if nodeSeverity inst = .warn ∧ held ≠ .fail then .warn
  else held

def headline (engine : PgmanagerStatus) : Severity :=
  worse (worse .pass [(primarySegment engine).1, (leaderSegment engine).1])
    [peersSeverity engine]

def sortedInstances (engine : PgmanagerStatus) : List PgmanagerInstance :=
  engine.instances.insertionSort (fun left right => left.nodeID ≤ right.nodeID)

def overallSeverity (engine : PgmanagerStatus) : Severity :=
  (sortedInstances engine).foldl rowStep (headline engine)

/-- The exit code of `renderStatus`. -/
def renderStatus (strict : Bool) (engine : PgmanagerStatus) : Nat :=
  match overallSeverity engine with
  | .pass => exitOK
  | .info => exitOK
  | .warn => if strict then exitWarnStrict else exitOK
  | _ => exitUnhealthy

def statusVerdict (strict : Bool) (engine : PgmanagerStatus) : Except Failure Unit :=
  if renderStatus strict engine ≠ exitOK then
    .error ⟨renderStatus strict engine, "cluster is not fully healthy"⟩
  else .ok ()

def runStatus (readers : Readers) (session : Session) (flags : ReadFlags) :
    Except Failure Unit := do
  let format ← openFormat flags
  let (engine, _) ← fetchStatus readers session
  report format (statusVerdict flags.strict engine)

/-! ## When the table exits with zero -/

/-- A primary and a leader, a quorum, somebody healthy and no failed row; with `--strict`
also nobody missing or unhealthy and no row with a warning. -/
structure StatusClean (strict : Bool) (engine : PgmanagerStatus) : Prop where
  primary : engine.primaryNodeID ≠ ""
  leader : engine.leaderNodeID ≠ ""
  healthy : 0 < (peerCounts engine).healthy
  quorate : engine.instances.length / 2 + 1 ≤ (peerCounts engine).responding
  rows : ∀ inst ∈ engine.instances, nodeSeverity inst ≠ .fail
  strictly : strict = true →
    (peerCounts engine).healthy = (peerCounts engine).total ∧
      (peerCounts engine).responding = (peerCounts engine).total ∧
      ∀ inst ∈ engine.instances, nodeSeverity inst = .pass

section Rows

variable (engine : PgmanagerStatus)

theorem node_severity_cases (inst : PgmanagerInstance) :
    nodeSeverity inst = .pass ∨ nodeSeverity inst = .warn ∨ nodeSeverity inst = .fail := by
  unfold nodeSeverity
  split
  · exact .inr (.inr rfl)
  split
  · exact .inr (.inl rfl)
  split
  · exact .inr (.inr rfl)
  split
  · split
    · exact .inr (.inr rfl)
    · exact .inr (.inl rfl)
  · exact .inl rfl

/-- The severities that `status` knows. -/
def Graded (severity : Severity) : Prop :=
  severity = .pass ∨ severity = .warn ∨ severity = .fail

theorem row_step_eq (held : Severity) (graded : Graded held) (inst : PgmanagerInstance) :
    rowStep held inst = worseOf rank held (nodeSeverity inst) := by
  rcases node_severity_cases inst with row | row | row <;>
    rcases graded with rfl | rfl | rfl <;> simp [rowStep, worseOf, rank, row]

theorem graded_worst (held : Severity) (others : List Severity)
    (all : ∀ severity ∈ held :: others, Graded severity) : Graded (worst rank held others) :=
  all _ (worst_mem rank held others)

theorem rows_eq_worst (held : Severity) (graded : Graded held) (rows : List PgmanagerInstance) :
    rows.foldl rowStep held = worst rank held (rows.map nodeSeverity) := by
  induction rows generalizing held with
  | nil => rfl
  | cons inst rows ih =>
      have step := row_step_eq held graded inst
      have next : Graded (rowStep held inst) := by
        rw [step]
        rcases worse_of_mem rank held (nodeSeverity inst) with same | other
        · rw [same]
          exact graded
        · rw [other]
          exact node_severity_cases inst
      rw [List.foldl_cons, ih _ next, step]
      rfl

/-- The shape of both segments about a node: stale, missing or named. -/
theorem named_segment_cases (stale : Bool) (name old missing : String) :
    (if stale then (Severity.fail, old)
      else if name = "" then (.fail, missing) else (.pass, name)).1 = .pass ∨
    (if stale then (Severity.fail, old)
      else if name = "" then (.fail, missing) else (.pass, name)).1 = .fail := by
  split
  · exact .inr rfl
  · split
    · exact .inr rfl
    · exact .inl rfl

theorem segment_cases :
    ((primarySegment engine).1 = .pass ∨ (primarySegment engine).1 = .fail) ∧
      ((leaderSegment engine).1 = .pass ∨ (leaderSegment engine).1 = .fail) := by
  constructor
  · unfold primarySegment primaryHealth
    exact named_segment_cases _ _ _ _
  · unfold leaderSegment leaderHealth
    exact named_segment_cases _ _ _ _

theorem peers_severity_graded : Graded (peersSeverity engine) := by
  unfold peersSeverity Graded
  dsimp only
  split
  · exact .inr (.inr rfl)
  split
  · exact .inr (.inr rfl)
  split
  · exact .inr (.inl rfl)
  · exact .inl rfl

theorem headline_graded : Graded (headline engine) := by
  have segments := segment_cases engine
  have segmentsGraded :
      Graded (worse .pass [(primarySegment engine).1, (leaderSegment engine).1]) := by
    apply graded_worst
    simp only [List.forall_mem_cons]
    refine ⟨.inl rfl, ?_, ?_, by simp⟩
    · exact segments.1.imp id .inr
    · exact segments.2.imp id .inr
  apply graded_worst
  simp only [List.forall_mem_cons]
  exact ⟨segmentsGraded, peers_severity_graded engine, by simp⟩

theorem overall_eq_worst :
    overallSeverity engine =
      worst rank (headline engine) ((sortedInstances engine).map nodeSeverity) :=
  rows_eq_worst _ (headline_graded engine) _

theorem overall_graded : Graded (overallSeverity engine) := by
  rw [overall_eq_worst]
  apply graded_worst
  rw [List.forall_mem_cons]
  refine ⟨headline_graded engine, ?_⟩
  intro severity member
  obtain ⟨inst, -, rfl⟩ := List.mem_map.1 member
  exact node_severity_cases inst

/-- The verdict stays within a bound when the headline's segments and all rows do. -/
theorem overall_rank_le_iff (bound : Nat) :
    rank (overallSeverity engine) ≤ bound ↔
      rank (primarySegment engine).1 ≤ bound ∧ rank (leaderSegment engine).1 ≤ bound ∧
        rank (peersSeverity engine) ≤ bound ∧
        ∀ inst ∈ engine.instances, rank (nodeSeverity inst) ≤ bound := by
  have sorted : ∀ inst, inst ∈ sortedInstances engine ↔ inst ∈ engine.instances := by
    intro inst
    exact (List.perm_insertionSort _ engine.instances).mem_iff
  rw [overall_eq_worst, rank_worst_le_iff, List.forall_mem_cons, headline, worse,
    rank_worst_le_iff, List.forall_mem_cons, worse, rank_worst_le_iff]
  simp only [List.forall_mem_cons, List.forall_mem_map, sorted]
  have bottom : rank .pass ≤ bound := Nat.zero_le bound
  constructor
  · rintro ⟨⟨⟨-, primary, leader, -⟩, peers, -⟩, rows⟩
    exact ⟨primary, leader, peers, rows⟩
  · rintro ⟨primary, leader, peers, rows⟩
    exact ⟨⟨⟨bottom, primary, leader, by simp⟩, peers, by simp⟩, rows⟩

theorem counts_le_total :
    (peerCounts engine).responding ≤ engine.instances.length ∧
      (peerCounts engine).healthy ≤ engine.instances.length :=
  ⟨List.countP_le_length, List.countP_le_length⟩

/-- A majority of the rows responds. -/
theorem quorate_iff :
    (substrateOf engine).quorate = true ↔
      engine.instances.length / 2 + 1 ≤ (peerCounts engine).responding := by
  have most := (counts_le_total engine).1
  have total : (peerCounts engine).total = engine.instances.length := rfl
  by_cases empty : engine.instances.length = 0
  · rw [empty] at most
    simp [substrateOf, computeSubstrateQuorum, total, empty]
    omega
  · have some : 0 < engine.instances.length := Nat.pos_of_ne_zero empty
    simp [substrateOf, computeSubstrateQuorum, total, some]

/-- Up to which rank the exit code is zero. -/
def tolerated (strict : Bool) : Nat := if strict then 1 else 2

theorem render_status_ok_iff (strict : Bool) :
    renderStatus strict engine = exitOK ↔ rank (overallSeverity engine) ≤ tolerated strict := by
  unfold renderStatus
  rcases overall_graded engine with known | known | known <;> cases strict <;>
    simp [known, rank, tolerated, exitOK, exitWarnStrict, exitUnhealthy]

/-- Without a quorum the peers' segment fails, also when there are no rows at all. -/
theorem not_quorate_fails (lost : (substrateOf engine).quorate = false) :
    peersSeverity engine = .fail := by
  have most := (counts_le_total engine).2
  have total : (peerCounts engine).total = engine.instances.length := rfl
  unfold peersSeverity
  dsimp only
  rw [lost, total]
  by_cases empty : engine.instances.length = 0
  · rw [empty] at most ⊢
    have nobody : (peerCounts engine).healthy = 0 := Nat.le_zero.1 most
    simp [nobody]
  · have some : 0 < engine.instances.length := Nat.pos_of_ne_zero empty
    simp [some]

section Quorate

variable (quorate : (substrateOf engine).quorate = true)

include quorate in
theorem segments_quorate (strict : Bool) :
    (rank (primarySegment engine).1 ≤ tolerated strict ↔ engine.primaryNodeID ≠ "") ∧
      (rank (leaderSegment engine).1 ≤ tolerated strict ↔ engine.leaderNodeID ≠ "") := by
  have fresh : beliefsStale engine (substrateOf engine) = (false, false) := by
    rw [beliefsStale, if_pos (.inr quorate)]
  constructor
  · unfold primarySegment primaryHealth
    rw [fresh]
    by_cases none : engine.primaryNodeID = "" <;> cases strict <;> simp [none, rank, tolerated]
  · unfold leaderSegment leaderHealth
    rw [fresh]
    by_cases none : engine.leaderNodeID = "" <;> cases strict <;> simp [none, rank, tolerated]

include quorate in
theorem peers_quorate (strict : Bool) :
    rank (peersSeverity engine) ≤ tolerated strict ↔
      0 < (peerCounts engine).healthy ∧
        (strict = true → (peerCounts engine).healthy = (peerCounts engine).total ∧
          (peerCounts engine).responding = (peerCounts engine).total) := by
  have most := counts_le_total engine
  have total : (peerCounts engine).total = engine.instances.length := rfl
  rw [← total] at most
  unfold peersSeverity
  dsimp only
  rw [quorate]
  by_cases nobody : (peerCounts engine).healthy = 0
  · cases strict <;> simp [nobody, rank, tolerated]
  · have somebody : 0 < (peerCounts engine).healthy := Nat.pos_of_ne_zero nobody
    by_cases short : (peerCounts engine).healthy < (peerCounts engine).total ∨
        (peerCounts engine).responding < (peerCounts engine).total
    · cases strict
      · simp [nobody, short, rank, tolerated, somebody]
      · simp [nobody, short, rank, tolerated, somebody]
        omega
    · cases strict
      · simp [nobody, short, rank, tolerated, somebody]
      · simp [nobody, short, rank, tolerated, somebody]
        omega

end Quorate

theorem row_tolerated_iff (strict : Bool) (inst : PgmanagerInstance) :
    rank (nodeSeverity inst) ≤ tolerated strict ↔
      nodeSeverity inst ≠ .fail ∧ (strict = true → nodeSeverity inst = .pass) := by
  rcases node_severity_cases inst with known | known | known <;> cases strict <;>
    simp [known, rank, tolerated]

/-- The table exits with zero exactly over a clean status. -/
theorem status_ok_iff (strict : Bool) :
    renderStatus strict engine = exitOK ↔ StatusClean strict engine := by
  rw [render_status_ok_iff, overall_rank_le_iff]
  cases quorate : (substrateOf engine).quorate with
  | false =>
      have failed := not_quorate_fails engine quorate
      constructor
      · rintro ⟨-, -, peers, -⟩
        rw [failed] at peers
        cases strict <;> exact absurd peers (by decide)
      · intro clean
        have majority := (quorate_iff engine).2 clean.quorate
        rw [quorate] at majority
        cases majority
  | true =>
      have segments := segments_quorate engine quorate strict
      rw [segments.1, segments.2, peers_quorate engine quorate strict]
      simp only [row_tolerated_iff]
      constructor
      · rintro ⟨primary, leader, ⟨healthy, all⟩, rows⟩
        exact
          { primary := primary
            leader := leader
            healthy := healthy
            quorate := (quorate_iff engine).1 quorate
            rows := fun inst member => (rows inst member).1
            strictly := fun strictly => ⟨(all strictly).1, (all strictly).2,
              fun inst member => (rows inst member).2 strictly⟩ }
      · intro clean
        refine ⟨clean.primary, clean.leader, ⟨clean.healthy, ?_⟩, ?_⟩
        · intro strictly
          exact ⟨(clean.strictly strictly).1, (clean.strictly strictly).2.1⟩
        · intro inst member
          exact ⟨clean.rows inst member, fun strictly => (clean.strictly strictly).2.2 inst member⟩

end Rows

end PgmanProxy.Pgmctl.StatusVerdict
