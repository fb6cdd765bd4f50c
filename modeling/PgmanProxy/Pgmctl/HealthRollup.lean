import PgmanProxy.Pgmctl.StatusVerdict

/-!
# `pgmctl health`

One line per component, composed from `/v1/status` and `/v1/diagnose`, and the worst
of their severities. WARN and UNKNOWN share a rank, so of the two the one that comes
first is reported, and only one of them makes the command fail.
-/

namespace PgmanProxy.Pgmctl.HealthRollup

open PgmanProxy.Library.GoJson PgmanProxy.Library.RankedFold
open PgmanProxy.Library.GoStrings (toLower)
open PgmanProxy.Pgmctl.Commands (Failure)
open PgmanProxy.Pgmctl.ReadCommands PgmanProxy.Pgmctl.StatusVerdict

set_option autoImplicit false

structure HealthLine where
  component : String
  status : Severity
  message : String
deriving DecidableEq, Repr

structure HealthPayload where
  overall : Severity
  lines : List HealthLine
deriving DecidableEq, Repr

structure IssueRecord where
  severity : Int
  component : String
  message : String
  suggestion : String
deriving DecidableEq, Repr

structure Diagnosis where
  healthy : Bool
  issues : List IssueRecord
deriving DecidableEq, Repr

def issueShape : Shape IssueRecord where
  name := "issueRecord"
  goType := "cmd.issueRecord"
  fields := [
    intField "Severity" (fun number target => { target with severity := number }),
    stringField "Component" "string" (fun text target => { target with component := text }),
    stringField "Message" "string" (fun text target => { target with message := text }),
    stringField "Suggestion" "string" (fun text target => { target with suggestion := text })]
  zero := ⟨0, "", "", ""⟩

def diagnosisShape : Shape Diagnosis where
  name := "diagnosisShape"
  goType := "cmd.diagnosisShape"
  fields := [
    boolField "Healthy" (fun flag target => { target with healthy := flag }),
    sliceField "Issues" "[]cmd.issueRecord" issueShape
      (fun issues target => { target with issues := issues })]
  zero := ⟨false, []⟩

def severityFromPGManager (ordinal : Int) : Severity :=
  if ordinal = 0 then .info
  else if ordinal = 1 then .warn
  else if ordinal = 2 then .fail
  else .unknown

/-! ## The lines -/

structure PeerTally where
  healthy : Nat
  failed : List String
  fenced : List String
  unknown : List String
deriving DecidableEq, Repr

def tallyStep (tally : PeerTally) (inst : PgmanagerInstance) : PeerTally :=
  let state := toLower inst.state
  if state = "running" then
    if inst.postgresUp then { tally with healthy := tally.healthy + 1 }
    else { tally with failed := tally.failed ++ [inst.nodeID ++ "(pg-down)"] }
  else if state = "failed" then { tally with failed := tally.failed ++ [inst.nodeID] }
  else if state = "fenced" then { tally with fenced := tally.fenced ++ [inst.nodeID] }
  else if state = "unknown" ∨ state = "" then
    { tally with unknown := tally.unknown ++ [inst.nodeID] }
  else { tally with unknown := tally.unknown ++ [inst.nodeID ++ "(" ++ state ++ ")"] }

def tallyPeers (engine : PgmanagerStatus) : PeerTally :=
  engine.instances.foldl tallyStep ⟨0, [], [], []⟩

def PeerTally.parts (tally : PeerTally) : List String :=
  let part (label : String) (names : List String) : List String :=
    if names = [] then [] else [label ++ ",".intercalate names]
  part "failed: " tally.failed ++ part "fenced: " tally.fenced ++
    part "unreachable: " tally.unknown

def peersHealth (engine : PgmanagerStatus) : Severity × String :=
  let tally := tallyPeers engine
  let base := toString tally.healthy ++ "/" ++ toString engine.instances.length ++ " healthy"
  if engine.instances.length = 0 then (.unknown, "no peer information")
  else if tally.parts = [] then (.pass, base)
  else
    (if tally.failed ≠ [] then .fail else .warn,
      base ++ " (" ++ "; ".intercalate tally.parts ++ ")")

def quorumHealth (engine : PgmanagerStatus) : Severity × String :=
  let total := engine.instances.length
  let reachable := engine.instances.countP responds
  let need := total / 2 + 1
  let share := toString reachable ++ "/" ++ toString total ++ " reachable ("
  if total = 0 then (.unknown, "no peer information")
  else if engine.primaryNodeID = "" ∨ engine.leaderNodeID = "" then
    (.fail, "missing primary or leader")
  else if reachable < need then (.fail, "only " ++ share ++ "need " ++ toString need ++ ")")
  else (.pass, share ++ "≥ " ++ toString need ++ ")")

/-- With a primary and a leader the line is about the majority alone. -/
theorem quorum_status (engine : PgmanagerStatus) (primary : engine.primaryNodeID ≠ "")
    (leader : engine.leaderNodeID ≠ "") :
    (quorumHealth engine).1 =
      if engine.instances.length = 0 then .unknown
      else if engine.instances.length / 2 + 1 ≤ (peerCounts engine).responding then .pass
      else .fail := by
  have count : engine.instances.countP responds = (peerCounts engine).responding := rfl
  unfold quorumHealth
  dsimp only
  rw [count, if_neg (not_or.2 ⟨primary, leader⟩)]
  split
  · rfl
  · by_cases majority : engine.instances.length / 2 + 1 ≤ (peerCounts engine).responding
    · rw [if_neg (Nat.not_lt.2 majority), if_pos majority]
    · rw [if_pos (Nat.lt_of_not_le majority), if_neg majority]

def issueSeverity (issue : IssueRecord) : Severity := severityFromPGManager issue.severity

/-- The text of an issue that counts as replication. -/
def replicationMessage (issue : IssueRecord) : Option String :=
  if issue.component ∈ ["replication", "wal", "slot", ""] then
    some (issue.component ++ ": " ++ issue.message)
  else none

def replicationSummary (diagnosis : Diagnosis) : Severity × String :=
  if diagnosis.healthy then (.pass, "all streams healthy")
  else
    let severity := worst rank .pass (diagnosis.issues.map issueSeverity)
    match diagnosis.issues.filterMap replicationMessage with
    | [] => (severity, "see `pgmctl get audit` for details")
    | [message] => (severity, message)
    | message :: more => (severity, message ++ " (+" ++ toString more.length ++ " more)")

def worstOf (lines : List HealthLine) : Severity := worst rank .pass (lines.map HealthLine.status)

def natsHealth (embedded : Option EmbeddedNATSSnapshot) : Severity × String :=
  match embedded with
  | none => (.info, "snapshot unavailable")
  | some snapshot =>
      if snapshot.ready then (.pass, toString snapshot.routesMeshed ++ " routes meshed")
      else (.fail, "not ready")

def primaryLine (engine : PgmanagerStatus) : Severity × String :=
  if engine.primaryNodeID = "" then (.fail, "no primary elected")
  else (.pass, engine.primaryNodeID)

def leaderLine (engine : PgmanagerStatus) : Severity × String :=
  if engine.leaderNodeID = "" then (.fail, "no leader elected") else (.pass, engine.leaderNodeID)

def healthLine (component : String) (health : Severity × String) : HealthLine :=
  ⟨component, health.1, health.2⟩

def healthLines (engine : PgmanagerStatus) (embedded : Option EmbeddedNATSSnapshot)
    (replication : Severity × String) : List HealthLine :=
  [healthLine "control-plane" (.pass, "reachable"),
    healthLine "embedded-nats" (natsHealth embedded),
    healthLine "primary" (primaryLine engine),
    healthLine "leader" (leaderLine engine),
    healthLine "peers" (peersHealth engine),
    healthLine "quorum" (quorumHealth engine),
    healthLine "replication" replication]

/-- The replication line's part of `/v1/diagnose`; every failure on the way is UNKNOWN. -/
def diagnose (session : Session) : Severity × String :=
  match session.get "/v1/diagnose" with
  | .ok (some value) =>
      match decodeValue false diagnosisShape value with
      | .ok diagnosis => replicationSummary diagnosis
      | .error _ => (.unknown, "diagnose unavailable")
  | _ => (.unknown, "diagnose unavailable")

def healthPayload (engine : PgmanagerStatus) (embedded : Option EmbeddedNATSSnapshot)
    (replication : Severity × String) : HealthPayload :=
  ⟨worstOf (healthLines engine embedded replication), healthLines engine embedded replication⟩

def healthVerdict (strict : Bool) : Severity → Except Failure Unit
  | .pass => .ok ()
  | .info => .ok ()
  | .warn => if strict then warned "warnings present (--strict)" else .ok ()
  | _ => unhealthy "cluster is not fully healthy"

def runHealth (readers : Readers) (session : Session) (flags : ReadFlags) :
    Except Failure Unit := do
  let format ← openFormat flags
  let (engine, embedded) ← fetchStatus readers session
  let payload := healthPayload engine embedded (diagnose session)
  report format (healthVerdict flags.strict payload.overall)

/-! ## Worst case -/

/-- PASS, INFO, WARN, UNKNOWN, FAIL. -/
def grade : Severity → Nat
  | .pass => 0
  | .info => 1
  | .warn => 2
  | .unknown => 3
  | .fail => 4

/-- One line more, or one component that got worse. -/
inductive Degrades : List HealthLine → List HealthLine → Prop
  | added (before after : List HealthLine) (line : HealthLine) :
      Degrades (before ++ after) (before ++ line :: after)
  | worsened (before after : List HealthLine) (line : HealthLine) (status : Severity)
      (worse : grade line.status ≤ grade status) :
      Degrades (before ++ line :: after) (before ++ { line with status := status } :: after)

def healthExit (format : Format) (strict : Bool) (lines : List HealthLine) : Nat :=
  exitCode (report format (healthVerdict strict (worstOf lines)))

def replicationLine (diagnosis : Diagnosis) : HealthLine :=
  healthLine "replication" (replicationSummary diagnosis)

/-- The rollup of some component lines and the line for a diagnosis. -/
def rollup (lines : List HealthLine) (diagnosis : Diagnosis) : List HealthLine :=
  lines ++ [replicationLine diagnosis]

/-- No order of lines or issues changes the verdict, and nothing that makes the cluster worse
turns a failure into a success. -/
structure WorstCase (format : Format) (strict : Bool) (lines : List HealthLine)
    (diagnosis : Diagnosis) : Prop where
  order : ∀ issues : List IssueRecord, issues.Perm diagnosis.issues →
    ∀ other : List HealthLine, other.Perm (rollup lines ⟨diagnosis.healthy, issues⟩) →
      worstOf other = worstOf (rollup lines diagnosis) ∧
        healthExit format strict other = healthExit format strict (rollup lines diagnosis)
  monotone : ∀ after, Degrades (rollup lines diagnosis) after →
    healthExit format strict (rollup lines diagnosis) ≠ exitOK →
      healthExit format strict after ≠ exitOK

/-- The severities that go in: those of the lines, and those of the issues unless the
diagnosis says healthy. -/
def severities (lines : List HealthLine) (diagnosis : Diagnosis) : List Severity :=
  lines.map HealthLine.status ++
    if diagnosis.healthy then [] else diagnosis.issues.map issueSeverity

theorem rank_collision (one other : Severity) (same : rank one = rank other) :
    one = other ∨ (one = .warn ∧ other = .unknown) ∨ (one = .unknown ∧ other = .warn) := by
  cases one <;> cases other <;> simp_all [rank]

theorem rank_le_two (severity : Severity) (fine : severity ≠ .fail) : rank severity ≤ 2 := by
  cases severity <;> simp_all [rank]

theorem ranks_le_two (statuses : List Severity) (fine : .fail ∉ statuses) :
    ∀ status ∈ statuses, rank status ≤ 2 := by
  intro status member
  apply rank_le_two
  intro failed
  rw [failed] at member
  exact fine member

theorem rank_le_of_grade (one other : Severity) (worse : grade one ≤ grade other) :
    rank one ≤ rank other := by
  cases one <;> cases other <;> simp_all [rank, grade]

theorem worst_fail (start : Severity) (items : List Severity) (failed : .fail ∈ items) :
    worst rank start items = .fail := by
  apply worst_eq_top rank start items .fail (List.mem_cons_of_mem start failed)
  · intro item _
    cases item <;> decide
  · intro item _
    cases item <;> decide

section Summary

theorem replication_status (diagnosis : Diagnosis) :
    (replicationLine diagnosis).status =
      if diagnosis.healthy then .pass
      else worst rank .pass (diagnosis.issues.map issueSeverity) := by
  unfold replicationLine healthLine replicationSummary
  split
  · rfl
  · dsimp only
    split <;> rfl

theorem rollup_statuses (lines : List HealthLine) (diagnosis : Diagnosis) :
    (rollup lines diagnosis).map HealthLine.status =
      lines.map HealthLine.status ++ [(replicationLine diagnosis).status] := by
  simp [rollup]

/-- The line's severity is PASS or goes in. -/
theorem replication_mem (lines : List HealthLine) (diagnosis : Diagnosis) :
    (replicationLine diagnosis).status ∈ .pass :: severities lines diagnosis := by
  rw [replication_status]
  by_cases healthy : diagnosis.healthy = true
  · rw [if_pos healthy]
    exact List.mem_cons_self
  · rw [if_neg healthy]
    have member := worst_mem rank .pass (diagnosis.issues.map issueSeverity)
    rw [severities, if_neg healthy]
    rcases List.mem_cons.1 member with start | issue
    · rw [start]
      exact List.mem_cons_self
    · exact List.mem_cons_of_mem _ (List.mem_append_right _ issue)

theorem rollup_mem (lines : List HealthLine) (diagnosis : Diagnosis) (severity : Severity)
    (member : severity ∈ .pass :: (rollup lines diagnosis).map HealthLine.status) :
    severity ∈ .pass :: severities lines diagnosis := by
  rw [rollup_statuses, List.mem_cons, List.mem_append, List.mem_singleton] at member
  rcases member with start | line | replication
  · rw [start]
    exact List.mem_cons_self
  · exact List.mem_cons_of_mem _ (List.mem_append_left _ line)
  · rw [replication]
    exact replication_mem lines diagnosis

/-- Permuted issues are the same severities in another order. -/
theorem severities_perm (lines : List HealthLine) (healthy : Bool)
    (issues others : List IssueRecord) (perm : issues.Perm others) :
    (severities lines ⟨healthy, issues⟩).Perm (severities lines ⟨healthy, others⟩) := by
  unfold severities
  apply List.Perm.append_left
  cases healthy
  · exact perm.map issueSeverity
  · exact List.Perm.refl []

theorem fail_in_rollup (lines : List HealthLine) (diagnosis : Diagnosis)
    (failed : .fail ∈ severities lines diagnosis) :
    .fail ∈ (rollup lines diagnosis).map HealthLine.status := by
  rw [rollup_statuses]
  rcases List.mem_append.1 failed with line | issue
  · exact List.mem_append_left _ line
  · apply List.mem_append_right
    by_cases healthy : diagnosis.healthy = true
    · rw [if_pos healthy] at issue
      cases issue
    · rw [if_neg healthy] at issue
      rw [replication_status, if_neg healthy, worst_fail _ _ issue]
      exact List.mem_singleton_self _

end Summary

section Orders

variable (lines : List HealthLine) (diagnosis : Diagnosis)

theorem told_apart
    (unmixed : ¬(.warn ∈ severities lines diagnosis ∧ .unknown ∈ severities lines diagnosis))
    (one other : Severity) (first : one ∈ .pass :: severities lines diagnosis)
    (second : other ∈ .pass :: severities lines diagnosis) (same : rank one = rank other) :
    one = other := by
  rcases rank_collision one other same with equal | ⟨rfl, rfl⟩ | ⟨rfl, rfl⟩
  · exact equal
  · exact absurd ⟨by simpa using first, by simpa using second⟩ unmixed
  · exact absurd ⟨by simpa using second, by simpa using first⟩ unmixed

theorem replication_status_perm
    (unmixed : ¬(.warn ∈ severities lines diagnosis ∧ .unknown ∈ severities lines diagnosis))
    (issues : List IssueRecord) (perm : issues.Perm diagnosis.issues) :
    (replicationLine ⟨diagnosis.healthy, issues⟩).status = (replicationLine diagnosis).status := by
  rw [replication_status, replication_status]
  dsimp only
  by_cases healthy : diagnosis.healthy = true
  · rw [if_pos healthy, if_pos healthy]
  · rw [if_neg healthy, if_neg healthy]
    symm
    apply worst_perm rank .pass _ _ (perm.symm.map issueSeverity)
    have inside : ∀ severity ∈ .pass :: diagnosis.issues.map issueSeverity,
        severity ∈ .pass :: severities lines diagnosis := by
      rw [severities, if_neg healthy]
      intro severity member
      exact List.cons_subset_cons _ (List.subset_append_right _ _) member
    intro one first other second
    exact told_apart lines diagnosis unmixed one other (inside one first) (inside other second)

theorem verdict_kept
    (settled : .fail ∈ severities lines diagnosis ∨
      ¬(.warn ∈ severities lines diagnosis ∧ .unknown ∈ severities lines diagnosis))
    (issues : List IssueRecord) (perm : issues.Perm diagnosis.issues) (other : List HealthLine)
    (arranged : other.Perm (rollup lines ⟨diagnosis.healthy, issues⟩)) :
    worstOf other = worstOf (rollup lines diagnosis) := by
  have statuses := arranged.map HealthLine.status
  rcases settled with failed | unmixed
  · have spread := severities_perm lines diagnosis.healthy issues diagnosis.issues perm
    have there := fail_in_rollup lines ⟨diagnosis.healthy, issues⟩ (spread.mem_iff.2 failed)
    have here := fail_in_rollup lines diagnosis failed
    rw [worstOf, worstOf, worst_fail _ _ (statuses.mem_iff.2 there), worst_fail _ _ here]
  · have replication := replication_status_perm lines diagnosis unmixed issues perm
    rw [rollup_statuses, replication, ← rollup_statuses] at statuses
    symm
    apply worst_perm rank .pass _ _ statuses.symm
    intro one first other second
    exact told_apart lines diagnosis unmixed one other
      (rollup_mem lines diagnosis one first) (rollup_mem lines diagnosis other second)

theorem bounded_by_two (fine : .fail ∉ severities lines diagnosis) (severity : Severity)
    (member : severity ∈ .pass :: severities lines diagnosis) : rank severity ≤ 2 := by
  apply ranks_le_two (.pass :: severities lines diagnosis) _ severity member
  simpa using fine

/-- As long as nothing fails, each severity of rank two leads in some arrangement. -/
theorem can_lead (top : Severity) (second : rank top = 2)
    (present : top ∈ severities lines diagnosis) (fine : .fail ∉ severities lines diagnosis) :
    ∃ issues : List IssueRecord, issues.Perm diagnosis.issues ∧
      ∃ other : List HealthLine, other.Perm (rollup lines ⟨diagnosis.healthy, issues⟩) ∧
        worstOf other = top := by
  have above : rank .pass < rank top := by
    rw [second]
    decide
  rcases List.mem_append.1 present with line | issue
  · obtain ⟨lead, member, rfl⟩ := List.mem_map.1 line
    have inside : lead ∈ rollup lines diagnosis := List.mem_append_left _ member
    refine ⟨diagnosis.issues, List.Perm.refl _, lead :: (rollup lines diagnosis).erase lead,
      (List.perm_cons_erase inside).symm, ?_⟩
    apply worst_first rank .pass _ _ above
    intro severity later
    obtain ⟨other, rest, rfl⟩ := List.mem_map.1 later
    rw [second]
    apply bounded_by_two lines diagnosis fine
    apply rollup_mem
    exact List.mem_cons_of_mem _ (List.mem_map_of_mem (List.mem_of_mem_erase rest))
  · have unhealthy : ¬diagnosis.healthy = true := by
      intro healthy
      rw [if_pos healthy] at issue
      cases issue
    rw [if_neg unhealthy] at issue
    obtain ⟨lead, member, rfl⟩ := List.mem_map.1 issue
    have arranged := (List.perm_cons_erase member).symm
    have spread := severities_perm lines diagnosis.healthy _ _ arranged
    have leads : (replicationLine ⟨diagnosis.healthy, lead :: diagnosis.issues.erase lead⟩).status =
        issueSeverity lead := by
      rw [replication_status, if_neg unhealthy]
      apply worst_first rank .pass _ _ above
      intro severity later
      obtain ⟨other, rest, rfl⟩ := List.mem_map.1 later
      rw [second]
      apply bounded_by_two lines diagnosis fine
      rw [severities, if_neg unhealthy]
      exact List.mem_cons_of_mem _ (List.mem_append_right _
        (List.mem_map_of_mem (List.mem_of_mem_erase rest)))
    refine ⟨_, arranged, _, (List.perm_append_singleton _ lines).symm, ?_⟩
    rw [worstOf, List.map_cons, leads]
    apply worst_first rank .pass _ _ above
    intro severity later
    rw [second]
    apply bounded_by_two lines diagnosis fine
    exact List.mem_cons_of_mem _ (List.mem_append_left _ later)

/-- Over a mixture of WARN and UNKNOWN the order decides. -/
theorem settled_of_order
    (order : ∀ issues : List IssueRecord, issues.Perm diagnosis.issues →
      ∀ other : List HealthLine, other.Perm (rollup lines ⟨diagnosis.healthy, issues⟩) →
        worstOf other = worstOf (rollup lines diagnosis)) :
    .fail ∈ severities lines diagnosis ∨
      ¬(.warn ∈ severities lines diagnosis ∧ .unknown ∈ severities lines diagnosis) := by
  by_contra mixed
  push Not at mixed
  obtain ⟨fine, warned, unknown⟩ := mixed
  obtain ⟨issues, perm, other, arranged, leads⟩ :=
    can_lead lines diagnosis .warn rfl warned fine
  obtain ⟨issues', perm', other', arranged', leads'⟩ :=
    can_lead lines diagnosis .unknown rfl unknown fine
  have one := order issues perm other arranged
  have two := order issues' perm' other' arranged'
  rw [leads] at one
  rw [leads', ← one] at two
  cases two

end Orders

/-! ## Degradation -/

theorem degrades_rank (before after : List HealthLine) (degrades : Degrades before after) :
    rank (worstOf before) ≤ rank (worstOf after) := by
  have held : ∀ severity ∈ .pass :: after.map HealthLine.status,
      rank severity ≤ rank (worstOf after) :=
    rank_le_worst rank .pass _
  apply (rank_worst_le_iff rank .pass _ _).2
  intro severity member
  cases degrades with
  | added front back line =>
      apply held
      simp only [List.map_append, List.map_cons, List.mem_cons, List.mem_append] at member ⊢
      rcases member with start | left | right
      · exact .inl start
      · exact .inr (.inl left)
      · exact .inr (.inr (.inr right))
  | worsened front back line status worse =>
      simp only [List.map_append, List.map_cons, List.mem_cons, List.mem_append] at member
      rcases member with start | left | same | right
      · exact held _ (by simp [start])
      · exact held _ (by simp [left])
      · rw [same]
        exact Nat.le_trans (rank_le_of_grade _ _ worse) (held status (by simp))
      · exact held _ (by simp [right])

theorem degrades_fail (before after : List HealthLine) (degrades : Degrades before after)
    (failed : worstOf before = .fail) : worstOf after = .fail := by
  have kept := degrades_rank before after degrades
  rw [failed] at kept
  cases reached : worstOf after <;> rw [reached] at kept <;>
    first | rfl | exact absurd kept (by decide)

section Exits

variable (format : Format) (strict : Bool)

/-- What the table makes of a severity; the documents always exit with zero. -/
theorem health_exit_cases (lines : List HealthLine) :
    (format = .json ∨ format = .yaml) ∧ healthExit format strict lines = exitOK ∨
      ¬(format = .json ∨ format = .yaml) ∧
        healthExit format strict lines = exitCode (healthVerdict strict (worstOf lines)) := by
  cases format <;> simp [healthExit, report, exitCode]

theorem verdict_ok_iff (severity : Severity) :
    exitCode (healthVerdict strict severity) = exitOK ↔
      severity = .pass ∨ severity = .info ∨ severity = .warn ∧ strict = false := by
  cases severity <;> cases strict <;> decide

/-- Nothing that makes the rollup worse turns its failure into a success, unless it leads with
UNKNOWN and a WARN that comes first is let through. -/
theorem degradation_kept (lines after : List HealthLine) (degrades : Degrades lines after)
    (firm : worstOf lines ≠ .unknown ∨ strict = true ∨ format = .json ∨ format = .yaml)
    (failed : healthExit format strict lines ≠ exitOK) :
    healthExit format strict after ≠ exitOK := by
  rcases health_exit_cases format strict lines with ⟨-, zero⟩ | ⟨table, exits⟩
  · exact absurd zero failed
  rcases health_exit_cases format strict after with ⟨document, -⟩ | ⟨-, exitsAfter⟩
  · exact absurd document table
  rw [exits, ne_eq, verdict_ok_iff] at failed
  rw [exitsAfter, ne_eq, verdict_ok_iff]
  have kept := degrades_rank lines after degrades
  intro passed
  cases led : worstOf lines with
  | pass => exact failed (.inl led)
  | info => exact failed (.inr (.inl led))
  | fail =>
      rw [degrades_fail lines after degrades led] at passed
      simp at passed
  | warn =>
      -- A WARN fails under `--strict` only, and then every severity of its rank does.
      have strictly : strict = true := by
        cases strict
        · exact absurd (.inr (.inr ⟨led, rfl⟩)) failed
        · rfl
      rw [led] at kept
      rcases passed with reached | reached | ⟨-, lax⟩
      · rw [reached] at kept
        exact absurd kept (by decide)
      · rw [reached] at kept
        exact absurd kept (by decide)
      · rw [strictly] at lax
        cases lax
  | unknown =>
      have strictly : strict = true := by
        rcases firm with other | strictly | document
        · exact absurd led other
        · exact strictly
        · exact absurd document table
      rw [led] at kept
      rcases passed with reached | reached | ⟨-, lax⟩
      · rw [reached] at kept
        exact absurd kept (by decide)
      · rw [reached] at kept
        exact absurd kept (by decide)
      · rw [strictly] at lax
        cases lax

def warnLine : HealthLine := ⟨"peers", .warn, "2/3 healthy (fenced: node-c)"⟩

/-- A WARN in front of a rollup that leads with UNKNOWN takes its place. -/
theorem warn_hides_unknown (lines : List HealthLine) (led : worstOf lines = .unknown) :
    worstOf (warnLine :: lines) = .warn := by
  apply worst_first rank .pass .warn _ (by decide)
  intro severity member
  have held := rank_le_worst rank .pass (lines.map HealthLine.status) severity
    (List.mem_cons_of_mem _ member)
  have bound : rank (worst rank .pass (lines.map HealthLine.status)) = 2 := by
    rw [← worstOf, led]
    rfl
  rw [bound] at held
  exact held

theorem monotone_firm (lines : List HealthLine)
    (monotone : ∀ after, Degrades lines after → healthExit format strict lines ≠ exitOK →
      healthExit format strict after ≠ exitOK) :
    worstOf lines ≠ .unknown ∨ strict = true ∨ format = .json ∨ format = .yaml := by
  by_contra loose
  simp only [not_or, not_not] at loose
  obtain ⟨led, lax, notJSON, notYAML⟩ := loose
  have table : ¬(format = .json ∨ format = .yaml) := not_or.2 ⟨notJSON, notYAML⟩
  have exits := (health_exit_cases format strict lines).resolve_left (fun document =>
    table document.1)
  have exitsAfter := (health_exit_cases format strict (warnLine :: lines)).resolve_left
    (fun document => table document.1)
  apply monotone (warnLine :: lines) (Degrades.added [] lines warnLine)
  · rw [exits.2, led, ne_eq, verdict_ok_iff]
    simp
  · rw [exitsAfter.2, warn_hides_unknown lines led, verdict_ok_iff]
    simpa using lax

end Exits

/-- The rollup is a worst case if something fails, or nothing is unknown, or nothing warns and a
warning would count as a failure anyway or the exit code is fixed by the format. -/
theorem worst_case_iff (format : Format) (strict : Bool) (lines : List HealthLine)
    (diagnosis : Diagnosis) :
    WorstCase format strict lines diagnosis ↔
      .fail ∈ severities lines diagnosis ∨ .unknown ∉ severities lines diagnosis ∨
        .warn ∉ severities lines diagnosis ∧
          (strict = true ∨ format = .json ∨ format = .yaml) := by
  constructor
  · intro holds
    have settled := settled_of_order lines diagnosis (fun issues perm other arranged =>
      (holds.order issues perm other arranged).1)
    have firm := monotone_firm format strict (rollup lines diagnosis) holds.monotone
    by_cases failed : .fail ∈ severities lines diagnosis
    · exact .inl failed
    by_cases unknown : .unknown ∈ severities lines diagnosis
    · have unmixed := settled.resolve_left failed
      have quiet : .warn ∉ severities lines diagnosis := fun warned => unmixed ⟨warned, unknown⟩
      -- With nothing of its rank beside it, UNKNOWN leads.
      obtain ⟨issues, perm, other, arranged, leads⟩ :=
        can_lead lines diagnosis .unknown rfl unknown failed
      rw [verdict_kept lines diagnosis settled issues perm other arranged] at leads
      exact .inr (.inr ⟨quiet, firm.resolve_left (not_not_intro leads)⟩)
    · exact .inr (.inl unknown)
  · intro condition
    have settled : .fail ∈ severities lines diagnosis ∨
        ¬(.warn ∈ severities lines diagnosis ∧ .unknown ∈ severities lines diagnosis) := by
      rcases condition with failed | known | ⟨quiet, -⟩
      · exact .inl failed
      · exact .inr (fun mixed => known mixed.2)
      · exact .inr (fun mixed => quiet mixed.1)
    have firm : worstOf (rollup lines diagnosis) ≠ .unknown ∨ strict = true ∨ format = .json ∨
        format = .yaml := by
      rcases condition with failed | known | ⟨-, firm⟩
      · left
        rw [worstOf, worst_fail _ _ (fail_in_rollup lines diagnosis failed)]
        decide
      · left
        intro led
        have member := rollup_mem lines diagnosis _
          (worst_mem rank .pass ((rollup lines diagnosis).map HealthLine.status))
        rw [← worstOf, led] at member
        exact known (by simpa using member)
      · exact .inr firm
    constructor
    · intro issues perm other arranged
      have kept := verdict_kept lines diagnosis settled issues perm other arranged
      refine ⟨kept, ?_⟩
      rw [healthExit, healthExit, kept]
    · intro after degrades failed
      exact degradation_kept format strict _ after degrades firm failed

/-! ## A fenced peer hides an unknown one -/

def unknownIssue : Diagnosis := ⟨false, [⟨3, "replication", "walsender state lost", ""⟩]⟩

/-- Fencing a node takes the exit code from two to zero, and so does the order of the lines. -/
theorem fenced_peer_hides_unknown :
    healthExit .table false (rollup [] unknownIssue) = 2 ∧
      healthExit .table false (rollup [warnLine] unknownIssue) = 0 ∧
      healthExit .table false (rollup [warnLine] unknownIssue).reverse = 2 ∧
      ¬WorstCase .table false [warnLine] unknownIssue := by
  have exit : healthExit .table false (rollup [warnLine] unknownIssue) = 0 := by
    decide
  have reversed : healthExit .table false (rollup [warnLine] unknownIssue).reverse = 2 := by
    decide
  refine ⟨by decide, exit, reversed, ?_⟩
  intro holds
  have same := (holds.order _ (List.Perm.refl _) _ (List.reverse_perm _)).2
  rw [reversed, exit] at same
  cases same

end PgmanProxy.Pgmctl.HealthRollup
