import PgmanProxy.Pgmctl.HealthRollup
import PgmanProxy.Pgmctl.LagReport

/-!
# Exit codes and output formats

`status`, `health` and `lag` return from their document formats with the encoder, and
only the other formats go on to the verdict. The exit codes of the four formats then
agree exactly over the replies whose verdict is a success.
-/

namespace PgmanProxy.Pgmctl.ExitCodes

open PgmanProxy.Library.GoJson PgmanProxy.Library.RankedFold
open PgmanProxy.Library.GoScan (ScanError)
open PgmanProxy.Library.GoStrings (toLower)
open PgmanProxy.Pgmctl.Commands (Failure GlobalFlags preRun exitUsage)
open PgmanProxy.Pgmctl.ReadCommands PgmanProxy.Pgmctl.StatusVerdict
open PgmanProxy.Pgmctl.HealthRollup PgmanProxy.Pgmctl.LagReport
open PgmanProxy.Pgmctl.StatusFrames (WireStatus statusMembers)
open PgmanProxy.PgManager (Role State)

set_option autoImplicit false

/-! ## When `health` exits with zero -/

/-- A peer that failed, or that runs without its database. -/
def broken (inst : PgmanagerInstance) : Bool :=
  toLower inst.state = "failed" || toLower inst.state = "running" && !inst.postgresUp

/-- What `/v1/diagnose` said, when it could be read. -/
def diagnosisOf (session : Session) : Option Diagnosis :=
  match session.get "/v1/diagnose" with
  | .ok (some value) => (decodeValue false diagnosisShape value).toOption
  | _ => none

/-- A primary, a leader and a quorum, a ready NATS server, no broken peer and no failed
replication. A peer that does not run is let through without `--strict`, whatever the
diagnosis says; with all peers running there has to be one, and of its issues the first
that is more than informational has to be a warning. -/
structure HealthClean (strict : Bool) (engine : PgmanagerStatus)
    (embedded : Option EmbeddedNATSSnapshot) (diagnosis : Option Diagnosis) : Prop where
  nats : ∀ snapshot ∈ embedded, snapshot.ready = true
  primary : engine.primaryNodeID ≠ ""
  leader : engine.leaderNodeID ≠ ""
  quorate : engine.instances.length / 2 + 1 ≤ (peerCounts engine).responding
  peers : ∀ inst ∈ engine.instances, broken inst = false
  replication : ∀ found ∈ diagnosis, found.healthy = false →
    ∀ issue ∈ found.issues, issue.severity ≠ 2
  degraded : (∃ inst ∈ engine.instances, runs inst = false) → strict = false
  running : (∀ inst ∈ engine.instances, runs inst = true) →
    ∃ found, diagnosis = some found ∧ (found.healthy = false →
      ∀ first, found.issues.find? (fun issue => issue.severity ≠ 0) = some first →
        first.severity = 1 ∧ strict = false)

section Rollup

variable (strict : Bool)

theorem low_cases (severity : Severity) (low : rank severity ≤ 1) :
    severity = .pass ∨ severity = .info ∨ severity = .warn ∧ strict = false := by
  cases severity with
  | pass => exact .inl rfl
  | info => exact .inr (.inl rfl)
  | warn => exact absurd low (by decide)
  | unknown => exact absurd low (by decide)
  | fail => exact absurd low (by decide)

/-- The worst of some severities lets the command succeed when none of them is FAIL and the
first WARN or UNKNOWN, if there is one, is a WARN that is let through. -/
theorem worst_ok_iff (statuses : List Severity) :
    exitCode (healthVerdict strict (worst rank .pass statuses)) = exitOK ↔
      .fail ∉ statuses ∧ ∀ lead, statuses.find? (fun status => rank status = 2) = some lead →
        lead = .warn ∧ strict = false := by
  rw [verdict_ok_iff]
  constructor
  · intro passed
    have fine : .fail ∉ statuses := by
      intro failed
      rw [worst_fail .pass statuses failed] at passed
      simp at passed
    refine ⟨fine, ?_⟩
    intro lead found
    have highest := ranks_le_two statuses fine
    have leads := worst_find rank .pass lead statuses 2 (by decide) highest found
    have second : rank lead = 2 := by simpa using List.find?_some found
    rw [leads] at passed
    rcases passed with low | low | warned
    · rw [low] at second
      cases second
    · rw [low] at second
      cases second
    · exact warned
  · rintro ⟨fine, first⟩
    have highest := ranks_le_two statuses fine
    cases found : statuses.find? (fun status => rank status = 2) with
    | some lead =>
        rw [worst_find rank .pass lead statuses 2 (by decide) highest found]
        exact .inr (.inr (first lead found))
    | none =>
        have low : rank (worst rank .pass statuses) ≤ 1 := by
          apply (rank_worst_le_iff rank .pass statuses 1).2
          rw [List.forall_mem_cons]
          refine ⟨by decide, ?_⟩
          intro status member
          have bound := highest status member
          have other : rank status ≠ 2 := by simpa using List.find?_eq_none.1 found status member
          omega
        exact low_cases strict _ low

/-- Of the lines only the peers' and the replication's can be of rank two and not fail. -/
theorem lines_ok_iff (nats primary leader peers quorum replication : Severity)
    (natsKnown : rank nats ≠ 2) (primaryKnown : rank primary ≠ 2) (leaderKnown : rank leader ≠ 2)
    (quorumKnown : rank quorum = 2 → peers = .unknown) :
    exitCode (healthVerdict strict
        (worst rank .pass [.pass, nats, primary, leader, peers, quorum, replication])) = exitOK ↔
      (nats ≠ .fail ∧ primary ≠ .fail ∧ leader ≠ .fail ∧ quorum ≠ .fail) ∧
        (peers ≠ .fail ∧ peers ≠ .unknown) ∧ replication ≠ .fail ∧
        (peers = .warn → strict = false) ∧
        (peers ≠ .warn → exitCode (healthVerdict strict replication) = exitOK) := by
  have leads : [.pass, nats, primary, leader, peers, quorum, replication].find?
      (fun status => rank status = 2) =
        if rank peers = 2 then some peers else if rank replication = 2 then some replication
        else none := by
    have start : rank .pass ≠ 2 := by decide
    by_cases peersLead : rank peers = 2
    · simp [start, natsKnown, primaryKnown, leaderKnown, peersLead]
    · have quorumFine : rank quorum ≠ 2 := by
        intro lost
        rw [quorumKnown lost] at peersLead
        exact peersLead rfl
      by_cases last : rank replication = 2 <;>
        simp [start, natsKnown, primaryKnown, leaderKnown, peersLead, quorumFine, last]
  rw [worst_ok_iff, leads, verdict_ok_iff]
  simp only [List.mem_cons, List.not_mem_nil, or_false, not_or, reduceCtorEq, not_false_eq_true,
    true_and, ne_eq, eq_comm (a := Severity.fail)]
  cases peers <;> cases replication <;> simp [rank, and_assoc]

end Rollup

section Lines

variable (engine : PgmanagerStatus)

/-- One row of the tally: what it adds to the failed and to the troubled peers. -/
theorem tally_step_troubles (tally : PeerTally) (inst : PgmanagerInstance) :
    ((tallyStep tally inst).failed = [] ↔ tally.failed = [] ∧ broken inst = false) ∧
      ((tallyStep tally inst).parts = [] ↔ tally.parts = [] ∧ runs inst = true) := by
  unfold tallyStep broken runs PeerTally.parts
  dsimp only
  by_cases running : toLower inst.state = "running"
  · cases up : inst.postgresUp <;> simp [running]
  · rw [if_neg running]
    by_cases failed : toLower inst.state = "failed"
    · simp [failed]
    · rw [if_neg failed]
      by_cases fenced : toLower inst.state = "fenced"
      · simp [fenced]
      · rw [if_neg fenced]
        split <;> simp [running, failed]

theorem tally_troubles (instances : List PgmanagerInstance) (tally : PeerTally) :
    ((instances.foldl tallyStep tally).failed = [] ↔
        tally.failed = [] ∧ ∀ inst ∈ instances, broken inst = false) ∧
      ((instances.foldl tallyStep tally).parts = [] ↔
        tally.parts = [] ∧ ∀ inst ∈ instances, runs inst = true) := by
  induction instances generalizing tally with
  | nil => simp
  | cons inst instances ih =>
      have step := tally_step_troubles tally inst
      have rest := ih (tallyStep tally inst)
      rw [List.foldl_cons, rest.1, rest.2, step.1, step.2, List.forall_mem_cons,
        List.forall_mem_cons, and_assoc, and_assoc]
      exact ⟨Iff.rfl, Iff.rfl⟩

theorem peers_status (some : engine.instances ≠ []) :
    (peersHealth engine).1 =
      if ∀ inst ∈ engine.instances, runs inst = true then .pass
      else if ∀ inst ∈ engine.instances, broken inst = false then .warn
      else .fail := by
  obtain ⟨failed, parts⟩ := tally_troubles engine.instances ⟨0, [], [], []⟩
  have none : (⟨0, [], [], []⟩ : PeerTally).parts = [] := rfl
  rw [none, eq_self, true_and] at parts
  rw [eq_self, true_and] at failed
  unfold peersHealth
  dsimp only
  rw [if_neg (by simpa using some)]
  by_cases running : ∀ inst ∈ engine.instances, runs inst = true
  · rw [if_pos running, tallyPeers, if_pos (parts.2 running)]
  · rw [if_neg running, tallyPeers, if_neg (fun quiet => running (parts.1 quiet))]
    by_cases sound : ∀ inst ∈ engine.instances, broken inst = false
    · rw [if_pos sound]
      exact if_neg (not_not_intro (failed.2 sound))
    · rw [if_neg sound]
      exact if_pos (fun quiet => sound (failed.1 quiet))

theorem primary_status :
    rank (primaryLine engine).1 ≠ 2 ∧
      ((primaryLine engine).1 ≠ .fail ↔ engine.primaryNodeID ≠ "") := by
  unfold primaryLine
  by_cases named : engine.primaryNodeID = "" <;> simp [named, rank]

theorem leader_status :
    rank (leaderLine engine).1 ≠ 2 ∧
      ((leaderLine engine).1 ≠ .fail ↔ engine.leaderNodeID ≠ "") := by
  unfold leaderLine
  by_cases named : engine.leaderNodeID = "" <;> simp [named, rank]

theorem nats_status (embedded : Option EmbeddedNATSSnapshot) :
    rank (natsHealth embedded).1 ≠ 2 ∧
      ((natsHealth embedded).1 ≠ .fail ↔ ∀ snapshot ∈ embedded, snapshot.ready = true) := by
  cases embedded with
  | none => simp [natsHealth, rank]
  | some snapshot =>
      unfold natsHealth
      by_cases ready : snapshot.ready = true <;> simp [ready, rank]

/-- Both lines about the peers are UNKNOWN together, when there are none. -/
theorem quorum_unknown (lost : rank (quorumHealth engine).1 = 2) :
    (peersHealth engine).1 = .unknown := by
  by_cases empty : engine.instances.length = 0
  · unfold peersHealth
    dsimp only
    rw [if_pos empty]
  · unfold quorumHealth at lost
    dsimp only at lost
    rw [if_neg empty] at lost
    split at lost
    · cases lost
    · split at lost
      · cases lost
      · cases lost

/-- The replication line, from the diagnosis. -/
theorem diagnose_status (session : Session) :
    (diagnose session).1 =
      (diagnosisOf session).elim .unknown (fun found => (replicationLine found).status) := by
  unfold diagnose diagnosisOf
  cases session.get "/v1/diagnose" with
  | error failure => rfl
  | ok reply =>
      cases reply with
      | none => rfl
      | some value =>
          dsimp only
          cases decodeValue false diagnosisShape value with
          | error failure => rfl
          | ok found => rfl

theorem issue_fails_iff (issue : IssueRecord) :
    issueSeverity issue = .fail ↔ issue.severity = 2 := by
  unfold issueSeverity severityFromPGManager
  split
  · simp; omega
  split
  · simp; omega
  split
  · simpa
  · simpa

/-- Next to no failed issue, an issue of rank two is one that is not informational. -/
theorem issue_leads (issue : IssueRecord) (fine : issue.severity ≠ 2) :
    (rank (issueSeverity issue) = 2 ↔ issue.severity ≠ 0) ∧
      (issueSeverity issue = .warn ↔ issue.severity = 1) := by
  unfold issueSeverity severityFromPGManager
  by_cases zero : issue.severity = 0
  · simp [zero, rank]
  · by_cases one : issue.severity = 1
    · simp [one, rank]
    · simp [zero, one, fine, rank]

/-- The first issue of rank two, behind the severities of all. -/
theorem find_issue (issues : List IssueRecord) (fine : ∀ issue ∈ issues, issue.severity ≠ 2) :
    (issues.map issueSeverity).find? (fun status => rank status = 2) =
      (issues.find? (fun issue => issue.severity ≠ 0)).map issueSeverity := by
  induction issues with
  | nil => rfl
  | cons issue issues ih =>
      rw [List.forall_mem_cons] at fine
      have leads := (issue_leads issue fine.1).1
      rw [List.map_cons, List.find?_cons, List.find?_cons, ih fine.2]
      by_cases zero : issue.severity = 0
      · simp [zero, leads]
      · simp [zero, leads]

theorem issues_fine_iff (issues : List IssueRecord) :
    worst rank .pass (issues.map issueSeverity) ≠ .fail ↔
      ∀ issue ∈ issues, issue.severity ≠ 2 := by
  constructor
  · intro fine issue member severe
    apply fine
    apply worst_fail
    rw [← (issue_fails_iff issue).2 severe]
    exact List.mem_map_of_mem member
  · intro fine failed
    have member := worst_mem rank .pass (issues.map issueSeverity)
    rw [failed] at member
    obtain ⟨issue, inside, severe⟩ : ∃ issue ∈ issues, issueSeverity issue = .fail := by
      simpa using member
    exact fine issue inside ((issue_fails_iff issue).1 severe)

theorem issues_ok_iff (strict : Bool) (issues : List IssueRecord)
    (fine : ∀ issue ∈ issues, issue.severity ≠ 2) :
    exitCode (healthVerdict strict (worst rank .pass (issues.map issueSeverity))) = exitOK ↔
      ∀ first, issues.find? (fun issue => issue.severity ≠ 0) = some first →
        first.severity = 1 ∧ strict = false := by
  rw [worst_ok_iff, find_issue issues fine]
  constructor
  · rintro ⟨-, leads⟩ first found
    have warned := leads (issueSeverity first) (by rw [found]; rfl)
    have known := issue_leads first (fine first (List.mem_of_find?_eq_some found))
    exact ⟨known.2.1 warned.1, warned.2⟩
  · intro leads
    constructor
    · intro failed
      exact (issues_fine_iff issues).2 fine (worst_fail .pass _ failed)
    · intro lead found
      obtain ⟨first, foundFirst, rfl⟩ := Option.map_eq_some_iff.1 found
      have warned := leads first foundFirst
      have known := issue_leads first (fine first (List.mem_of_find?_eq_some foundFirst))
      exact ⟨known.2.2 warned.1, warned.2⟩

theorem replication_fine_iff (session : Session) :
    (diagnose session).1 ≠ .fail ↔ ∀ found ∈ diagnosisOf session, found.healthy = false →
      ∀ issue ∈ found.issues, issue.severity ≠ 2 := by
  rw [diagnose_status]
  cases diagnosisOf session with
  | none => simp
  | some found =>
      simp only [Option.elim, Option.mem_some_iff, forall_eq']
      rw [replication_status]
      cases found.healthy with
      | true => simp
      | false => simpa using issues_fine_iff found.issues

theorem replication_ok_iff (strict : Bool) (session : Session)
    (fine : (diagnose session).1 ≠ .fail) :
    exitCode (healthVerdict strict (diagnose session).1) = exitOK ↔
      ∃ found, diagnosisOf session = some found ∧ (found.healthy = false →
        ∀ first, found.issues.find? (fun issue => issue.severity ≠ 0) = some first →
          first.severity = 1 ∧ strict = false) := by
  rw [replication_fine_iff] at fine
  rw [diagnose_status]
  cases read : diagnosisOf session with
  | none => simp [verdict_ok_iff]
  | some found =>
      have clean := fine found read
      simp only [Option.elim, Option.some.injEq, exists_eq_left']
      rw [replication_status]
      cases healthy : found.healthy with
      | true => simp [verdict_ok_iff]
      | false => simpa using issues_ok_iff strict found.issues (clean healthy)

/-- With peers listed, the peers' line stays below FAIL and lets the rest decide. -/
theorem peers_ok_iff (strict : Bool) (rest : Prop) (some : engine.instances ≠ []) :
    (((peersHealth engine).1 ≠ .fail ∧ (peersHealth engine).1 ≠ .unknown) ∧
        ((peersHealth engine).1 = .warn → strict = false) ∧
        ((peersHealth engine).1 ≠ .warn → rest)) ↔
      (∀ inst ∈ engine.instances, broken inst = false) ∧
        ((∃ inst ∈ engine.instances, runs inst = false) → strict = false) ∧
        ((∀ inst ∈ engine.instances, runs inst = true) → rest) := by
  rw [peers_status engine some]
  by_cases running : ∀ inst ∈ engine.instances, runs inst = true
  · have sound : ∀ inst ∈ engine.instances, broken inst = false := by
      intro inst member
      have up := running inst member
      simp only [runs, Bool.and_eq_true, decide_eq_true_eq] at up
      simp [broken, up]
    have none : ¬∃ inst ∈ engine.instances, runs inst = false := by
      rintro ⟨inst, member, down⟩
      rw [running inst member] at down
      cases down
    simp only [if_pos running]
    constructor
    · rintro ⟨-, -, whole⟩
      exact ⟨sound, fun down => absurd down none, fun _ => whole (by decide)⟩
    · rintro ⟨-, -, whole⟩
      exact ⟨by decide, by simp, fun _ => whole running⟩
  · have down : ∃ inst ∈ engine.instances, runs inst = false := by
      simpa using running
    simp only [if_neg running]
    by_cases sound : ∀ inst ∈ engine.instances, broken inst = false
    · simp only [if_pos sound]
      constructor
      · rintro ⟨-, lax, -⟩
        exact ⟨sound, fun _ => lax trivial, fun all => absurd all running⟩
      · rintro ⟨-, lax, -⟩
        exact ⟨by decide, fun _ => lax down, by simp⟩
    · simp [sound]

/-- The rollup exits with zero exactly over a clean reply. -/
theorem health_ok_iff (strict : Bool) (embedded : Option EmbeddedNATSSnapshot) (session : Session) :
    exitCode (healthVerdict strict (healthPayload engine embedded (diagnose session)).overall) =
        exitOK ↔
      HealthClean strict engine embedded (diagnosisOf session) := by
  have lines := lines_ok_iff strict _ _ _ _ _ (diagnose session).1 (nats_status embedded).1
    (primary_status engine).1 (leader_status engine).1 (quorum_unknown engine)
  refine Iff.trans lines ?_
  rw [(nats_status embedded).2, (primary_status engine).2, (leader_status engine).2]
  by_cases empty : engine.instances = []
  · have unknown : (peersHealth engine).1 = .unknown := by
      simp [peersHealth, empty]
    constructor
    · rintro ⟨-, ⟨-, known⟩, -⟩
      exact absurd unknown known
    · intro clean
      have majority := clean.quorate
      simp [peerCounts, empty] at majority
  · constructor
    · rintro ⟨⟨nats, primary, leader, quorum⟩, known, fine, degraded, running⟩
      have quorate := quorum_status engine primary leader
      obtain ⟨sound, lax, whole⟩ :=
        (peers_ok_iff engine strict _ empty).1 ⟨known, degraded, running⟩
      refine
        { nats := nats, primary := primary, leader := leader, peers := sound, degraded := lax
          quorate := ?_
          replication := (replication_fine_iff session).1 fine
          running := fun all => (replication_ok_iff strict session fine).1 (whole all) }
      by_contra minority
      rw [if_neg (by simpa using empty), if_neg minority] at quorate
      exact quorum quorate
    · intro clean
      have fine := (replication_fine_iff session).2 clean.replication
      have quorum := quorum_status engine clean.primary clean.leader
      rw [if_neg (by simpa using empty), if_pos clean.quorate] at quorum
      obtain ⟨known, degraded, running⟩ := (peers_ok_iff engine strict _ empty).2
        ⟨clean.peers, clean.degraded, fun all =>
          (replication_ok_iff strict session fine).2 (clean.running all)⟩
      refine ⟨⟨clean.nats, clean.primary, clean.leader, ?_⟩, known, fine, degraded, running⟩
      rw [quorum]
      decide

end Lines

/-! ## The four formats -/

inductive ReadCommand where
  | status
  | health
  | lag (flags : LagFlags)
deriving DecidableEq, Repr

section Formats

variable (words : ScanError → String) (readers : Readers) (session : Session)

def runRead (flags : ReadFlags) : ReadCommand → Except Failure Unit
  | .status => runStatus readers session flags
  | .health => runHealth readers session flags
  | .lag lag => runLag words readers session flags lag

def formatNames : List String := ["table", "wide", "json", "yaml"]

def inFormat (flags : ReadFlags) (format : String) : ReadFlags :=
  { flags with outputFormat := format }

/-- The process exit code is the same for all output formats. -/
def FormatBlind (flags : ReadFlags) (command : ReadCommand) : Prop :=
  ∀ one ∈ formatNames, ∀ other ∈ formatNames,
    exitCode (runRead words readers session (inFormat flags one) command) =
      exitCode (runRead words readers session (inFormat flags other) command)

/-- Whatever status is fetched, it is one the command has nothing to say against. -/
def CleanReply (strict : Bool) : ReadCommand → Prop
  | .status => ∀ engine embedded, fetchStatus readers session = .ok (engine, embedded) →
      StatusClean strict engine
  | .health => ∀ engine embedded, fetchStatus readers session = .ok (engine, embedded) →
      HealthClean strict engine embedded (diagnosisOf session)
  | .lag lag => ∀ warn fail, lagThresholds words lag = .ok (warn, fail) →
      ∀ engine embedded, fetchStatus readers session = .ok (engine, embedded) →
        LagClean strict warn fail engine

theorem forall_bind_ok {Value Next : Type} (first : Except Failure Value)
    (next : Value → Except Failure Next) (property : Next → Prop) :
    (∀ said, (first >>= next) = .ok said → property said) ↔
      ∀ value, first = .ok value → ∀ said, next value = .ok said → property said := by
  cases first with
  | error failure => simp [bind, Except.bind]
  | ok value => simp [bind, Except.bind]

theorem forall_return_ok {Value : Type} (value : Value) (property : Value → Prop) :
    (∀ said, (pure value : Except Failure Value) = .ok said → property said) ↔
      property value := by
  simp [pure, Except.pure]

theorem status_verdict_ok_iff (strict : Bool) (engine : PgmanagerStatus) :
    exitCode (statusVerdict strict engine) = exitOK ↔ renderStatus strict engine = exitOK := by
  unfold statusVerdict
  split
  · exact Iff.rfl
  · rename_i healthy
    exact iff_of_true rfl (not_not.1 healthy)

/-- What a command has to say when the format does not keep it from it. -/
def verdict (strict : Bool) : ReadCommand → Except Failure (Except Failure Unit)
  | .status => do
      let (engine, _) ← fetchStatus readers session
      return statusVerdict strict engine
  | .health => do
      let (engine, embedded) ← fetchStatus readers session
      return healthVerdict strict (healthPayload engine embedded (diagnose session)).overall
  | .lag lag => do
      let (warn, fail) ← lagThresholds words lag
      let (engine, _) ← fetchStatus readers session
      return lagVerdict strict (lagWorst (lagPayload warn fail engine))

theorem run_read_eq (flags : ReadFlags) (command : ReadCommand) :
    runRead words readers session flags command = (do
      let format ← openFormat flags
      let said ← verdict words readers session flags.strict command
      report format said) := by
  cases command with
  | status => simp only [runRead, runStatus, verdict, bind_assoc, pure_bind]
  | health => simp only [runRead, runHealth, verdict, bind_assoc, pure_bind]
  | lag lag => simp only [runRead, runLag, verdict, bind_assoc, pure_bind]

/-- The table exits with zero exactly over a clean reply. -/
theorem clean_reply_iff (strict : Bool) (command : ReadCommand) :
    CleanReply words readers session strict command ↔
      ∀ said, verdict words readers session strict command = .ok said →
        exitCode said = exitOK := by
  cases command with
  | status =>
      simp only [CleanReply, verdict, forall_bind_ok, forall_return_ok, Prod.forall]
      refine forall_congr' fun engine => forall_congr' fun embedded => forall_congr' fun _ => ?_
      rw [status_verdict_ok_iff, status_ok_iff]
  | health =>
      simp only [CleanReply, verdict, forall_bind_ok, forall_return_ok, Prod.forall]
      refine forall_congr' fun engine => forall_congr' fun embedded => forall_congr' fun _ => ?_
      rw [health_ok_iff]
  | lag lag =>
      simp only [CleanReply, verdict, forall_bind_ok, forall_return_ok, Prod.forall]
      refine forall_congr' fun warn => forall_congr' fun fail => forall_congr' fun _ => ?_
      refine forall_congr' fun engine => forall_congr' fun embedded => forall_congr' fun _ => ?_
      rw [lag_ok_iff]

/-- `--quiet` together with `--verbose`. -/
def conflicting (flags : ReadFlags) : Bool := flags.quiet && flags.verbose > 0

theorem open_format_eq (flags : ReadFlags) (format : String) (listed : format ∈ formatNames) :
    openFormat (inFormat flags format) =
      if conflicting flags then
        .error ⟨exitUsage, "--quiet and --verbose are mutually exclusive"⟩
      else .ok ((parseFormat format).getD .table) := by
  have known : format ∈ ["table", "json", "yaml", "wide", ""] := by
    simp only [formatNames, List.mem_cons, List.not_mem_nil, or_false] at listed ⊢
    rcases listed with rfl | rfl | rfl | rfl <;> simp
  unfold openFormat preRun inFormat conflicting
  dsimp only
  by_cases conflict : (flags.quiet && flags.verbose > 0) = true
  · rw [if_pos conflict, if_pos conflict]
  · rw [if_neg conflict, if_neg conflict, if_pos known]

/-- One format's exit code, once the flags agree. -/
theorem read_exit (flags : ReadFlags) (command : ReadCommand) (agreed : conflicting flags = false)
    (format : String) (listed : format ∈ formatNames) :
    exitCode (runRead words readers session (inFormat flags format) command) =
      match verdict words readers session flags.strict command with
      | .error failure => failure.exit
      | .ok said =>
          if format = "json" ∨ format = "yaml" then exitOK else exitCode said := by
  rw [run_read_eq, open_format_eq flags format listed, agreed]
  change exitCode (do
    let said ← verdict words readers session flags.strict command
    report ((parseFormat format).getD .table) said) = _
  cases verdict words readers session flags.strict command with
  | error failure => rfl
  | ok said =>
      simp only [formatNames, List.mem_cons, List.not_mem_nil, or_false] at listed
      rcases listed with rfl | rfl | rfl | rfl <;> rfl

/-- The exit code is blind to the format exactly when the flags contradict each other, which
stops every format alike, or the reply is clean. -/
theorem format_blind_iff (flags : ReadFlags) (command : ReadCommand) :
    FormatBlind words readers session flags command ↔
      conflicting flags = true ∨ CleanReply words readers session flags.strict command := by
  cases agreed : conflicting flags with
  | true =>
      simp only [true_or, iff_true]
      intro one oneListed other otherListed
      rw [run_read_eq, run_read_eq, open_format_eq flags one oneListed,
        open_format_eq flags other otherListed, agreed]
      rfl
  | false =>
      have exits := read_exit words readers session flags command agreed
      rw [clean_reply_iff]
      simp only [Bool.false_eq_true, false_or]
      constructor
      · intro blind said spoken
        have same := blind "table" (by simp [formatNames]) "json" (by simp [formatNames])
        rw [exits _ (by simp [formatNames]), exits _ (by simp [formatNames]), spoken] at same
        simpa using same
      · intro silent one oneListed other otherListed
        rw [exits one oneListed, exits other otherListed]
        cases spoken : verdict words readers session flags.strict command with
        | error failure => rfl
        | ok said =>
            have zero := silent said spoken
            simp only [zero, ite_self]

end Formats

/-! ## A cluster without a primary -/

def plainFlags : ReadFlags where
  outputFormat := ""
  quiet := false
  verbose := 0
  force := false
  endpoint := ""
  context := ""
  cluster := ""
  configPath := ""
  insecureSkipTLSVerify := false
  strict := false

/-- One standby, far behind, and nobody to follow. -/
def orphanedStatus : WireStatus where
  clusterID := "prod"
  leaderNodeID := "node-a"
  primaryNodeID := ""
  localNodeID := "node-a"
  localRole := Role.standby
  localState := State.running
  instances := some [⟨⟨"node-a", Role.standby, State.running, true, 0⟩, 7, 7, 7, 2147483648⟩]
  syncStandbys := none
  lastFailoverAt := 0
  lastFailoverReason := ""
  joinWindow := none
  promotionAuthorization := none

def orphanedSession : Session where
  setup := .ok ()
  get := fun path =>
    if path = "/v1/status" then
      .ok (some (.obj (statusMembers (fun _ => "2026-05-01T00:00:00Z") orphanedStatus)))
    else .ok none

def plainReaders : Readers where
  parseTime := fun _ => some 0
  joinWindow := fun _ => .ok ()
  promotionAuthorization := fun _ => .ok ()

def exitIn (command : ReadCommand) (format : String) : Nat :=
  exitCode (runRead (fun _ => "") plainReaders orphanedSession (inFormat plainFlags format) command)

theorem not_blind (command : ReadCommand) (table : exitIn command "table" = 2)
    (document : exitIn command "json" = 0) :
    ¬FormatBlind (fun _ => "") plainReaders orphanedSession plainFlags command := by
  intro blind
  have same : exitIn command "table" = exitIn command "json" :=
    blind "table" (by simp [formatNames]) "json" (by simp [formatNames])
  rw [table, document] at same
  cases same

/-- All three commands call the cluster unhealthy in a table and healthy in a document. -/
theorem orphaned_cluster_exits :
    (exitIn .status "table" = 2 ∧ exitIn .status "json" = 0) ∧
      (exitIn .health "table" = 2 ∧ exitIn .health "json" = 0) ∧
      (exitIn (.lag ⟨"64MB", "1GB"⟩) "table" = 2 ∧ exitIn (.lag ⟨"64MB", "1GB"⟩) "json" = 0) ∧
      ¬FormatBlind (fun _ => "") plainReaders orphanedSession plainFlags .status := by
  refine ⟨⟨rfl, rfl⟩, ⟨rfl, rfl⟩, ⟨rfl, rfl⟩, ?_⟩
  exact not_blind .status rfl rfl

end PgmanProxy.Pgmctl.ExitCodes
