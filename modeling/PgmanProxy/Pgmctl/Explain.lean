import Mathlib.Data.List.Dedup
import Mathlib.Data.List.Sort
import Mathlib.Data.String.Basic
import PgmanProxy.Cluster.Events
import PgmanProxy.Control.HistoryQuery

/-!
# The explain command on the history

Two subjects of `pgmctl explain` read the history stream. `last-event` asks for five
records and takes the last one for the newest; the server hands out the oldest ones of
its window first. `leader-election` looks for the leaders of a leadership record below
`payload`, where a pg-manager event has them; the record the proxy derives itself has
them at the top.
-/

namespace PgmanProxy.Pgmctl.Explain

open PgmanProxy.Library.GoJson PgmanProxy.Library.GoStrings PgmanProxy.Library.Paging
open PgmanProxy.History.Queries PgmanProxy.History.Stream
open PgmanProxy.Control.HistoryQuery PgmanProxy.Cluster.Events

set_option autoImplicit false

/-- The client's `eventRow` has the fields of the record the server sends. -/
abbrev EventRow := PgmanProxy.History.Stream.HistoryEvent

structure ExplainEvidence where
  source : String
  timestamp : String
  detail : String
  reference : String
deriving DecidableEq, Repr

structure ExplainOutput where
  apiVersion : String
  kind : String
  subject : String
  diagnosis : String
  evidence : List ExplainEvidence
  suggestedNextSteps : List String
deriving DecidableEq, Repr

/-! ## Fetching -/

def historyValues (category : String) (types : List String) (limit : Int) :
    List (String × String) :=
  [("limit", toString limit)] ++ (if category = "" then [] else [("category", category)]) ++
    types.map (fun wanted => ("type", wanted))

/-- `ask` is one `GET /v1/history`. -/
def fetchHistory (ask : List (String × String) → Except String Result) (category : String)
    (types : List String) (limit : Int) : Except String (List EventRow) :=
  (ask (historyValues category types limit)).map (fun result => result.events)

section Rendering

-- `Time.UTC().Format(time.RFC3339Nano)`, and `fmt.Sprintf("%v", value)`
variable (formatTime : Int → String) (sprintV : Json → String)

/-- What is left of a member when it is printed. -/
def leafText : Json → String
  | .str text => text
  | other => sprintV other

def extractNested (members : List (String × Json)) : List String → String
  | [] => ""
  | [key] =>
      match getMember key members with
      | none => ""
      | some value => leafText sprintV value
  | key :: path =>
      match getMember key members with
      | some (.obj inner) => extractNested inner path
      | _ => ""

def summariseDetails (details : List (String × Json)) : String :=
  let keys := (details.map Prod.fst).dedup.insertionSort (· ≤ ·)
  " ".intercalate (keys.map (fun key =>
    key ++ "=" ++ leafText sprintV ((getMember key details).getD .null)))

def historyEvidence (row : EventRow) (detail : String) : ExplainEvidence :=
  ⟨"history", formatTime row.time, detail, row.id⟩

/-! ## The newest record -/

def lastDiagnosis (last : EventRow) : String :=
  "most recent history record: " ++ last.type ++ " on " ++ last.nodeID ++ " at " ++
    formatTime last.time

def lastEventOutput (before : List EventRow) (last : EventRow) : ExplainOutput where
  apiVersion := "pgmctl/v1"
  kind := "Explain"
  subject := "last-event"
  diagnosis := lastDiagnosis formatTime last
  evidence :=
    historyEvidence formatTime last
        (last.type ++ " " ++ last.nodeID ++ " " ++ summariseDetails sprintV last.details) ::
      before.map (fun row => historyEvidence formatTime row (row.type ++ " " ++ row.nodeID))
  suggestedNextSteps :=
    ["pgmctl events --since 30m   # broader window of recent records",
     "pgmctl watch events         # live tail",
     "pgmctl get audit --since 30m # operator-initiated changes"]

def explainLastEvent (ask : List (String × String) → Except String Result) :
    Except String ExplainOutput :=
  match fetchHistory ask "" [] 5 with
  | .error why => .error why
  | .ok events =>
      match events.getLast? with
      | none =>
          .error ("subject does not apply to the current cluster state: " ++
            "history stream is empty in the queried window")
      | some last => .ok (lastEventOutput formatTime sprintV events.dropLast last)

/-! ## The leadership trail -/

def leaderChangeDetail (details : List (String × Json)) : String :=
  let newLeader := extractNested sprintV details ["payload", "new_leader"]
  let oldLeader := extractNested sprintV details ["payload", "old_leader"]
  let term := extractNested sprintV details ["payload", "term"]
  let detail :=
    if oldLeader ≠ "" || newLeader ≠ "" then
      "leader_changed: " ++ oldLeader ++ " → " ++ newLeader
    else "leader_changed"
  if term ≠ "" then detail ++ " (term=" ++ term ++ ")" else detail

def leaderChangeEvidence (row : EventRow) : ExplainEvidence :=
  historyEvidence formatTime row (leaderChangeDetail sprintV row.details)

def transitionEvidence (row : EventRow) : ExplainEvidence :=
  historyEvidence formatTime row
    ("state_transition " ++ row.nodeID ++ " " ++ summariseDetails sprintV row.details)

def auditEvidence (row : EventRow) : ExplainEvidence :=
  let target := stringMember "target" row.details
  let detail := "audit op=" ++ stringMember "operation" row.details ++ " actor=" ++
    stringMember "actor" row.details ++ " outcome=" ++ stringMember "outcome" row.details
  historyEvidence formatTime row
    (if target ≠ "" then detail ++ " target=" ++ target else detail)

def bootEvidence (row : EventRow) : ExplainEvidence :=
  historyEvidence formatTime row (row.type ++ " " ++ row.nodeID ++
    " (proxy boot — may have re-triggered leader claim)")

def leadershipOps : List String := ["Switchover", "Failover", "Promote"]

/-- `leaderNodeID` is the one of the status, which was fetched. -/
def explainLeaderElection (ask : List (String × String) → Except String Result)
    (leaderNodeID : String) : ExplainOutput :=
  let rows := fun category types limit =>
    (fetchHistory ask category types limit).toOption.getD []
  let leaderChanges := rows "event" ["leader_changed", "proxy.leader_changed"] 50
  let transitions := rows "event" ["state_transition"] 50
  let boots := rows "event" ["proxy.history_stream_ready"] 50
  let auditCited := (rows "audit" [] 200).filter
    (fun row => stringMember "operation" row.details ∈ leadershipOps)
  let leader := if leaderNodeID = "" then "(none — no leadership lease held)" else leaderNodeID
  let totalFound :=
    leaderChanges.length + transitions.length + auditCited.length + boots.length
  let counts := "current leader=" ++ leader ++ "; " ++ toString leaderChanges.length ++
    " leader_changed / " ++ toString transitions.length ++ " state_transition / " ++
    toString auditCited.length ++ " audit / " ++ toString boots.length ++ " boot record(s)"
  { apiVersion := "pgmctl/v1"
    kind := "Explain"
    subject := "leader-election"
    diagnosis :=
      if totalFound = 0 then counts ++ " — no leader-related records found" else counts
    evidence :=
      [⟨"status", "", "current leader: " ++ leader, ""⟩] ++
        leaderChanges.map (leaderChangeEvidence formatTime sprintV) ++
        transitions.map (transitionEvidence formatTime sprintV) ++
        auditCited.map (auditEvidence formatTime) ++ boots.map (bootEvidence formatTime) ++
        (if totalFound = 0 then
          [⟨"history", "", "no leader_changed / state_transition / leadership audit / proxy " ++
            "boot records in the recent window — leadership has been stable", ""⟩]
        else [])
    suggestedNextSteps :=
      ["pgmctl events --type leader_changed --since 1h",
       "pgmctl events --type state_transition --since 1h",
       "pgmctl status                                       # current cluster shape"] }

end Rendering

/-! ## What last-event presents -/

/-- The query the server makes of the command's request. -/
def lastEventQuery : Query where
  since := defaultSince
  untilTime := none
  category := none
  types := []
  nodes := []
  limit := 5
  cursor := []

theorem last_event_query (parseDuration parseTime : String → Except String Int) :
    parseHistoryQuery parseDuration parseTime (historyValues "" [] 5) = .ok lastEventQuery :=
  rfl

/-- The records inside the server's default window at `now`. -/
def window (now : Int) (log : Log) : List Record :=
  (lastEventQuery.policy now).backlog log.records

theorem delivered_window (now : Int) (clusterID : String) (log : Log) :
    lastEventQuery.delivered now clusterID log.records = window now log := by
  rw [Query.delivered, window]
  apply List.filter_eq_self.2
  intro record _
  exact seen_iff_admits clusterID none record

theorem remaining_window (equalFold : String → String → Bool) (records : List Record) :
    remaining equalFold lastEventQuery true records = records.filterMap Record.event := by
  have inTime : timely lastEventQuery records = records.filterMap Record.event := by
    apply List.filter_eq_self.2
    intro event _
    rfl
  rw [remaining, if_pos rfl, inTime]
  apply List.filter_eq_self.2
  intro event _
  rfl

/-- The window is the end of the stream. -/
theorem window_suffix (now : Int) (log : Log) : window now log <:+ log.records := by
  exact backlog_suffix (lastEventQuery.policy now) log.records

theorem window_ids (now : Int) (log : Log) :
    (((window now log).filterMap Record.event).map
      PgmanProxy.History.Stream.HistoryEvent.id).Nodup := by
  have distinct := log.distinct
  rw [event_ids_map] at distinct
  exact distinct.sublist (((window_suffix now log).sublist.filterMap Record.event).map _)

/-- The output is about this record: its diagnosis is made from it, and the first piece of
evidence refers to it. -/
def Presents (formatTime : Int → String) (output : ExplainOutput) (event : EventRow) : Prop :=
  output.diagnosis = lastDiagnosis formatTime event ∧
    output.evidence.head?.map (fun evidence => evidence.reference) = some event.id

section LastEvent

variable (formatTime : Int → String) (sprintV : Json → String)
  (parseDuration parseTime : String → Except String Int) (equalFold : String → String → Bool)
  (js : JetStream) (clusterID : String) (now : Int) (log : Log)

/-- `pgmctl explain last-event` against a server that reads this JetStream. -/
def explained : Except String ExplainOutput :=
  explainLastEvent formatTime sprintV
    (handleHistoryQuery parseDuration parseTime (some (run equalFold (some js) clusterID)))

theorem explained_eq (named : clusterID ≠ "")
    (serves : Serves js lastEventQuery.batchSize
      (lastEventQuery.delivered now clusterID log.records)) :
    explained formatTime sprintV parseDuration parseTime equalFold js clusterID =
      match (((window now log).filterMap Record.event).take 5).getLast? with
      | none =>
          .error ("subject does not apply to the current cluster state: " ++
            "history stream is empty in the queried window")
      | some last =>
          .ok (lastEventOutput formatTime sprintV
            (((window now log).filterMap Record.event).take 5).dropLast last) := by
  rw [delivered_window] at serves
  have page := run_page equalFold js clusterID lastEventQuery (window now log) named serves
  have asked : handleHistoryQuery parseDuration parseTime
      (some (run equalFold (some js) clusterID)) (historyValues "" [] 5) =
        .ok (resultOf lastEventQuery
          ((remaining equalFold lastEventQuery true (window now log)).take 5)) := by
    rw [handleHistoryQuery, last_event_query]
    exact page
  rw [explained, explainLastEvent, fetchHistory, asked, remaining_window]
  rfl

/-- With a record in the default window, the record presented as the newest one is the last
record of the stream exactly when that record decodes and the window has no more than five
that do. -/
theorem last_event_newest_iff (named : clusterID ≠ "")
    (serves : Serves js lastEventQuery.batchSize
      (lastEventQuery.delivered now clusterID log.records))
    (recent : window now log ≠ []) :
    (∃ output record event,
        explained formatTime sprintV parseDuration parseTime equalFold js clusterID = .ok output ∧
          log.records.getLast? = some record ∧ record.event = some event ∧
          Presents formatTime output event) ↔
      (∃ record event, log.records.getLast? = some record ∧ record.event = some event) ∧
        ((window now log).filterMap Record.event).length ≤ 5 := by
  obtain ⟨old, whole⟩ := window_suffix now log
  have newest : log.records.getLast? = (window now log).getLast? := by
    rw [← whole, List.getLast?_append_of_ne_nil _ recent]
  have decoded_last : ∀ record event, log.records.getLast? = some record →
      record.event = some event →
      ((window now log).filterMap Record.event).getLast? = some event := by
    intro record event last decodes
    rw [newest] at last
    obtain ⟨front, split⟩ := List.getLast?_eq_some_iff.1 last
    rw [split, List.filterMap_append, List.filterMap_cons, decodes]
    simp
  rw [explained_eq formatTime sprintV parseDuration parseTime equalFold js clusterID now log named
    serves]
  constructor
  · rintro ⟨output, record, event, shown, last, decodes, presents⟩
    refine ⟨⟨record, event, last, decodes⟩, ?_⟩
    split at shown
    · cases shown
    · rename_i presented found
      cases shown
      have same : presented.id = event.id := Option.some.inj presents.2
      exact take_last_key _ _ 5 (window_ids now log) presented event found
        (decoded_last record event last decodes) same
  · rintro ⟨⟨record, event, last, decodes⟩, few⟩
    have final := decoded_last record event last decodes
    rw [List.take_of_length_le few, final]
    exact ⟨_, record, event, rfl, last, decodes, rfl, rfl⟩

end LastEvent

theorem one_by_one_window (now : Int) (clusterID : String) (log : Log) :
    Serves (oneByOne (window now log)) lastEventQuery.batchSize
      (lastEventQuery.delivered now clusterID log.records) := by
  rw [delivered_window]
  exact one_by_one_serves _ _ (by decide)

/-- The last of the sample's four records is the third that decodes. -/
theorem sample_last_event :
    ∃ output record event,
      explained (fun _ => "T") (fun _ => "") (fun _ => .error "") (fun _ => .error "")
          (fun left right => left = right) (oneByOne (window 9 sampleLog)) "prod" = .ok output ∧
        sampleLog.records.getLast? = some record ∧ record.event = some event ∧
        Presents (fun _ => "T") output event := by
  have recent : window 9 sampleLog ≠ [] := by
    intro empty
    exact absurd (congrArg List.length empty) (by decide)
  rw [last_event_newest_iff _ _ _ _ _ _ "prod" 9 sampleLog (by decide)
    (one_by_one_window 9 "prod" sampleLog) recent]
  exact ⟨⟨_, _, rfl, rfl⟩, by decide⟩

/-- Six transitions within the last half hour. -/
def busyLog : Log where
  records := [sampleRecord "01a" "state_transition" "node-a" 1,
    sampleRecord "01b" "state_transition" "node-a" 2,
    sampleRecord "01c" "state_transition" "node-a" 3,
    sampleRecord "01d" "state_transition" "node-a" 4,
    sampleRecord "01e" "state_transition" "node-a" 5,
    sampleRecord "01f" "state_transition" "node-b" 6]
  distinct := by decide
  named := by decide

/-- The fifth record is presented as the most recent one, the sixth is not mentioned. -/
theorem sixth_record_missed :
    let shown := explained (fun _ => "T") (fun _ => "") (fun _ => .error "") (fun _ => .error "")
      (fun left right => left = right) (oneByOne (window 9 busyLog)) "prod"
    (∃ output, shown = .ok output ∧
        output.diagnosis = "most recent history record: state_transition on node-a at T" ∧
        output.evidence.map (fun evidence => evidence.reference) =
          ["01e", "01a", "01b", "01c", "01d"]) ∧
      busyLog.records.getLast? = some (sampleRecord "01f" "state_transition" "node-b" 6) ∧
      ¬ ∃ output record event, shown = .ok output ∧ busyLog.records.getLast? = some record ∧
        record.event = some event ∧ Presents (fun _ => "T") output event := by
  refine ⟨⟨_, rfl, by decide, by decide⟩, rfl, ?_⟩
  rintro ⟨output, record, event, shown, last, decodes, -, reference⟩
  cases shown
  cases last
  cases decodes
  exact absurd reference (by decide)

/-! ## What leader-election says of a derived record -/

/-- The line names the node of the transition as the leader that came or went, and shows the
term if the transition has one. -/
def Explains (sprintV : Json → String) (payload : List (String × Json)) (detail : String) : Prop :=
  (if stringMember "reason" payload = "became_leader" then
    ∃ old rest,
      detail = "leader_changed: " ++ old ++ " → " ++ stringMember "node_id" payload ++ rest
  else
    ∃ rest, detail = "leader_changed: " ++ stringMember "node_id" payload ++ " → " ++ rest) ∧
  ∀ term, getMember "term" payload = some term →
    contains ("term=" ++ leafText sprintV term) detail = true

/-- The evidence lines that `explain leader-election` makes of the leadership records which the
transition's own peer derives from it. -/
def DerivedExplained (floatInt : String → Option Int) (formatTime : Int → String)
    (sprintV : Json → String) (peers : Peers) (payload : List (String × Json)) (length : Nat) :
    Prop :=
  let node := stringMember "node_id" payload
  ∀ record ∈ handleCoordinationEvent floatInt node (some (publisherOf peers node))
      (eventMessage peers "state_transition" payload length),
    record.type = "proxy.leader_changed" →
    ∀ row : EventRow, row.details = record.details →
      Explains sprintV payload (leaderChangeEvidence formatTime sprintV row).detail

/-- The keys a derived record's details can have. -/
def derivedKeys : List String :=
  ["reason", "node_id", "term", "occurred_at", "new_leader", "old_leader", "derived_from"]

theorem derived_key (peers : Peers) (payload : List (String × Json)) (node : String)
    (member : String × Json) (present : member ∈ (leaderRecord peers payload node).details) :
    member.1 ∈ derivedKeys := by
  have copied : ∀ key ∈ derivedKeys, ∀ copy ∈ copyMember key payload, copy.1 ∈ derivedKeys := by
    intro key known copy there
    unfold copyMember at there
    split at there
    · rw [List.mem_singleton.1 there]
      exact known
    · cases there
  simp only [leaderRecord, setMember, List.mem_append, List.mem_cons, List.not_mem_nil,
    or_false] at present
  rcases present with ((((rfl | rfl) | term) | time) | rfl) | rfl
  · simp [derivedKeys]
  · simp [derivedKeys]
  · exact copied "term" (by decide) member term
  · exact copied "occurred_at" (by decide) member time
  · dsimp only
    split <;> decide
  · simp [derivedKeys]

theorem derived_has_no_payload (peers : Peers) (payload : List (String × Json)) (node : String) :
    getMember "payload" (leaderRecord peers payload node).details = none := by
  rw [getMember, List.lookup_eq_none_iff]
  intro member present
  have known := derived_key peers payload node member (List.mem_reverse.1 present)
  have foreign : "payload" ∉ derivedKeys := by decide
  rw [bne_iff_ne]
  intro same
  rw [← same] at known
  exact foreign known

theorem bare_detail (sprintV : Json → String) (details : List (String × Json))
    (bare : getMember "payload" details = none) :
    leaderChangeDetail sprintV details = "leader_changed" := by
  have nothing : ∀ key, extractNested sprintV details ["payload", key] = "" := by
    intro key
    rw [extractNested, bare]
    simp
  rw [leaderChangeDetail, nothing, nothing, nothing]
  rfl

theorem bare_explains_nothing (sprintV : Json → String) (payload : List (String × Json)) :
    ¬ Explains sprintV payload "leader_changed" := by
  have unlike : ∀ rest, "leader_changed" ≠ "leader_changed: " ++ rest := by
    intro rest same
    have long := congrArg (fun text => text.toList.length) same
    simp at long
  rintro ⟨names, -⟩
  split at names
  · obtain ⟨old, rest, same⟩ := names
    rw [String.append_assoc, String.append_assoc, String.append_assoc] at same
    exact unlike _ same
  · obtain ⟨rest, same⟩ := names
    rw [String.append_assoc, String.append_assoc] at same
    exact unlike _ same

/-- No leadership record that the proxy derives is explained, whatever the transition. -/
theorem derived_never_explained (floatInt : String → Option Int) (formatTime : Int → String)
    (sprintV : Json → String) (peers : Peers) (payload : List (String × Json)) (length : Nat)
    (edge : stringMember "reason" payload = "became_leader" ∨
      stringMember "reason" payload = "lost_leader")
    (named : stringMember "node_id" payload ≠ "") :
    ¬ DerivedExplained floatInt formatTime sprintV peers payload length := by
  intro explains
  have handled := handle_emitter floatInt peers "state_transition" payload length (by decide) named
  have edges : LeadershipEdge "state_transition" (stringMember "reason" payload) := ⟨rfl, edge⟩
  rw [if_pos edges] at handled
  have derived : leaderRecord peers payload (stringMember "node_id" payload) ∈
      handleCoordinationEvent floatInt (stringMember "node_id" payload)
        (some (publisherOf peers (stringMember "node_id" payload)))
        (eventMessage peers "state_transition" payload length) := by
    rw [handled]
    simp
  have line := explains _ derived rfl { sampleEvent "" "" "" 0 with
    details := (leaderRecord peers payload (stringMember "node_id" payload)).details } rfl
  rw [leaderChangeEvidence, historyEvidence,
    bare_detail sprintV _ (derived_has_no_payload peers payload _)] at line
  exact bare_explains_nothing sprintV payload line

/-- `n2` became the leader in term 7. -/
def termSeven : List (String × Json) := setMember "term" (.num "7") becameLeader

theorem term_seven_not_explained :
    stringMember "reason" termSeven = "became_leader" ∧ stringMember "node_id" termSeven = "n2" ∧
      ¬ DerivedExplained parseInt64 (fun _ => "T") (fun _ => "7") twoPeers termSeven 88 :=
  ⟨by decide, by decide, derived_never_explained parseInt64 _ _ twoPeers termSeven 88
    (Or.inl (by decide)) (by decide)⟩

/-- The record `n2` derives, as the client gets it. -/
def termSevenRow : EventRow :=
  { sampleEvent "01x" "proxy.leader_changed" "n2" 5 with
    details := (leaderRecord twoPeers termSeven "n2").details }

/-- Its line in the explanation is the bare word. -/
theorem term_seven_line :
    leaderRecord twoPeers termSeven "n2" ∈ handleCoordinationEvent parseInt64 "n2"
        (some (publisherOf twoPeers "n2")) (eventMessage twoPeers "state_transition" termSeven 88) ∧
      (explainLeaderElection (fun _ => "T") (fun _ => "7")
          (fun _ => .ok ⟨"pgman-proxy/v1", "HistoryQueryResult", [termSevenRow], [], false⟩)
          "n2").evidence[1]? =
        some ⟨"history", "T", "leader_changed", "01x"⟩ ∧
      ¬ Explains (fun _ => "7") termSeven "leader_changed" := by
  refine ⟨?_, rfl, bare_explains_nothing _ _⟩
  have handled := handle_emitter parseInt64 twoPeers "state_transition" termSeven 88 (by decide)
    (by decide)
  have emitter : stringMember "node_id" termSeven = "n2" := by decide
  rw [emitter] at handled
  rw [handled, if_pos (by decide)]
  simp

end PgmanProxy.Pgmctl.Explain
