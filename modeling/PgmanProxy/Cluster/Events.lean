import PgmanProxy.Library.FirstMatch
import PgmanProxy.Library.GoJson
import PgmanProxy.Library.Subjects
import PgmanProxy.Validation

/-!
# Coordination events in the cluster history

Every peer subscribes to the cluster's coordination events and so receives each of
them. Which one appends an event to the shared history is settled without any
coordination: the peer that the event's `node_id` names does, the others drop it.
Exactly one record per event rests on three facts: an event subject matches one
subscription only, the filter lets one peer through, and a validated cluster id has
no dot, so that the subject's tail is the topic.
-/

namespace PgmanProxy.Cluster.Events

open PgmanProxy.Library.FirstMatch PgmanProxy.Library.GoStrings PgmanProxy.Library.GoJson
open PgmanProxy.Library.Subjects PgmanProxy.Validation

set_option autoImplicit false

/-! ## Subscriptions -/

def exactTopics : List String :=
  ["state_transition", "leader_changed", "primary_changed", "fenced_node", "unfenced_node",
    "failover_quorum_published", "failover_refused", "pg_config_change", "slot_dropped",
    "peer_slots_ensured", "backup_started", "backup_completed", "backup_failed",
    "upgrade_started", "upgrade_completed", "upgrade_failed"]

def wildcardFamilies : List String :=
  ["auto_rebootstrap", "auto_demote", "divergence", "conninfo", "empty_peer", "identity",
    "timeline", "promotion_authorization"]

def topicSubject (clusterID topic : String) : String :=
  "pgmanager." ++ clusterID ++ "." ++ topic

/-- The subjects in the order they are subscribed to. -/
def coordinationSubjects (clusterID : String) : List String :=
  (exactTopics ++ wildcardFamilies.map (fun family => family ++ ".>")).map (topicSubject clusterID)

/-! ## The handler -/

structure Message where
  subject : String
  data : Scan

/-- `history.Publisher` of one peer. -/
structure Publisher where
  clusterID : String
  nodeID : String
deriving DecidableEq, Repr

/-- A record of the history stream, with the peer that published it. -/
structure HistoryEvent where
  publisher : String
  category : String
  type : String
  clusterID : String
  nodeID : String
  details : List (String × Json)

/-- `PublishEvent` when JetStream takes the record. -/
def publishEvent (publisher : Publisher) (evType nodeID : String)
    (details : List (String × Json)) : List HistoryEvent :=
  if evType = "" then []
  else
    [{ publisher := publisher.nodeID
       category := "event"
       type := evType
       clusterID := publisher.clusterID
       nodeID := if nodeID = "" then publisher.nodeID else nodeID
       details := details }]

def classifyOutcome (subject : String) : String :=
  if ".refused".toList.isSuffixOf subject.toList then "refused"
  else if ".failed".toList.isSuffixOf subject.toList then "failed"
  else "delivered"

/-- Everything after the second dot. -/
def subjectTail (subject : String) : String :=
  match splitN '.' 3 subject.toList with
  | [_, _, tail] => String.ofList tail
  | _ => subject

def pgmanagerStateNames : List String :=
  ["unknown", "init", "bootstrapping", "running", "promoting", "demoting", "rewinding",
    "fenced", "failed", "stopped"]

def stateName (ord : Int) : String :=
  if ord < 0 then "state(" ++ toString ord ++ ")"
  else (pgmanagerStateNames[ord.toNat]?).getD ("state(" ++ toString ord ++ ")")

section Handler

-- int(f) of the float64 a number literal denotes, if it denotes one
variable (floatInt : String → Option Int)

def nameState (key nameKey : String) (payload : List (String × Json)) : List (String × Json) :=
  match getMember key payload with
  | some (.num literal) =>
      match floatInt literal with
      | some ord => setMember nameKey (.str (stateName ord)) payload
      | none => payload
  | _ => payload

def enrichPayload (topic : String) (payload : List (String × Json)) : List (String × Json) :=
  if topic ≠ "state_transition" then payload
  else nameState floatInt "to" "to_name" (nameState floatInt "from" "from_name" payload)

def copyMember (key : String) (payload : List (String × Json)) : List (String × Json) :=
  match getMember key payload with
  | some value => [(key, value)]
  | none => []

def leadershipReason (reason : String) : Bool := reason = "became_leader" || reason = "lost_leader"

/-- The details of the projected leadership record, for a transition that is one. -/
def synthesizeLeaderChange (payload : List (String × Json)) : Option (List (String × Json)) :=
  let reason := stringMember "reason" payload
  if !leadershipReason reason then none
  else
    let nodeID := stringMember "node_id" payload
    let leaderKey := if reason = "became_leader" then "new_leader" else "old_leader"
    some ([("reason", .str reason), ("node_id", .str nodeID)] ++ copyMember "term" payload ++
      copyMember "occurred_at" payload ++ [(leaderKey, .str nodeID)])

def eventDetails (subject : String) (payload : List (String × Json)) : List (String × Json) :=
  [("subject", .str subject), ("outcome", .str (classifyOutcome subject))] ++
    (if payload.isEmpty then [] else [("payload", .obj payload)])

/-- The records one peer appends for one message, in order. -/
def handleCoordinationEvent (selfNodeID : String) (historySink : Option Publisher)
    (message : Message) : List HistoryEvent :=
  match historySink with
  | none => []
  | some publisher =>
      let payload := unmarshalMap message.data
      let emitterNode := stringMember "node_id" payload
      if emitterNode = "" || emitterNode = selfNodeID then
        let evType := subjectTail message.subject
        let enriched := enrichPayload floatInt evType payload
        let event := publishEvent publisher evType emitterNode
          (eventDetails message.subject enriched)
        if evType = "state_transition" then
          match synthesizeLeaderChange enriched with
          | some synth =>
              event ++ publishEvent publisher "proxy.leader_changed" emitterNode
                (setMember "derived_from" (.str "state_transition") synth)
          | none => event
        else event
      else []

/-! ## The cluster -/

/-- The peers of one cluster by their node ids; the ids are validated and the peers'
own. -/
structure Peers where
  clusterID : String
  nodes : List String
  validCluster : isNodeID clusterID = true
  validNodes : ∀ node ∈ nodes, isNodeID node = true
  distinct : nodes.Nodup

theorem identifier_valid (field value : String) (clean : identifierIssues field value = []) :
    isNodeID value = true := by
  unfold identifierIssues at clean
  split at clean
  · cases clean
  · simpa using no_issue _ _ clean

/-- The peers of the first configuration's cluster, each started from an accepted
configuration. -/
def peersOf (std : Stdlib) (first : Config) (rest : List Config)
    (accepted : ∀ config ∈ first :: rest, validate std config = .ok ())
    (distinct : ((first :: rest).map (fun config => config.nodeID)).Nodup) : Peers where
  clusterID := first.cluster.id
  nodes := (first :: rest).map (fun config => config.nodeID)
  validCluster :=
    identifier_valid _ _ (validate_ok first (accepted first List.mem_cons_self)).1
  validNodes := by
    intro node listed
    obtain ⟨config, present, rfl⟩ := List.mem_map.1 listed
    exact identifier_valid _ _ (validate_ok config (accepted config present)).2.1
  distinct := distinct

def publisherOf (peers : Peers) (node : String) : Publisher := ⟨peers.clusterID, node⟩

/-- One handler call at a peer for every subscription the message's subject matches. -/
def deliveries (peers : Peers) (messages : List Message) : List (String × Message) :=
  messages.flatMap (fun message => peers.nodes.flatMap (fun node =>
    ((coordinationSubjects peers.clusterID).filter
      (fun pattern => Delivers pattern message.subject)).map (fun _ => (node, message))))

/-- The history stream after the peers have handled these deliveries in this order. -/
def history (peers : Peers) (handled : List (String × Message)) : List HistoryEvent :=
  handled.flatMap (fun delivery =>
    handleCoordinationEvent floatInt delivery.1 (some (publisherOf peers delivery.1)) delivery.2)

/-- The topics of the subscribed families. -/
def IsEventTopic (topic : String) : Prop :=
  topic ∈ exactTopics ∨ ∃ family ∈ wildcardFamilies, ∃ rest, topic = family ++ "." ++ rest

/-- An event as it is published: its topic and the members of its JSON payload. -/
def eventMessage (peers : Peers) (topic : String) (members : List (String × Json))
    (length : Nat) : Message where
  subject := topicSubject peers.clusterID topic
  data := .document (.obj members) length none

/-- The one record of an event. -/
def eventRecord (peers : Peers) (topic : String) (members : List (String × Json))
    (emitter : String) : HistoryEvent where
  publisher := emitter
  category := "event"
  type := topic
  clusterID := peers.clusterID
  nodeID := emitter
  details := eventDetails (topicSubject peers.clusterID topic) (enrichPayload floatInt topic members)

/-- The leadership record projected from a state transition. -/
def leaderRecord (peers : Peers) (members : List (String × Json)) (emitter : String) :
    HistoryEvent where
  publisher := emitter
  category := "event"
  type := "proxy.leader_changed"
  clusterID := peers.clusterID
  nodeID := emitter
  details :=
    let reason := stringMember "reason" members
    let leaderKey := if reason = "became_leader" then "new_leader" else "old_leader"
    setMember "derived_from" (.str "state_transition")
      ([("reason", .str reason), ("node_id", .str emitter)] ++ copyMember "term" members ++
        copyMember "occurred_at" members ++ [(leaderKey, .str emitter)])

/-! ## Subjects and subscriptions -/

theorem cluster_rune (peers : Peers) (mark : Char)
    (odd : ((('a' ≤ mark && mark ≤ 'z') || ('0' ≤ mark && mark ≤ '9')) || mark = '-') = false) :
    mark ∉ peers.clusterID.toList := by
  intro present
  have allowed := (node_id_runes _ peers.validCluster).2 mark present
  rw [odd] at allowed
  cases allowed

theorem dotless (peers : Peers) : '.' ∉ peers.clusterID.toList := cluster_rune peers '.' (by decide)

theorem subject_runes (clusterID topic : String) :
    (topicSubject clusterID topic).toList =
      "pgmanager".toList ++ '.' :: (clusterID.toList ++ '.' :: topic.toList) := by
  simp [topicSubject]

/-- The tail of an event's subject is its topic, dots of the topic included. -/
theorem subject_tail (peers : Peers) (topic : String) :
    subjectTail (topicSubject peers.clusterID topic) = topic := by
  have first : '.' ∉ "pgmanager".toList := by decide
  unfold subjectTail
  rw [subject_runes, split_n_field _ _ _ _ first, split_n_field _ _ _ _ (dotless peers)]
  exact String.ofList_toList

theorem subject_tokens (peers : Peers) (topic : String) :
    tokens (topicSubject peers.clusterID topic) =
      ["pgmanager", peers.clusterID] ++ tokens topic := by
  have regrouped : topicSubject peers.clusterID topic =
      "pgmanager" ++ "." ++ peers.clusterID ++ "." ++ topic := by
    rw [← String.toList_inj]
    simp [topicSubject]
  have first : tokens "pgmanager" = ["pgmanager"] := by decide
  rw [regrouped, tokens_dot, tokens_dot, first, tokens_plain _ (dotless peers)]
  rfl

theorem delivers_topic (peers : Peers) (pattern topic : String) :
    Delivers (topicSubject peers.clusterID pattern) (topicSubject peers.clusterID topic) =
      matchTokens (tokens pattern) (tokens topic) := by
  have unlike : peers.clusterID ≠ ">" := not_rest _ (cluster_rune peers '>' (by decide))
  unfold Delivers
  rw [subject_tokens, subject_tokens]
  apply match_lead
  simp [unlike]

theorem exact_tokens : ∀ topic ∈ exactTopics,
    tokens topic = [topic] ∧ topic ≠ ">" ∧ topic ≠ "*" := by decide

theorem family_tokens : ∀ family ∈ wildcardFamilies,
    tokens (family ++ ".>") = [family, ">"] ∧ tokens family = [family] ∧
      family ≠ ">" ∧ family ≠ "*" := by decide

theorem exact_match (pattern : String) (known : pattern ∈ exactTopics) (first : String)
    (rest : List String) :
    matchTokens (tokens pattern) (first :: rest) = (decide (pattern = first) && rest.isEmpty) := by
  obtain ⟨single, unlike, literal⟩ := exact_tokens pattern known
  rw [single, match_literal _ _ _ _ unlike literal]
  rfl

theorem family_match (family : String) (known : family ∈ wildcardFamilies) (first : String)
    (rest : List String) :
    matchTokens (tokens (family ++ ".>")) (first :: rest) =
      (decide (family = first) && !rest.isEmpty) := by
  obtain ⟨pair, _, unlike, literal⟩ := family_tokens family known
  rw [pair, match_literal _ _ _ _ unlike literal]
  cases rest with
  | nil => rfl
  | cons second rest => rw [match_rest, List.isEmpty_cons, Bool.not_false]

/-- Exactly one of a peer's subscriptions receives an event. -/
theorem one_subscription (peers : Peers) (topic : String) (event : IsEventTopic topic) :
    ((coordinationSubjects peers.clusterID).filter
      (fun pattern => Delivers pattern (topicSubject peers.clusterID topic))).length = 1 := by
  have tests : (fun pattern => Delivers pattern (topicSubject peers.clusterID topic)) ∘
      topicSubject peers.clusterID = fun pattern => matchTokens (tokens pattern) (tokens topic) := by
    funext pattern
    exact delivers_topic peers pattern topic
  unfold coordinationSubjects
  rw [List.filter_map, List.length_map, tests, List.filter_append, List.length_append,
    List.filter_map, List.length_map]
  rcases event with exact_topic | ⟨family, known, rest, rfl⟩
  · have single := (exact_tokens topic exact_topic).1
    rw [single]
    rw [filter_length_one _ exactTopics topic (by decide) exact_topic ?_,
      filter_length_zero _ wildcardFamilies ?_]
    · intro family listed
      exact (family_match family listed topic []).trans (Bool.and_false _)
    · intro pattern listed
      exact (exact_match pattern listed topic []).trans (Bool.and_true _)
  · have single := (family_tokens family known).2.1
    obtain ⟨second, later, found⟩ := tokens_nonempty rest
    rw [tokens_dot, single, found, List.singleton_append]
    rw [filter_length_one _ wildcardFamilies family (by decide) known ?_,
      filter_length_zero _ exactTopics ?_]
    · intro pattern listed
      exact (exact_match pattern listed family _).trans (Bool.and_false _)
    · intro other listed
      exact (family_match other listed family _).trans (Bool.and_true _)

/-- Every peer handles an event once. -/
theorem deliveries_event (peers : Peers) (topic : String) (event : IsEventTopic topic)
    (members : List (String × Json)) (length : Nat) (others : List Message) :
    deliveries peers (eventMessage peers topic members length :: others) =
      peers.nodes.map (fun node => (node, eventMessage peers topic members length)) ++
        deliveries peers others := by
  obtain ⟨pattern, found⟩ := List.length_eq_one_iff.1 (one_subscription peers topic event)
  have once : (fun node : String => ((coordinationSubjects peers.clusterID).filter (fun pattern =>
      Delivers pattern (eventMessage peers topic members length).subject)).map
        (fun _ => (node, eventMessage peers topic members length))) =
      fun node => [(node, eventMessage peers topic members length)] := by
    funext node
    have single : (coordinationSubjects peers.clusterID).filter (fun pattern =>
        Delivers pattern (eventMessage peers topic members length).subject) = [pattern] := found
    rw [single, List.map_singleton]
  unfold deliveries
  rw [List.flatMap_cons, once, ← List.map_eq_flatMap]

/-! ## One peer's records -/

theorem name_state_member (key source nameKey : String) (payload : List (String × Json))
    (different : key ≠ nameKey) :
    getMember key (nameState floatInt source nameKey payload) = getMember key payload := by
  unfold nameState
  split
  · split
    · exact get_member_set_other key nameKey _ payload different
    · rfl
  · rfl

theorem enrich_member (topic key : String) (payload : List (String × Json))
    (notFrom : key ≠ "from_name") (notTo : key ≠ "to_name") :
    getMember key (enrichPayload floatInt topic payload) = getMember key payload := by
  unfold enrichPayload
  split
  · rfl
  · rw [name_state_member floatInt _ _ _ _ notTo, name_state_member floatInt _ _ _ _ notFrom]

/-- The decoration leaves alone what the leadership projection reads. -/
theorem synthesize_enriched (topic : String) (payload : List (String × Json)) :
    synthesizeLeaderChange (enrichPayload floatInt topic payload) =
      synthesizeLeaderChange payload := by
  unfold synthesizeLeaderChange stringMember copyMember
  rw [enrich_member floatInt topic "reason" payload (by decide) (by decide),
    enrich_member floatInt topic "node_id" payload (by decide) (by decide),
    enrich_member floatInt topic "term" payload (by decide) (by decide),
    enrich_member floatInt topic "occurred_at" payload (by decide) (by decide)]

theorem handle_sibling (publisher : Publisher) (self : String) (message : Message)
    (named : stringMember "node_id" (unmarshalMap message.data) ≠ "")
    (other : stringMember "node_id" (unmarshalMap message.data) ≠ self) :
    handleCoordinationEvent floatInt self (some publisher) message = [] := by
  simp [handleCoordinationEvent, named, other]

theorem publish_named (publisher : Publisher) (evType nodeID : String)
    (details : List (String × Json)) (typed : evType ≠ "") (named : nodeID ≠ "") :
    publishEvent publisher evType nodeID details =
      [⟨publisher.nodeID, "event", evType, publisher.clusterID, nodeID, details⟩] := by
  simp [publishEvent, typed, named]

def LeadershipEdge (topic reason : String) : Prop :=
  topic = "state_transition" ∧ (reason = "became_leader" ∨ reason = "lost_leader")

instance (topic reason : String) : Decidable (LeadershipEdge topic reason) :=
  inferInstanceAs (Decidable (_ ∧ _))

theorem leadership_edge_iff (reason : String) :
    LeadershipEdge "state_transition" reason ↔ leadershipReason reason = true := by
  simp [LeadershipEdge, leadershipReason]

theorem handle_emitter (peers : Peers) (topic : String) (members : List (String × Json))
    (length : Nat) (typed : topic ≠ "") (named : stringMember "node_id" members ≠ "") :
    handleCoordinationEvent floatInt (stringMember "node_id" members)
        (some (publisherOf peers (stringMember "node_id" members)))
        (eventMessage peers topic members length) =
      eventRecord floatInt peers topic members (stringMember "node_id" members) ::
        if LeadershipEdge topic (stringMember "reason" members) then
          [leaderRecord peers members (stringMember "node_id" members)]
        else [] := by
  have payload : unmarshalMap (eventMessage peers topic members length).data = members := rfl
  have tail : subjectTail (eventMessage peers topic members length).subject = topic :=
    subject_tail peers topic
  unfold handleCoordinationEvent
  simp only [payload, tail, synthesize_enriched, decide_true, Bool.or_true, if_true,
    publish_named _ _ _ _ typed named]
  by_cases transition : topic = "state_transition"
  · subst transition
    rw [if_pos rfl]
    unfold synthesizeLeaderChange
    by_cases edge : leadershipReason (stringMember "reason" members) = true
    · rw [if_pos ((leadership_edge_iff _).2 edge)]
      simp only [edge, Bool.not_true, Bool.false_eq_true, if_false,
        publish_named _ "proxy.leader_changed" _ _ (by decide) named]
      rfl
    · have fails : ¬ LeadershipEdge "state_transition" (stringMember "reason" members) := by
        rw [leadership_edge_iff]
        exact edge
      rw [if_neg fails]
      simp only [edge, Bool.not_false, if_true]
      rfl
  · have fails : ¬ LeadershipEdge topic (stringMember "reason" members) := by
      intro edge
      exact transition edge.1
    rw [if_neg transition, if_neg fails]
    rfl

/-! ## The history stream -/

theorem topic_nonempty (topic : String) (event : IsEventTopic topic) : topic ≠ "" := by
  intro empty
  rcases event with exact_topic | ⟨family, _, rest, parts⟩
  · rw [empty] at exact_topic
    exact absurd exact_topic (by decide)
  · have runes := congrArg String.toList (empty.symm.trans parts)
    simp at runes

/-- Whatever else happens in the cluster and in whatever order the peers handle their
messages, an event that names a peer leaves one record, published by that peer, and a
leadership edge one more. -/
theorem event_recorded_once (peers : Peers) (topic : String) (members : List (String × Json))
    (length : Nat) (others : List Message) (handled : List (String × Message))
    (event : IsEventTopic topic) (known : stringMember "node_id" members ∈ peers.nodes)
    (received : handled.Perm
      (deliveries peers (eventMessage peers topic members length :: others))) :
    (history floatInt peers handled).Perm
      ((eventRecord floatInt peers topic members (stringMember "node_id" members) ::
        if LeadershipEdge topic (stringMember "reason" members) then
          [leaderRecord peers members (stringMember "node_id" members)]
        else []) ++
        history floatInt peers (deliveries peers others)) := by
  have named := (node_id_runes _ (peers.validNodes _ known)).1
  have typed := topic_nonempty topic event
  have settled : history floatInt peers
      (peers.nodes.map (fun node => (node, eventMessage peers topic members length))) =
        eventRecord floatInt peers topic members (stringMember "node_id" members) ::
          if LeadershipEdge topic (stringMember "reason" members) then
            [leaderRecord peers members (stringMember "node_id" members)]
          else [] := by
    unfold history
    rw [List.flatMap_map, flat_map_only _ peers.nodes _ peers.distinct known]
    · exact handle_emitter floatInt peers topic members length typed named
    · intro node _ different
      exact handle_sibling floatInt _ node _ named (Ne.symm different)
  have reordered := received.flatMap_right (fun delivery => handleCoordinationEvent floatInt
    delivery.1 (some (publisherOf peers delivery.1)) delivery.2)
  rw [deliveries_event peers topic event, List.flatMap_append] at reordered
  rw [← settled]
  exact reordered

end Handler

def twoPeers : Peers where
  clusterID := "main"
  nodes := ["n1", "n2"]
  validCluster := by decide
  validNodes := by decide
  distinct := by decide

def becameLeader : List (String × Json) :=
  [("node_id", .str "n2"), ("reason", .str "became_leader"), ("from", .num "3"), ("to", .num "4")]

/-- `n2` handles its own event before `n1` drops it. -/
theorem leadership_edge_recorded_once :
    (history parseInt64 twoPeers
      (deliveries twoPeers [eventMessage twoPeers "state_transition" becameLeader 77]).reverse).Perm
      [eventRecord parseInt64 twoPeers "state_transition" becameLeader "n2",
        leaderRecord twoPeers becameLeader "n2"] := by
  have known : stringMember "node_id" becameLeader ∈ twoPeers.nodes := by decide
  have edge : LeadershipEdge "state_transition" (stringMember "reason" becameLeader) := by decide
  have once := event_recorded_once parseInt64 twoPeers "state_transition" becameLeader 77 []
    _ (.inl (by decide)) known (List.reverse_perm _)
  rw [if_pos edge] at once
  exact once

end PgmanProxy.Cluster.Events
