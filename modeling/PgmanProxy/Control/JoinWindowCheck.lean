import Mathlib.Data.List.Nodup
import PgmanProxy.PgManager

/-!
# The doctor's join-window check

`checkJoinWindow` looks for the peer an operator could promote when the publisher of a
join window is lost. The search goes by completeness, fencing and position; it does not
compare the database identities, which pg-manager does when the promotion is asked for.
-/

namespace PgmanProxy.Control.JoinWindowCheck

open PgmanProxy.Library.GoJson PgmanProxy.PgManager

set_option autoImplicit false

inductive DataState where
  | complete
  | other (text : String)
deriving DecidableEq, Repr

/-- `pgmanager.JoinWindowPeer` without the ages, which the check does not read. -/
structure JoinWindowPeer where
  nodeID : NodeID
  dataState : DataState
  systemIdentifier : String
  lsn : Nat
  hasLSN : Bool
  fenced : Bool
deriving DecidableEq, Repr

structure JoinWindowStatus where
  publisher : NodeID
  recordRevision : Nat
  publisherHoldsLease : Bool
  /-- in nanoseconds -/
  publisherSilentFor : Int
  peers : List JoinWindowPeer
deriving DecidableEq, Repr

structure PendingAuthorization where
  target : NodeID
  requestID : String
deriving DecidableEq, Repr

/-- The part of `pgmanager.Status` the check reads. -/
structure WindowView where
  joinWindow : Option JoinWindowStatus
  promotionAuthorization : Option PendingAuthorization
deriving DecidableEq, Repr

/-- How grave a finding of the doctor is; the checks of the other modules share it. -/
inductive Severity where
  | pass
  | info
  | warn
  | fail
  | unknown
deriving DecidableEq, Repr

def Severity.text : Severity → String
  | .pass => "PASS"
  | .info => "INFO"
  | .warn => "WARN"
  | .fail => "FAIL"
  | .unknown => "UNKNOWN"

/-- The check's messages; durations are given as they are printed. -/
inductive Message where
  | statusFailed (why : String)
  | noWindow
  | authorized (publisher target : NodeID) (requestID : String)
  | holdsLease (publisher : NodeID)
  | silent (publisher : NodeID) (silentFor : String)
  | noCandidate (publisher : NodeID) (silentFor : String)
  | promote (publisher : NodeID) (silentFor : String) (best : NodeID)
deriving DecidableEq, Repr

def Message.text : Message → String
  | .statusFailed why => "Status: " ++ why
  | .noWindow => "the cluster is not in a join window"
  | .authorized publisher target requestID =>
      "join window of " ++ publisher ++ ": promotion of " ++ target ++ " authorized (request " ++
        requestID ++ "), waiting for it"
  | .holdsLease publisher => "join window of " ++ publisher ++ ", which holds the lease"
  | .silent publisher silentFor =>
      "join window of " ++ publisher ++ ", silent for " ++ silentFor ++ ": only it may promote"
  | .noCandidate publisher silentFor =>
      "join window of " ++ publisher ++ ", silent for " ++ silentFor ++
        ", and no other node holds a complete copy"
  | .promote publisher silentFor best =>
      "join window of " ++ publisher ++ ", silent for " ++ silentFor ++
        ": no node will promote. If " ++ publisher ++ " is lost for good: pgmctl promote " ++
        best ++ " --accept-data-loss --reason '...'"

structure Verdict where
  severity : Severity
  message : Message
  evidence : Option (List (String × Json))

/-! ## The check -/

def zeroPeer : JoinWindowPeer := ⟨"", .other "", "", 0, false, false⟩

/-- The peers the search passes over. -/
def skips (window : JoinWindowStatus) (peer : JoinWindowPeer) : Bool :=
  peer.nodeID = window.publisher || peer.fenced || peer.dataState ≠ .complete || !peer.hasLSN

def takes (best peer : JoinWindowPeer) : Bool :=
  best.nodeID = "" || decide (peer.lsn > best.lsn)

def bestJoinWindowCandidate (window : JoinWindowStatus) : NodeID :=
  (window.peers.foldl (fun best peer =>
    if skips window peer then best else if takes best peer then peer else best) zeroPeer).nodeID

section Check

-- `Duration.Round(time.Second).String()`, and pg-manager's `DefaultJoinWindowAbandonSilence`
variable (roundText : Int → String) (abandonSilence : Int)

def windowEvidence (window : JoinWindowStatus) : List (String × Json) :=
  [("join_window", .bool true), ("publisher", .str window.publisher),
   ("record_revision", .num (toString window.recordRevision)),
   ("publisher_holds_lease", .bool window.publisherHoldsLease),
   ("publisher_silent_for", .str (roundText window.publisherSilentFor))]

def checkJoinWindow (status : Except String WindowView) : Verdict :=
  match status with
  | .error why => ⟨.unknown, .statusFailed why, none⟩
  | .ok view =>
      match view.joinWindow with
      | none => ⟨.pass, .noWindow, some [("join_window", .bool false)]⟩
      | some window =>
          let evidence := windowEvidence roundText window
          let silentFor := roundText window.publisherSilentFor
          match view.promotionAuthorization with
          | some pending =>
              ⟨.warn, .authorized window.publisher pending.target pending.requestID,
                some (evidence ++ [("authorization_target", .str pending.target)])⟩
          | none =>
              if window.publisherHoldsLease ||
                  decide (window.publisherSilentFor < abandonSilence) then
                if window.publisherHoldsLease then
                  ⟨.pass, .holdsLease window.publisher, some evidence⟩
                else ⟨.warn, .silent window.publisher silentFor, some evidence⟩
              else
                let best := bestJoinWindowCandidate window
                if best = "" then
                  ⟨.fail, .noCandidate window.publisher silentFor, some evidence⟩
                else
                  ⟨.fail, .promote window.publisher silentFor best,
                    some (evidence ++ [("best_candidate", .str best)])⟩

/-- An INFO is none of this check's verdicts. -/
theorem check_not_info (status : Except String WindowView) :
    (checkJoinWindow roundText abandonSilence status).severity ≠ .info := by
  simp only [checkJoinWindow]
  repeat' split
  all_goals simp

end Check

/-! ## The search -/

def eligible (window : JoinWindowStatus) : List JoinWindowPeer :=
  window.peers.filter (fun peer => !skips window peer)

/-- No later peer takes the place of this one: it has a name and none of them is ahead. -/
def outlasts (peer : JoinWindowPeer) (later : List JoinWindowPeer) : Bool :=
  later.isEmpty || (peer.nodeID ≠ "" && later.all (fun other => decide (other.lsn ≤ peer.lsn)))

/-- The first peer that no later one displaces. -/
def candidate : List JoinWindowPeer → Option JoinWindowPeer
  | [] => none
  | peer :: later => if outlasts peer later then some peer else candidate later

theorem candidate_some (peers : List JoinWindowPeer) (filled : peers ≠ []) :
    ∃ peer, candidate peers = some peer := by
  induction peers with
  | nil => exact absurd rfl filled
  | cons peer later ih =>
      rw [candidate]
      split
      · exact ⟨peer, rfl⟩
      · rename_i displaced
        apply ih
        rintro rfl
        exact displaced rfl

theorem candidate_mem (peers : List JoinWindowPeer) (peer : JoinWindowPeer)
    (chosen : candidate peers = some peer) : peer ∈ peers := by
  induction peers with
  | nil => cases chosen
  | cons first later ih =>
      rw [candidate] at chosen
      split at chosen
      · cases chosen
        exact List.mem_cons_self
      · exact List.mem_cons_of_mem first (ih chosen)

theorem outlasts_iff (peer : JoinWindowPeer) (later : List JoinWindowPeer) :
    outlasts peer later = true ↔
      later = [] ∨ (peer.nodeID ≠ "" ∧ ∀ other ∈ later, other.lsn ≤ peer.lsn) := by
  simp [outlasts]

theorem not_takes_iff (best peer : JoinWindowPeer) :
    takes best peer = false ↔ best.nodeID ≠ "" ∧ peer.lsn ≤ best.lsn := by
  simp [takes]

theorem outlasts_displaced (held peer : JoinWindowPeer) (later : List JoinWindowPeer)
    (taken : takes held peer = true) : outlasts held (peer :: later) = false := by
  by_contra stays
  rw [Bool.not_eq_false, outlasts_iff] at stays
  rcases stays with empty | ⟨named, ahead⟩
  · cases empty
  · have kept := (not_takes_iff held peer).2 ⟨named, ahead peer List.mem_cons_self⟩
    rw [taken] at kept
    cases kept

/-- A peer that does not take the place held makes no difference to whether it is kept. -/
theorem outlasts_kept (held peer : JoinWindowPeer) (later : List JoinWindowPeer)
    (kept : takes held peer = false) : outlasts held (peer :: later) = outlasts held later := by
  obtain ⟨named, behind⟩ := (not_takes_iff held peer).1 kept
  rw [Bool.eq_iff_iff, outlasts_iff, outlasts_iff]
  constructor
  · rintro (empty | ⟨-, ahead⟩)
    · cases empty
    · exact Or.inr ⟨named, (List.forall_mem_cons.1 ahead).2⟩
  · rintro (rfl | ⟨-, ahead⟩)
    · exact Or.inr ⟨named, by simpa using behind⟩
    · exact Or.inr ⟨named, List.forall_mem_cons.2 ⟨behind, ahead⟩⟩

theorem candidate_kept (held peer : JoinWindowPeer) (later : List JoinWindowPeer)
    (kept : takes held peer = false) (displaced : ¬ outlasts held later = true) :
    candidate (peer :: later) = candidate later := by
  obtain ⟨named, behind⟩ := (not_takes_iff held peer).1 kept
  rw [candidate, if_neg]
  -- whoever is ahead of the peer that is held is ahead of this one too
  intro outlasting
  apply displaced
  rw [outlasts_iff] at outlasting ⊢
  rcases outlasting with empty | ⟨-, ahead⟩
  · exact Or.inl empty
  · exact Or.inr ⟨named, fun other member => Nat.le_trans (ahead other member) behind⟩

theorem candidate_taken (held peer : JoinWindowPeer) (later : List JoinWindowPeer) :
    (candidate (peer :: later)).getD held =
      if outlasts peer later then peer else (candidate later).getD peer := by
  rw [candidate]
  split
  · rfl
  · rename_i beaten
    have filled : later ≠ [] := by
      intro empty
      rw [empty] at beaten
      exact beaten rfl
    obtain ⟨chosen, found⟩ := candidate_some later filled
    rw [found]
    rfl

/-- The loop ends with the peer it holds, if that outlasts the rest, and with the candidate
among the rest otherwise. -/
theorem search_eq (peers : List JoinWindowPeer) (held : JoinWindowPeer) :
    peers.foldl (fun best peer => if takes best peer then peer else best) held =
      if outlasts held peers then held else (candidate peers).getD held := by
  induction peers generalizing held with
  | nil => rfl
  | cons peer later ih =>
      rw [List.foldl_cons, ih]
      cases taken : takes held peer with
      | true =>
          rw [if_pos rfl, outlasts_displaced held peer later taken, if_neg Bool.false_ne_true,
            candidate_taken]
      | false =>
          rw [if_neg Bool.false_ne_true, outlasts_kept held peer later taken]
          split
          · rfl
          · rename_i displaced
            rw [candidate_kept held peer later taken displaced]

theorem best_eq_candidate (window : JoinWindowStatus) :
    bestJoinWindowCandidate window =
      ((candidate (eligible window)).map (fun peer => peer.nodeID)).getD "" := by
  have searched : window.peers.foldl (fun best peer =>
      if skips window peer then best else if takes best peer then peer else best) zeroPeer =
      (eligible window).foldl (fun best peer => if takes best peer then peer else best)
        zeroPeer := by
    rw [eligible, List.foldl_filter]
    congr 1
    funext best peer
    cases skips window peer <;> rfl
  rw [bestJoinWindowCandidate, searched, search_eq]
  cases peers : eligible window with
  | nil => rfl
  | cons peer later =>
      obtain ⟨chosen, found⟩ := candidate_some (peer :: later) (List.cons_ne_nil peer later)
      have unnamed : ¬ outlasts zeroPeer (peer :: later) = true := by
        rw [outlasts_iff]
        rintro (empty | ⟨named, -⟩)
        · cases empty
        · exact named rfl
      rw [if_neg unnamed, found]
      rfl

theorem mem_eligible (window : JoinWindowStatus) (peer : JoinWindowPeer) :
    peer ∈ eligible window ↔ peer ∈ window.peers ∧ peer.nodeID ≠ window.publisher ∧
      peer.fenced = false ∧ peer.dataState = .complete ∧ peer.hasLSN = true := by
  simp [eligible, skips, and_assoc]

/-! ## Promotable peers -/

/-- The peer has the publisher's system identifier, where that is listed. -/
def SameDatabase (window : JoinWindowStatus) (peer : JoinWindowPeer) : Prop :=
  ∀ publisher ∈ window.peers, publisher.nodeID = window.publisher →
    publisher.systemIdentifier ≠ "" → peer.systemIdentifier = publisher.systemIdentifier

/-- What `pgmctl promote` documents about NODE, as far as the status shows it. -/
structure Promotable (window : JoinWindowStatus) (peer : JoinWindowPeer) : Prop where
  other : peer.nodeID ≠ window.publisher
  unfenced : peer.fenced = false
  complete : peer.dataState = .complete
  positioned : peer.hasLSN = true
  database : SameDatabase window peer

/-- A promotable peer that no promotable peer is ahead of. -/
def Foremost (window : JoinWindowStatus) (peer : JoinWindowPeer) : Prop :=
  peer ∈ window.peers ∧ Promotable window peer ∧
    ∀ other ∈ window.peers, Promotable window other → other.lsn ≤ peer.lsn

def Message.suggests : Message → Option NodeID
  | .promote _ _ best => some best
  | _ => none

def Message.reportsNone : Message → Bool
  | .noCandidate _ _ => true
  | _ => false

/-- The command a message suggests names a foremost peer, and where it reports that no node
qualifies there is none. -/
structure SoundAdvice (window : JoinWindowStatus) (message : Message) : Prop where
  suggested : ∀ node, message.suggests = some node →
    ∃ peer, peer.nodeID = node ∧ Foremost window peer
  none : message.reportsNone = true → ∀ peer ∈ window.peers, ¬ Promotable window peer

theorem promotable_iff (window : JoinWindowStatus) (peer : JoinWindowPeer) :
    peer ∈ window.peers ∧ Promotable window peer ↔
      peer ∈ eligible window ∧ SameDatabase window peer := by
  rw [mem_eligible]
  constructor
  · rintro ⟨listed, other, unfenced, complete, positioned, database⟩
    exact ⟨⟨listed, other, unfenced, complete, positioned⟩, database⟩
  · rintro ⟨⟨listed, other, unfenced, complete, positioned⟩, database⟩
    exact ⟨listed, other, unfenced, complete, positioned, database⟩

theorem foremost_iff (window : JoinWindowStatus) (peer : JoinWindowPeer) :
    Foremost window peer ↔ peer ∈ eligible window ∧ SameDatabase window peer ∧
      ∀ other ∈ eligible window, SameDatabase window other → other.lsn ≤ peer.lsn := by
  constructor
  · rintro ⟨listed, promotable, ahead⟩
    obtain ⟨here, database⟩ := (promotable_iff window peer).1 ⟨listed, promotable⟩
    refine ⟨here, database, ?_⟩
    intro other there same
    obtain ⟨present, able⟩ := (promotable_iff window other).2 ⟨there, same⟩
    exact ahead other present able
  · rintro ⟨here, database, ahead⟩
    obtain ⟨listed, promotable⟩ := (promotable_iff window peer).2 ⟨here, database⟩
    refine ⟨listed, promotable, ?_⟩
    intro other present able
    obtain ⟨there, same⟩ := (promotable_iff window other).1 ⟨present, able⟩
    exact ahead other there same

theorem sound_promote_iff (window : JoinWindowStatus) (publisher best : NodeID)
    (silentFor : String) :
    SoundAdvice window (.promote publisher silentFor best) ↔
      ∃ peer ∈ eligible window, peer.nodeID = best ∧ SameDatabase window peer ∧
        ∀ other ∈ eligible window, SameDatabase window other → other.lsn ≤ peer.lsn := by
  constructor
  · rintro ⟨suggested, -⟩
    obtain ⟨peer, named, foremost⟩ := suggested best rfl
    obtain ⟨here, database, ahead⟩ := (foremost_iff window peer).1 foremost
    exact ⟨peer, here, named, database, ahead⟩
  · rintro ⟨peer, here, named, database, ahead⟩
    constructor
    · intro node suggested
      cases suggested
      exact ⟨peer, named, (foremost_iff window peer).2 ⟨here, database, ahead⟩⟩
    · intro impossible
      cases impossible

theorem sound_none_iff (window : JoinWindowStatus) (publisher : NodeID) (silentFor : String) :
    SoundAdvice window (.noCandidate publisher silentFor) ↔
      ∀ peer ∈ eligible window, ¬ SameDatabase window peer := by
  constructor
  · rintro ⟨-, nobody⟩ peer here database
    obtain ⟨listed, promotable⟩ := (promotable_iff window peer).2 ⟨here, database⟩
    exact nobody rfl peer listed promotable
  · intro strangers
    constructor
    · intro node impossible
      cases impossible
    · intro _ peer listed promotable
      obtain ⟨here, database⟩ := (promotable_iff window peer).1 ⟨listed, promotable⟩
      exact strangers peer here database

/-- The check goes as far as its search. -/
def Searches (abandonSilence : Int) (window : JoinWindowStatus)
    (pending : Option PendingAuthorization) : Prop :=
  pending = none ∧ window.publisherHoldsLease = false ∧
    abandonSilence ≤ window.publisherSilentFor

/-- One named entry for each node. -/
def WellNamed (peers : List JoinWindowPeer) : Prop :=
  (∀ peer ∈ peers, peer.nodeID ≠ "") ∧ (peers.map (fun peer => peer.nodeID)).Nodup

/-- The first listed of the entries with the highest position. -/
def leading (peers : List JoinWindowPeer) : Option JoinWindowPeer :=
  peers.find? (fun peer => peers.all (fun other => decide (other.lsn ≤ peer.lsn)))

/-- An entry gives way to a later one that is ahead of it, and to any later one if it has no
name. -/
def Yields (peer : JoinWindowPeer) (later : List JoinWindowPeer) : Prop :=
  ∃ other ∈ later, peer.nodeID = "" ∨ peer.lsn < other.lsn

/-- The first entry that does not give way. -/
def Standing (peers : List JoinWindowPeer) (peer : JoinWindowPeer) : Prop :=
  ∃ front back, peers = front ++ peer :: back ∧ ¬ Yields peer back ∧
    ∀ first other rest, front = first ++ other :: rest → Yields other (rest ++ peer :: back)

/-- What has to hold of the entries that come into question. -/
structure PeersFit (window : JoinWindowStatus) : Prop where
  /-- With names of their own, the first of the highest holds the publisher's database. -/
  distinct : WellNamed (eligible window) → ∀ peer, leading (eligible window) = some peer →
    SameDatabase window peer
  /-- With names that repeat or are missing, an entry of the standing one's name holds it and none
  that is ahead does; and where the standing one has no name, none does. -/
  muddled : ¬ WellNamed (eligible window) → ∀ peer, Standing (eligible window) peer →
    (peer.nodeID ≠ "" → ∃ twin ∈ eligible window, twin.nodeID = peer.nodeID ∧
      SameDatabase window twin ∧
        ∀ other ∈ eligible window, twin.lsn < other.lsn → ¬ SameDatabase window other) ∧
    (peer.nodeID = "" → ∀ other ∈ eligible window, ¬ SameDatabase window other)

/-! ## The entry the search settles on -/

theorem not_yields_iff (peer : JoinWindowPeer) (later : List JoinWindowPeer) :
    ¬ Yields peer later ↔ outlasts peer later = true := by
  rw [outlasts_iff]
  constructor
  · intro stays
    by_cases empty : later = []
    · exact .inl empty
    · obtain ⟨other, member⟩ := List.exists_mem_of_ne_nil later empty
      refine .inr ⟨fun unnamed => stays ⟨other, member, .inl unnamed⟩, ?_⟩
      intro another there
      by_contra ahead
      exact stays ⟨another, there, .inr (Nat.lt_of_not_le ahead)⟩
  · rintro (rfl | ⟨named, ahead⟩) ⟨other, member, reason⟩
    · cases member
    · rcases reason with unnamed | less
      · exact named unnamed
      · have bound := ahead other member
        omega

theorem candidate_standing (peers : List JoinWindowPeer) (peer : JoinWindowPeer)
    (chosen : candidate peers = some peer) : Standing peers peer := by
  induction peers with
  | nil => cases chosen
  | cons entry later ih =>
      rw [candidate] at chosen
      split at chosen
      · rename_i outlasting
        cases chosen
        refine ⟨[], later, rfl, (not_yields_iff _ _).2 outlasting, ?_⟩
        intro first other rest split
        cases first <;> cases split
      · rename_i displaced
        obtain ⟨front, back, whole, stays, earlier⟩ := ih chosen
        refine ⟨entry :: front, back, by rw [whole, List.cons_append], stays, ?_⟩
        intro first other rest split
        cases first with
        | nil =>
            cases split
            rw [← whole]
            by_contra kept
            exact displaced ((not_yields_iff _ _).1 kept)
        | cons head first => exact earlier first other rest (List.cons.inj split).2

theorem standing_candidate (peers : List JoinWindowPeer) (peer : JoinWindowPeer)
    (standing : Standing peers peer) : candidate peers = some peer := by
  obtain ⟨front, back, rfl, stays, earlier⟩ := standing
  induction front with
  | nil => rw [List.nil_append, candidate, if_pos ((not_yields_iff peer back).1 stays)]
  | cons entry front ih =>
      have yields := earlier [] entry front rfl
      have displaced : ¬ outlasts entry (front ++ peer :: back) = true :=
        fun outlasting => (not_yields_iff _ _).2 outlasting yields
      rw [List.cons_append, candidate, if_neg displaced]
      apply ih
      intro first other rest split
      exact earlier (entry :: first) other rest (congrArg (entry :: ·) split)

/-- Among named peers the candidate is one with the highest position. -/
theorem candidate_highest (peers : List JoinWindowPeer) (chosen : JoinWindowPeer)
    (named : ∀ peer ∈ peers, peer.nodeID ≠ "") (found : candidate peers = some chosen) :
    ∀ other ∈ peers, other.lsn ≤ chosen.lsn := by
  induction peers with
  | nil => cases found
  | cons peer later ih =>
      obtain ⟨own, rest⟩ := List.forall_mem_cons.1 named
      rw [candidate] at found
      split at found
      · rename_i outlasting
        have same : peer = chosen := Option.some.inj found
        rw [← same]
        rcases (outlasts_iff peer later).1 outlasting with rfl | ⟨-, ahead⟩
        · simp
        · exact List.forall_mem_cons.2 ⟨Nat.le_refl _, ahead⟩
      · rename_i displaced
        have below := ih rest found
        refine List.forall_mem_cons.2 ⟨?_, below⟩
        -- this peer was displaced by one that the candidate is not behind
        by_contra higher
        apply displaced
        rw [outlasts_iff]
        refine Or.inr ⟨own, ?_⟩
        intro other member
        have bound := below other member
        omega

/-- Among named peers the candidate is the leading one. -/
theorem leading_eq_candidate (peers : List JoinWindowPeer)
    (named : ∀ peer ∈ peers, peer.nodeID ≠ "") : leading peers = candidate peers := by
  cases found : candidate peers with
  | none =>
      have empty : peers = [] := by
        by_contra filled
        obtain ⟨peer, chosen⟩ := candidate_some peers filled
        rw [found] at chosen
        cases chosen
      rw [empty]
      rfl
  | some peer =>
      have highest := candidate_highest peers peer named found
      obtain ⟨front, back, whole, -, earlier⟩ := candidate_standing peers peer found
      rw [leading, List.find?_eq_some_iff_append]
      refine ⟨by simpa using highest, front, back, whole, ?_⟩
      intro other member
      obtain ⟨first, rest, split⟩ := List.append_of_mem member
      obtain ⟨later, there, reason⟩ := earlier first other rest split
      have listed : other ∈ peers := by
        rw [whole]
        exact List.mem_append_left _ member
      have present : later ∈ peers := by
        rw [whole, split, List.append_assoc, List.cons_append]
        exact List.mem_append_right _ (List.mem_cons_of_mem _ there)
      have less := reason.resolve_left (named other listed)
      simp only [Bool.not_eq_true', List.all_eq_false, decide_eq_true_eq]
      exact ⟨later, present, Nat.not_le.2 less⟩

/-- With one named entry for each node, a foremost entry of the leading one's name is the leading
one. -/
theorem leading_fits_iff (window : JoinWindowStatus) (wellNamed : WellNamed (eligible window))
    (chosen : JoinWindowPeer) (found : candidate (eligible window) = some chosen) :
    (∃ peer ∈ eligible window, peer.nodeID = chosen.nodeID ∧ SameDatabase window peer ∧
        ∀ other ∈ eligible window, SameDatabase window other → other.lsn ≤ peer.lsn) ↔
      SameDatabase window chosen := by
  have here := candidate_mem (eligible window) chosen found
  constructor
  · rintro ⟨peer, member, same, database, -⟩
    have equal := List.inj_on_of_nodup_map wellNamed.2 member here same
    rw [← equal]
    exact database
  · intro database
    have highest := candidate_highest (eligible window) chosen wellNamed.1 found
    exact ⟨chosen, here, rfl, database, fun other member _ => highest other member⟩

theorem none_ahead_iff (window : JoinWindowStatus) (peer : JoinWindowPeer) :
    (∀ other ∈ eligible window, peer.lsn < other.lsn → ¬ SameDatabase window other) ↔
      ∀ other ∈ eligible window, SameDatabase window other → other.lsn ≤ peer.lsn := by
  simp only [← Nat.not_lt]
  exact forall₂_congr (fun _ _ => ⟨fun apart held ahead => apart ahead held,
    fun bounded ahead held => bounded held ahead⟩)

/-- The condition on the list, at the entry the search settles on. -/
theorem peers_fit_iff (window : JoinWindowStatus) :
    PeersFit window ↔ ∀ chosen, candidate (eligible window) = some chosen →
      (chosen.nodeID ≠ "" → ∃ peer ∈ eligible window, peer.nodeID = chosen.nodeID ∧
        SameDatabase window peer ∧
        ∀ other ∈ eligible window, SameDatabase window other → other.lsn ≤ peer.lsn) ∧
      (chosen.nodeID = "" → ∀ peer ∈ eligible window, ¬ SameDatabase window peer) := by
  by_cases wellNamed : WellNamed (eligible window)
  · have same := leading_eq_candidate (eligible window) wellNamed.1
    have named : ∀ chosen, candidate (eligible window) = some chosen → chosen.nodeID ≠ "" :=
      fun chosen found => wellNamed.1 chosen (candidate_mem (eligible window) chosen found)
    constructor
    · intro fits chosen found
      refine ⟨fun _ => ?_, fun unnamed => absurd unnamed (named chosen found)⟩
      rw [leading_fits_iff window wellNamed chosen found]
      exact fits.distinct wellNamed chosen (same.trans found)
    · intro fits
      refine ⟨?_, fun muddled => absurd wellNamed muddled⟩
      intro _ peer first
      have found := same.symm.trans first
      exact (leading_fits_iff window wellNamed peer found).1
        ((fits peer found).1 (named peer found))
  · simp only [← none_ahead_iff]
    constructor
    · intro fits chosen found
      exact fits.muddled wellNamed chosen (candidate_standing _ chosen found)
    · intro fits
      refine ⟨fun named => absurd named wellNamed, ?_⟩
      intro _ peer standing
      exact fits peer (standing_candidate _ peer standing)

/-! ## The advice -/

section Advice

variable (roundText : Int → String) (abandonSilence : Int) (window : JoinWindowStatus)
  (pending : Option PendingAuthorization)

def advice : Message :=
  (checkJoinWindow roundText abandonSilence (.ok ⟨some window, pending⟩)).message

theorem quiet_advice (early : ¬ Searches abandonSilence window pending) :
    (advice roundText abandonSilence window pending).suggests = none ∧
      (advice roundText abandonSilence window pending).reportsNone = false := by
  unfold advice checkJoinWindow
  cases pending with
  | some pending => exact ⟨rfl, rfl⟩
  | none =>
      dsimp only
      split
      · split <;> exact ⟨rfl, rfl⟩
      · rename_i abandoned
        simp only [Bool.or_eq_true, decide_eq_true_eq, not_or, Bool.not_eq_true,
          Int.not_lt] at abandoned
        exact absurd ⟨rfl, abandoned⟩ early

theorem searched_advice (searches : Searches abandonSilence window pending) :
    advice roundText abandonSilence window pending =
      if bestJoinWindowCandidate window = "" then
        .noCandidate window.publisher (roundText window.publisherSilentFor)
      else .promote window.publisher (roundText window.publisherSilentFor)
        (bestJoinWindowCandidate window) := by
  obtain ⟨rfl, unheld, long⟩ := searches
  have abandoned : ¬ (window.publisherHoldsLease ||
      decide (window.publisherSilentFor < abandonSilence)) = true := by
    simp [unheld, Int.not_lt.2 long]
  unfold advice checkJoinWindow
  dsimp only
  rw [if_neg abandoned]
  split <;> rfl

/-- The check's advice is sound exactly when it does not get to its search, or the first of the
highest entries holds the publisher's database. -/
theorem sound_advice_iff :
    SoundAdvice window (advice roundText abandonSilence window pending) ↔
      (Searches abandonSilence window pending → PeersFit window) := by
  by_cases searches : Searches abandonSilence window pending
  · rw [searched_advice roundText abandonSilence window pending searches, best_eq_candidate]
    simp only [searches, true_imp_iff, peers_fit_iff]
    cases found : candidate (eligible window) with
    | none =>
        have nobody : eligible window = [] := by
          by_contra filled
          obtain ⟨peer, chosen⟩ := candidate_some (eligible window) filled
          rw [found] at chosen
          cases chosen
        simp only [Option.map_none, Option.getD_none, if_true, sound_none_iff, nobody]
        simp
    | some chosen =>
        simp only [Option.map_some, Option.getD_some, Option.some.injEq, forall_eq']
        by_cases unnamed : chosen.nodeID = ""
        · rw [if_pos unnamed, sound_none_iff]
          simp [unnamed]
        · rw [if_neg unnamed, sound_promote_iff]
          simp [unnamed]
  · obtain ⟨silent, neutral⟩ :=
      quiet_advice roundText abandonSilence window pending searches
    simp only [searches, false_imp_iff, iff_true]
    constructor
    · intro node suggested
      rw [silent] at suggested
      cases suggested
    · intro reported
      rw [neutral] at reported
      cases reported

end Advice

/-- `node-a` is lost; `node-b` was cloned from another cluster and is ahead of `node-c`. -/
def foreignPeer : JoinWindowStatus where
  publisher := "node-a"
  recordRevision := 7
  publisherHoldsLease := false
  publisherSilentFor := 300000000000
  peers :=
    [⟨"node-a", .complete, "7481", 900, true, false⟩,
      ⟨"node-b", .complete, "9902", 500, true, false⟩,
      ⟨"node-c", .complete, "7481", 400, true, false⟩]

/-- The check recommends the node with the other database. -/
theorem foreign_peer_recommended :
    advice (fun _ => "5m0s") 60000000000 foreignPeer none = .promote "node-a" "5m0s" "node-b" ∧
      ¬ SoundAdvice foreignPeer (advice (fun _ => "5m0s") 60000000000 foreignPeer none) := by
  refine ⟨rfl, ?_⟩
  rintro ⟨suggested, -⟩
  obtain ⟨peer, named, listed, promotable, -⟩ := suggested "node-b" rfl
  have publisher := promotable.database ⟨"node-a", .complete, "7481", 900, true, false⟩
    List.mem_cons_self rfl (by decide)
  simp only [foreignPeer, List.mem_cons, List.not_mem_nil, or_false] at listed
  rcases listed with rfl | rfl | rfl
  · exact absurd named (by decide)
  · exact absurd publisher (by decide)
  · exact absurd named (by decide)

end PgmanProxy.Control.JoinWindowCheck
