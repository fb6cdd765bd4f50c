import PgmanProxy.Control.Handlers
import PgmanProxy.Library.TimedLoop
import PgmanProxy.Pgmctl.Commands

/-!
# Waiting for an authorized promotion

`waitForPromotion` polls the status until a reply settles the matter, its own deadline
passes or the command is interrupted. It takes a closed join window with the target as
leader for a promotion. The lease can change hands before PostgreSQL is promoted, and
then the reply that ends the wait does not show the target as primary.
-/

namespace PgmanProxy.Pgmctl.PromotionWait

open PgmanProxy.Library.GoJson PgmanProxy.Library.TimedLoop
open PgmanProxy.Control.Handlers PgmanProxy.Pgmctl.Commands

set_option autoImplicit false

def exitTimeout : Nat := 124

/-- The fields of `promotionAuthorization` that the wait reads; times in nanoseconds. -/
structure Authorization where
  target : String
  requestedAt : Int
  expiresAt : Int
  requestID : String
deriving DecidableEq, Repr

/-- The fields of a status reply that the wait reads. -/
structure Reply where
  leaderNodeID : String
  primaryNodeID : String
  joinWindow : Option JoinWindow
  promotionAuthorization : Option Authorization
deriving DecidableEq, Repr

inductive WaitError where
  | exit (failure : Failure)
  | context (text : String)
deriving DecidableEq, Repr

/-- One turn of the loop: what the fetch returned, the time after it, and the context's error
if the pause is cut short by it. -/
structure Poll where
  reply : Except String Reply
  now : Int
  interrupted : Option String

/-- `2*time.Second` -/
def pollInterval : Int := 2000000000

/-- The turns of a wait, also those after its end. A pause lasts its two seconds. -/
structure Polls where
  poll : Nat → Poll
  spaced : ∀ index, (poll index).now + pollInterval ≤ (poll (index + 1)).now

/-- `Time.Sub` stops at the ends of `int64`. -/
def timeSub (left right : Int) : Int :=
  max (-(int64Bound : Int)) (min (int64Bound - 1) (left - right))

def deadline (auth : Authorization) (start : Int) : Int :=
  start + wrapInt64 (timeSub auth.expiresAt auth.requestedAt + 30000000000)

section Turns

variable (auth : Authorization)

def pending (reply : Reply) : Bool :=
  match reply.promotionAuthorization with
  | some other => other.requestID = auth.requestID
  | none => false

def primary (reply : Reply) : Bool :=
  reply.primaryNodeID = auth.target || reply.leaderNodeID = auth.target

def endedWithoutPromotion : Failure where
  exit := exitUnhealthy
  text := "the authorization ended without a promotion (rejected or expired); see 'pgmctl get " ++
    "history' for the promotion_authorization event and its reason (request_id=" ++
    auth.requestID ++ ")"

def notInTime : Failure where
  exit := exitTimeout
  text := auth.target ++ " did not become primary before the authorization deadline"

/-- The `switch` on a reply; `none` goes on. -/
def settles (reply : Reply) : Option (Except WaitError Unit) :=
  if !pending auth reply && reply.joinWindow.isNone && primary auth reply then some (.ok ())
  else if !pending auth reply && reply.joinWindow.isSome then
    some (.error (.exit (endedWithoutPromotion auth)))
  else none

def turn (limit : Int) (poll : Poll) : Option (Except WaitError Unit) :=
  let settled := match poll.reply with
    | .ok reply => settles auth reply
    | .error _ => none
  match settled with
  | some outcome => some outcome
  | none =>
      if poll.now > limit then some (.error (.exit (notInTime auth)))
      else poll.interrupted.map (fun text => .error (.context text))

/-- The loop from turn `index` on, for at most `fuel` turns. -/
def waitLoop (limit : Int) (polls : Polls) : Nat → Nat → Option (Except WaitError Unit)
  | 0, _ => none
  | fuel + 1, index =>
      match turn auth limit (polls.poll index) with
      | some outcome => some outcome
      | none => waitLoop limit polls fuel (index + 1)

/-- `waitForPromotion`, started at `start` -/
def waitForPromotion (start : Int) (polls : Polls) (fuel : Nat) : Option (Except WaitError Unit) :=
  waitLoop auth (deadline auth start) polls fuel 0

/-! ## How a turn ends the wait -/

/-- The reply shows the promotion: the target is primary, the window is closed and the
authorization is used up. -/
def ShowsPromotion (reply : Reply) : Prop :=
  reply.primaryNodeID = auth.target ∧ reply.joinWindow = none ∧ pending auth reply = false

def ShowsUnused (reply : Reply) : Prop :=
  reply.joinWindow.isSome = true ∧ pending auth reply = false

/-- The target holds the lease and the window is closed, but another node, or none, is
primary. -/
def LeaderOnly (reply : Reply) : Prop :=
  reply.leaderNodeID = auth.target ∧ reply.primaryNodeID ≠ auth.target ∧
    reply.joinWindow = none ∧ pending auth reply = false

theorem settles_ok_iff (reply : Reply) :
    settles auth reply = some (.ok ()) ↔ ShowsPromotion auth reply ∨ LeaderOnly auth reply := by
  unfold settles ShowsPromotion LeaderOnly primary
  cases reply.joinWindow <;> cases pending auth reply <;>
    by_cases leads : reply.leaderNodeID = auth.target <;>
    by_cases writes : reply.primaryNodeID = auth.target <;> simp [leads, writes]

theorem settles_error_iff (reply : Reply) (failure : WaitError) :
    settles auth reply = some (.error failure) ↔
      failure = .exit (endedWithoutPromotion auth) ∧ ShowsUnused auth reply := by
  unfold settles ShowsUnused
  cases reply.joinWindow <;> cases pending auth reply <;> cases primary auth reply <;>
    simp [eq_comm]

/-- The four ways a turn ends the wait. -/
inductive TurnEnds (limit : Int) (poll : Poll) : Except WaitError Unit → Prop where
  | promoted (reply : Reply) (fetched : poll.reply = .ok reply)
      (shown : ShowsPromotion auth reply ∨ LeaderOnly auth reply) : TurnEnds limit poll (.ok ())
  | unused (reply : Reply) (fetched : poll.reply = .ok reply) (shown : ShowsUnused auth reply) :
      TurnEnds limit poll (.error (.exit (endedWithoutPromotion auth)))
  | late (passed : limit < poll.now) : TurnEnds limit poll (.error (.exit (notInTime auth)))
  | interrupted (text : String) (cut : poll.interrupted = some text) :
      TurnEnds limit poll (.error (.context text))

/-- What the fetch of a turn settles, if it brings a reply. -/
def settledBy (poll : Poll) : Option (Except WaitError Unit) :=
  match poll.reply with
  | .ok reply => settles auth reply
  | .error _ => none

theorem settled_by_some (poll : Poll) (verdict : Except WaitError Unit)
    (settled : settledBy auth poll = some verdict) :
    ∃ reply, poll.reply = .ok reply ∧ settles auth reply = some verdict := by
  unfold settledBy at settled
  split at settled
  · rename_i reply fetched
    exact ⟨reply, fetched, settled⟩
  · cases settled

theorem settled_by_none_iff (poll : Poll) :
    settledBy auth poll = none ↔ ∀ reply, poll.reply = .ok reply → settles auth reply = none := by
  unfold settledBy
  cases poll.reply with
  | ok reply => simp
  | error text => simp

theorem turn_settled (limit : Int) (poll : Poll) (verdict : Except WaitError Unit)
    (settled : settledBy auth poll = some verdict) : turn auth limit poll = some verdict := by
  unfold settledBy at settled
  unfold turn
  dsimp only
  rw [settled]

/-- A turn that settles nothing looks at the clock and then at the context. -/
theorem turn_unsettled (limit : Int) (poll : Poll) (unsettled : settledBy auth poll = none) :
    turn auth limit poll =
      if poll.now > limit then some (.error (.exit (notInTime auth)))
      else poll.interrupted.map (fun text => .error (.context text)) := by
  unfold settledBy at unsettled
  unfold turn
  dsimp only
  rw [unsettled]

theorem turn_ends (limit : Int) (poll : Poll) (outcome : Except WaitError Unit)
    (ended : turn auth limit poll = some outcome) : TurnEnds auth limit poll outcome := by
  cases settled : settledBy auth poll with
  | some verdict =>
      rw [turn_settled auth limit poll verdict settled] at ended
      cases ended
      obtain ⟨reply, fetched, decided⟩ := settled_by_some auth poll outcome settled
      cases outcome with
      | ok done => exact .promoted reply fetched ((settles_ok_iff auth reply).1 decided)
      | error failure =>
          obtain ⟨rfl, shown⟩ := (settles_error_iff auth reply failure).1 decided
          exact .unused reply fetched shown
  | none =>
      rw [turn_unsettled auth limit poll settled] at ended
      split at ended
      · rename_i passed
        cases ended
        exact .late passed
      · obtain ⟨text, cut, rfl⟩ := Option.map_eq_some_iff.1 ended
        exact .interrupted text cut

/-- Nothing in this turn ends the wait. -/
structure GoesOn (limit : Int) (poll : Poll) : Prop where
  unsettled : ∀ reply, poll.reply = .ok reply →
    ¬ ShowsPromotion auth reply ∧ ¬ LeaderOnly auth reply ∧ ¬ ShowsUnused auth reply
  inTime : poll.now ≤ limit
  uncut : poll.interrupted = none

theorem settles_none_iff (reply : Reply) :
    settles auth reply = none ↔
      ¬ ShowsPromotion auth reply ∧ ¬ LeaderOnly auth reply ∧ ¬ ShowsUnused auth reply := by
  have success := settles_ok_iff auth reply
  have unused := settles_error_iff auth reply (.exit (endedWithoutPromotion auth))
  cases settled : settles auth reply with
  | none =>
      rw [settled] at success unused
      simp only [reduceCtorEq, false_iff, not_or, true_and] at success unused
      simp [success, unused]
  | some outcome =>
      simp only [reduceCtorEq, false_iff]
      rintro ⟨unshown, unled, used⟩
      cases outcome with
      | ok done => exact (success.1 settled).elim unshown unled
      | error failure => exact used ((settles_error_iff auth reply failure).1 settled).2

theorem unsettled_iff (poll : Poll) :
    settledBy auth poll = none ↔ ∀ reply, poll.reply = .ok reply →
      ¬ ShowsPromotion auth reply ∧ ¬ LeaderOnly auth reply ∧ ¬ ShowsUnused auth reply := by
  rw [settled_by_none_iff]
  simp only [settles_none_iff]

theorem goes_on_iff (limit : Int) (poll : Poll) :
    GoesOn auth limit poll ↔ turn auth limit poll = none := by
  constructor
  · intro onward
    have unsettled := (unsettled_iff auth poll).2 onward.unsettled
    rw [turn_unsettled auth limit poll unsettled, if_neg (Int.not_lt.2 onward.inTime),
      onward.uncut]
    rfl
  · intro undecided
    cases settled : settledBy auth poll with
    | some verdict =>
        rw [turn_settled auth limit poll verdict settled] at undecided
        cases undecided
    | none =>
        rw [turn_unsettled auth limit poll settled] at undecided
        split at undecided
        · cases undecided
        · rename_i early
          exact ⟨(unsettled_iff auth poll).1 settled, Int.not_lt.1 early,
            Option.map_eq_none_iff.1 undecided⟩

theorem success_turn (limit : Int) (poll : Poll) (reply : Reply)
    (fetched : poll.reply = .ok reply)
    (shown : ShowsPromotion auth reply ∨ LeaderOnly auth reply) :
    turn auth limit poll = some (.ok ()) := by
  apply turn_settled
  rw [settledBy, fetched]
  exact (settles_ok_iff auth reply).2 shown

/-! ## Whole waits -/

variable (start : Int) (polls : Polls)

/-- The wait comes to this turn. -/
def Made (index : Nat) : Prop :=
  ∀ earlier < index, GoesOn auth (deadline auth start) (polls.poll earlier)

/-- The turn ends the wait. -/
def Ends (index : Nat) : Prop :=
  (turn auth (deadline auth start) (polls.poll index)).isSome = true

theorem made_iff (index : Nat) :
    Made auth start polls index ↔ Performed (Ends auth start polls) index := by
  simp only [Made, Performed, Ends, goes_on_iff, Option.not_isSome_iff_eq_none]

theorem wait_loop_from (limit : Int) (last : Nat) (outcome : Except WaitError Unit)
    (ended : turn auth limit (polls.poll last) = some outcome) (ahead index : Nat)
    (place : index + ahead = last)
    (undecided : ∀ earlier < last, turn auth limit (polls.poll earlier) = none) :
    waitLoop auth limit polls (ahead + 1) index = some outcome := by
  induction ahead generalizing index with
  | zero =>
      rw [Nat.add_zero] at place
      rw [waitLoop, place, ended]
  | succ ahead ih =>
      rw [waitLoop, undecided index (by omega)]
      exact ih (index + 1) (by omega)

theorem wait_loop_turn (limit : Int) (fuel index : Nat) (outcome : Except WaitError Unit)
    (found : waitLoop auth limit polls fuel index = some outcome) :
    ∃ last, turn auth limit (polls.poll last) = some outcome ∧
      ∀ earlier, index ≤ earlier → earlier < last →
        turn auth limit (polls.poll earlier) = none := by
  induction fuel generalizing index with
  | zero => cases found
  | succ fuel ih =>
      rw [waitLoop] at found
      cases ended : turn auth limit (polls.poll index) with
      | some verdict =>
          rw [ended] at found
          cases found
          refine ⟨index, ended, ?_⟩
          intro earlier after before
          exact absurd before (Nat.not_lt.2 after)
      | none =>
          rw [ended] at found
          obtain ⟨last, verdict, between⟩ := ih (index + 1) found
          refine ⟨last, verdict, ?_⟩
          intro earlier after before
          rcases Nat.eq_or_lt_of_le after with rfl | later
          · exact ended
          · exact between earlier later before

/-- The outcome of a wait is that of the first turn which ends it. -/
theorem wait_outcome_iff (outcome : Except WaitError Unit) :
    (∃ fuel, waitForPromotion auth start polls fuel = some outcome) ↔
      ∃ last, Made auth start polls last ∧
        turn auth (deadline auth start) (polls.poll last) = some outcome := by
  constructor
  · rintro ⟨fuel, found⟩
    obtain ⟨last, verdict, between⟩ := wait_loop_turn auth polls _ fuel 0 outcome found
    refine ⟨last, ?_, verdict⟩
    intro earlier before
    rw [goes_on_iff]
    exact between earlier (Nat.zero_le earlier) before
  · rintro ⟨last, made, verdict⟩
    refine ⟨last + 1, ?_⟩
    apply wait_loop_from auth polls _ last outcome verdict last 0 (Nat.zero_add last)
    intro earlier before
    exact (goes_on_iff auth _ _).1 (made earlier before)

/-- The clock of the polls passes every deadline. -/
theorem clock_passes (index : Nat) :
    (polls.poll 0).now + pollInterval * index ≤ (polls.poll index).now := by
  induction index with
  | zero => simp
  | succ index ih =>
      have pause := polls.spaced index
      unfold pollInterval at ih pause ⊢
      push_cast
      omega

theorem late_turn_ends (index : Nat) (late : deadline auth start < (polls.poll index).now) :
    Ends auth start polls index := by
  unfold Ends turn
  dsimp only
  split
  · rfl
  · rw [if_pos late]
    rfl

theorem wait_ends :
    ∃ last outcome, Made auth start polls last ∧
      turn auth (deadline auth start) (polls.poll last) = some outcome := by
  have late : ∃ index, deadline auth start < (polls.poll index).now := by
    refine ⟨(deadline auth start - (polls.poll 0).now + 1).toNat, ?_⟩
    have passed := clock_passes polls (deadline auth start - (polls.poll 0).now + 1).toNat
    unfold pollInterval at passed
    omega
  obtain ⟨index, late⟩ := late
  obtain ⟨last, -, made, ends⟩ :=
    stopping_action index (late_turn_ends auth start polls index late)
  obtain ⟨outcome, verdict⟩ := Option.isSome_iff_exists.1 ends
  exact ⟨last, outcome, (made_iff auth start polls last).2 made, verdict⟩

/-! ## What an outcome may rest on -/

/-- A reply the wait fetched has the property. -/
def Fetched (shows : Reply → Prop) : Prop :=
  ∃ index reply, Made auth start polls index ∧ (polls.poll index).reply = .ok reply ∧ shows reply

/-- Success and the unhealthy exit each rest on a reply, and the only other endings are the
timeout and the context's error. -/
structure Grounded (outcome : Except WaitError Unit) : Prop where
  success : outcome = .ok () → Fetched auth start polls (ShowsPromotion auth)
  unhealthy : ∀ failure, outcome = .error (.exit failure) → failure.exit = exitUnhealthy →
    Fetched auth start polls (ShowsUnused auth)
  otherwise : outcome ≠ .ok () →
    (∀ failure, outcome = .error (.exit failure) → failure.exit ≠ exitUnhealthy) →
    (∃ failure, outcome = .error (.exit failure) ∧ failure.exit = exitTimeout) ∨
      ∃ index text, Made auth start polls index ∧ (polls.poll index).interrupted = some text ∧
        outcome = .error (.context text)

theorem last_turn_unique (first second : Nat) (one other : Except WaitError Unit)
    (made : Made auth start polls first)
    (verdict : turn auth (deadline auth start) (polls.poll first) = some one)
    (madeToo : Made auth start polls second)
    (verdictToo : turn auth (deadline auth start) (polls.poll second) = some other) :
    first = second := by
  rw [made_iff] at made madeToo
  apply stopping_action_unique first second made _ madeToo
  · rw [Ends, verdictToo]
    rfl
  · rw [Ends, verdict]
    rfl

theorem unfounded_success (index : Nat) (made : Made auth start polls index) (reply : Reply)
    (fetched : (polls.poll index).reply = .ok reply) (leads : LeaderOnly auth reply) :
    ¬ Fetched auth start polls (ShowsPromotion auth) := by
  rintro ⟨other, shown, madeOther, fetchedOther, shows⟩
  -- both turns end the wait, so they are the same one
  have verdict := success_turn auth (deadline auth start) _ reply fetched (Or.inr leads)
  have verdictOther := success_turn auth (deadline auth start) _ shown fetchedOther (Or.inl shows)
  have same : index = other :=
    last_turn_unique auth start polls index other _ _ made verdict madeOther verdictOther
  rw [same, fetchedOther] at fetched
  cases fetched
  exact leads.2.1 shows.1

/-- Apart from a reply with the target as leader only, every turn that ends the wait gives its
outcome a ground. -/
theorem turn_grounded (last : Nat) (outcome : Except WaitError Unit)
    (made : Made auth start polls last)
    (verdict : turn auth (deadline auth start) (polls.poll last) = some outcome)
    (clear : ∀ reply, (polls.poll last).reply = .ok reply → ¬ LeaderOnly auth reply) :
    Grounded auth start polls outcome := by
  cases turn_ends auth _ _ outcome verdict with
  | promoted reply fetched shown =>
      constructor
      · intro _
        rcases shown with shows | leads
        · exact ⟨last, reply, made, fetched, shows⟩
        · exact absurd leads (clear reply fetched)
      · intro failure impossible
        cases impossible
      · intro other
        exact absurd rfl other
  | unused reply fetched shown =>
      constructor
      · intro impossible
        cases impossible
      · intro _ _ _
        exact ⟨last, reply, made, fetched, shown⟩
      · intro _ other
        exact absurd rfl (other _ rfl)
  | late passed =>
      constructor
      · intro impossible
        cases impossible
      · intro failure same code
        cases same
        cases code
      · intro _ _
        exact Or.inl ⟨_, rfl, rfl⟩
  | interrupted text cut =>
      constructor
      · intro impossible
        cases impossible
      · intro failure impossible
        cases impossible
      · intro _ _
        exact Or.inr ⟨last, text, made, cut, rfl⟩

/-- The wait ends, and its outcome is grounded exactly when no reply fetched during it has the
target as leader only. -/
theorem wait_grounded_iff :
    (∃ fuel outcome, waitForPromotion auth start polls fuel = some outcome ∧
        Grounded auth start polls outcome) ↔
      ∀ index reply, Made auth start polls index → (polls.poll index).reply = .ok reply →
        ¬ LeaderOnly auth reply := by
  constructor
  · rintro ⟨fuel, outcome, waited, grounded⟩ index reply made fetched leads
    have success := success_turn auth (deadline auth start) _ reply fetched (Or.inr leads)
    obtain ⟨last, madeLast, verdict⟩ := (wait_outcome_iff auth start polls outcome).1 ⟨fuel, waited⟩
    have same : last = index :=
      last_turn_unique auth start polls last index _ _ madeLast verdict made success
    rw [same, success] at verdict
    cases verdict
    exact unfounded_success auth start polls index made reply fetched leads (grounded.success rfl)
  · intro clear
    obtain ⟨last, outcome, made, verdict⟩ := wait_ends auth start polls
    obtain ⟨fuel, waited⟩ := (wait_outcome_iff auth start polls outcome).2 ⟨last, made, verdict⟩
    refine ⟨fuel, outcome, waited, ?_⟩
    exact turn_grounded auth start polls last outcome made verdict
      (fun reply fetched => clear last reply made fetched)

end Turns

/-- `node-b` took the lease and used the authorization up; PostgreSQL there is not yet
promoted. -/
def handoverReply : Reply := ⟨"node-b", "", none, none⟩

def handoverPolls : Polls where
  poll := fun index => ⟨.ok handoverReply, pollInterval * index, none⟩
  spaced := by
    intro index
    unfold pollInterval
    push_cast
    omega

/-- The first poll ends the wait with success, though no reply ever shows a primary. -/
theorem lease_taken_for_promotion :
    let auth : Authorization := ⟨"node-b", 0, 120000000000, "01J"⟩
    waitForPromotion auth 0 handoverPolls 1 = some (.ok ()) ∧
      (∀ index, (handoverPolls.poll index).reply = .ok handoverReply) ∧
      ¬ ShowsPromotion auth handoverReply ∧
      ¬ ∃ fuel outcome, waitForPromotion auth 0 handoverPolls fuel = some outcome ∧
        Grounded auth 0 handoverPolls outcome := by
  intro auth
  have hidden : ¬ ShowsPromotion auth handoverReply := by
    rintro ⟨shown, -⟩
    exact absurd shown (by decide)
  refine ⟨rfl, fun _ => rfl, hidden, ?_⟩
  rintro ⟨fuel, outcome, waited, grounded⟩
  have success : outcome = .ok () := by
    cases fuel with
    | zero => cases waited
    | succ fuel =>
        cases waited
        rfl
  obtain ⟨index, reply, -, fetched, shows⟩ := grounded.success success
  cases fetched
  exact hidden shows

end PgmanProxy.Pgmctl.PromotionWait
