import PgmanProxy.History.Queries

/-!
# Watching the history live

A watch opens one consumer and forwards what it delivers: from the start of the
stream when there is a cursor to find first, from a time in the past, or only what
is published from then on. The events channel is closed when the iteration ends;
an error goes to the other channel before that.
-/

namespace PgmanProxy.History.Watcher

open PgmanProxy.History.Queries PgmanProxy.History.Stream PgmanProxy.Library.GoBytes

set_option autoImplicit false

structure WatchOptions where
  cursor : List UInt8
  since : Int
  category : Option Category
  types : List String
  nodes : List String

def WatchOptions.policy (now : Int) (opts : WatchOptions) : DeliverPolicy :=
  if opts.cursor ≠ [] then .all
  else if 0 < opts.since then .byStartTime (now - opts.since)
  else .new

/-- The messages of the consumer: of the records held when it was opened and of those
published later. -/
def WatchOptions.delivered (now : Int) (clusterID : String) (opts : WatchOptions)
    (held later : List Record) : List Record :=
  ((opts.policy now).backlog held ++ later).filter (seen clusterID opts.category)

/-- How the iteration stands after the last message: it waits for the next one, it was
stopped, or it failed. -/
inductive Iteration where
  | waiting
  | stopped
  | failed (why : String)

/-- What JetStream answers to one watch. -/
structure Subscription where
  streamError : Option String
  consumerError : Option String
  messagesError : Option String
  messages : List Record
  iteration : Iteration

/-- What the two channels carry. -/
structure Channels where
  events : List HistoryEvent
  error : Option String
  closed : Bool

section Filters

variable (equalFold : String → String → Bool)

/-- The loop over `iter.Next`. -/
def forward (opts : WatchOptions) : Bool → List Record → List HistoryEvent
  | _, [] => []
  | cursorSeen, message :: messages =>
      match message.event with
      | none => forward opts cursorSeen messages
      | some event =>
          if !cursorSeen then forward opts (utf8 event.id = opts.cursor) messages
          else if !typeMatches equalFold opts.types event.type then
            forward opts cursorSeen messages
          else if !nodeMatches opts.nodes event.nodeID then forward opts cursorSeen messages
          else event :: forward opts cursorSeen messages

def run (opts : WatchOptions) (subscription : Subscription) : Channels :=
  match subscription.streamError, subscription.consumerError, subscription.messagesError with
  | some why, _, _ => ⟨[], some ("open history stream: " ++ why), true⟩
  | none, some why, _ => ⟨[], some ("history ordered consumer: " ++ why), true⟩
  | none, none, some why => ⟨[], some ("history messages: " ++ why), true⟩
  | none, none, none =>
      let events := forward equalFold opts (opts.cursor = []) subscription.messages
      match subscription.iteration with
      | .waiting => ⟨events, none, false⟩
      | .stopped => ⟨events, none, true⟩
      | .failed why => ⟨events, some ("history next: " ++ why), true⟩

def watch (connected : Bool) (clusterID : String) (opts : WatchOptions)
    (subscription : Subscription) : Channels :=
  if !connected then ⟨[], some "history: nil Watcher", true⟩
  else if clusterID = "" then ⟨[], some "history: empty clusterID", true⟩
  else run equalFold opts subscription

/-- The query with the same filters and no upper bound on the time. -/
def WatchOptions.asQuery (opts : WatchOptions) : Query where
  since := opts.since
  untilTime := none
  category := opts.category
  types := opts.types
  nodes := opts.nodes
  limit := 0
  cursor := opts.cursor

/-- A watch selects as a query does, without a limit. -/
theorem forward_remaining (opts : WatchOptions) (cursorSeen : Bool) (messages : List Record) :
    forward equalFold opts cursorSeen messages =
      remaining equalFold opts.asQuery cursorSeen messages := by
  induction messages generalizing cursorSeen with
  | nil => cases cursorSeen <;> rfl
  | cons message messages ih =>
      cases decoded : message.event with
      | none =>
          rw [remaining_undecodable _ _ _ _ _ decoded, forward, decoded]
          exact ih cursorSeen
      | some event =>
          have inTime : opts.asQuery.late event = false := rfl
          cases cursorSeen with
          | false =>
              rw [remaining_before _ _ _ _ _ decoded inTime, forward, decoded]
              exact ih _
          | true =>
              rw [remaining_behind _ _ _ _ _ decoded inTime, forward, decoded, ← ih true]
              cases typed : typeMatches equalFold opts.types event.type <;>
                cases placed : nodeMatches opts.nodes event.nodeID <;>
                simp [selects, WatchOptions.asQuery, typed, placed]

/-- A watch whose iteration is waiting has brought what the query selects. -/
theorem watch_waiting (clusterID : String) (cluster : clusterID ≠ "") (opts : WatchOptions)
    (messages : List Record) :
    watch equalFold true clusterID opts ⟨none, none, none, messages, .waiting⟩ =
      ⟨remaining equalFold opts.asQuery (opts.cursor = []) messages, none, false⟩ := by
  rw [watch, if_neg (by simp), if_neg cluster, ← forward_remaining]
  rfl

end Filters

end PgmanProxy.History.Watcher
