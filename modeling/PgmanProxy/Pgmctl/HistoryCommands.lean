import PgmanProxy.Library.GoUrl
import PgmanProxy.Control.HistoryQuery

/-!
# The history commands

`pgmctl events`, `pgmctl get events` and `pgmctl get audit` send their flags as the query of
one request, and the server reads its query out of that text. A flag that is left out of the
request takes the server's default.
-/

namespace PgmanProxy.Pgmctl.HistoryCommands

open PgmanProxy.Library.GoBytes (utf8)
open PgmanProxy.Library.GoJson PgmanProxy.Library.GoStrings PgmanProxy.Library.GoUrl
open PgmanProxy.History.Queries PgmanProxy.History.Stream
open PgmanProxy.Control.HistoryQuery

set_option autoImplicit false

/-! ## The request -/

structure EventsFlags where
  since : Int
  untilText : String
  types : List String
  nodes : List String
  limit : Int
  cursor : String
  category : String
deriving Repr, DecidableEq

/-- The path of the request with these values. -/
def pathWith (values : Values) : List Char :=
  "/v1/history".toList ++ if values.encode = [] then [] else '?' :: values.encode

/-- What `runGet` makes of the flags before it runs the same command. -/
def getFlags (flags : EventsFlags) : EventsFlags :=
  { flags with
    since := if flags.since = 0 then defaultSince else flags.since
    limit := if flags.limit = 0 then 1000 else flags.limit }

def chosenCategory (categoryOverride : String) (flags : EventsFlags) : String :=
  if categoryOverride = "" then flags.category else categoryOverride

section Request

-- `Duration.String`
variable (durationString : Int → String)

/-- The values `runHistory` fills in. -/
def flagValues (categoryOverride : String) (flags : EventsFlags) : Values :=
  let q : Values := ∅
  let q := if 0 < flags.since then q.set "since" (durationString flags.since) else q
  let q := if flags.untilText ≠ "" then q.set "until" flags.untilText else q
  let q := flags.types.foldl (fun q text => q.add "type" text) q
  let q := flags.nodes.foldl (fun q text => q.add "node" text) q
  let q := if 0 < flags.limit then q.set "limit" (toString flags.limit) else q
  let q := if flags.cursor ≠ "" then q.set "cursor" flags.cursor else q
  let category := chosenCategory categoryOverride flags
  if category ≠ "" then q.set "category" category else q

def historyPath (categoryOverride : String) (flags : EventsFlags) : List Char :=
  pathWith (flagValues durationString categoryOverride flags)

end Request

/-! ## What the server reads -/

theorem get_head (values : List (String × String)) (key : String) :
    Control.HistoryQuery.get values key = (getAll values key).headD "" := by
  induction values with
  | nil => rfl
  | cons value values ih =>
      rcases value with ⟨name, text⟩
      by_cases same : name = key
      · simp [Control.HistoryQuery.get, getAll, same]
      · have other : (key == name) = false := by simpa using Ne.symm same
        rw [getAll, List.filter_cons_of_neg (by simpa using same), ← getAll, ← ih,
          Control.HistoryQuery.get, List.lookup_cons, other]
        rfl

theorem path_texts (values : Values) (key : String) :
    getAll (addressQuery (pathWith values)) key = values.texts key := by
  unfold pathWith
  rw [address_query_encode "/v1/history".toList values (by decide) (by decide)]
  exact parse_query_texts values key

theorem path_text (values : Values) (key : String) :
    Control.HistoryQuery.get (addressQuery (pathWith values)) key =
      (values.texts key).headD "" := by
  rw [get_head, path_texts]

theorem optional_head (text : String) : (if text ≠ "" then [text] else []).headD "" = text := by
  by_cases empty : text = ""
  · rw [if_neg (not_not.2 empty), empty]
    rfl
  · rw [if_pos empty]
    rfl

/-- The query that the flags mean. A window or a limit that is not positive is the default
one. -/
def meantQuery (parseTime : String → Except String Int) (categoryOverride : String)
    (flags : EventsFlags) : Except String Query := do
  let untilTime ← untilOf parseTime flags.untilText
  let category ← categoryOf (chosenCategory categoryOverride flags)
  return {
    since := if 0 < flags.since then flags.since else defaultSince
    untilTime := untilTime
    category := category
    types := (flags.types.map trimSpace).filter (fun value => value ≠ "")
    nodes := (flags.nodes.map trimSpace).filter (fun value => value ≠ "")
    limit := if 0 < flags.limit then flags.limit else 1000
    cursor := utf8 flags.cursor }

section Received

-- `time.ParseDuration` and `time.Parse` with `time.RFC3339` on the server, `Duration.String`
-- on the client
variable (parseDuration parseTime : String → Except String Int) (durationString : Int → String)

/-- Every positive duration is written as a text that is read back. -/
def ReadBack : Prop :=
  ∀ since : Int, 0 < since → since < int64Bound →
    durationString since ≠ "" ∧ parseDuration (durationString since) = .ok since

theorem since_received (readBack : ReadBack parseDuration durationString) (since : Int)
    (fits : since < int64Bound) :
    sinceOf parseDuration ((if 0 < since then [durationString since] else []).headD "") =
      .ok (if 0 < since then since else defaultSince) := by
  by_cases positive : 0 < since
  · rcases readBack since positive fits with ⟨written, read⟩
    rw [if_pos positive, if_pos positive, List.headD_cons, sinceOf, if_neg written, read]
    exact if_neg (by omega)
  · rw [if_neg positive, if_neg positive]
    rfl

theorem atoi_positive (limit : Int) (positive : 0 < limit) (fits : limit < int64Bound) :
    atoi (toString limit) = some limit := by
  cases limit with
  | negSucc number => omega
  | ofNat number =>
      have runes : (toString (Int.ofNat number)).toList = Nat.toDigits 10 number := Nat.toList_repr
      unfold atoi
      rw [runes]
      split
      · rename_i digits signed
        have sign := digits_clean number '+' (by rw [signed]; exact List.mem_cons_self)
        cases sign
      · exact parse_int64_int _ (by omega) fits

theorem limit_received (limit : Int) (fits : limit < int64Bound) :
    limitOf ((if 0 < limit then [toString limit] else []).headD "") =
      .ok (if 0 < limit then limit else 1000) := by
  by_cases positive : 0 < limit
  · have read := atoi_positive limit positive fits
    have written : toString limit ≠ "" := by
      intro empty
      rw [empty] at read
      cases read
    rw [if_pos positive, if_pos positive, List.headD_cons, limitOf, if_neg written, read]
    simp only
    rw [if_neg (by omega), if_pos positive]
  · rw [if_neg positive, if_neg positive]
    rfl

/-- The server reads the query that the flags mean out of the request. -/
theorem request_received (readBack : ReadBack parseDuration durationString)
    (categoryOverride : String) (flags : EventsFlags) (window : flags.since < int64Bound)
    (limit : flags.limit < int64Bound) :
    parseHistoryQuery parseDuration parseTime
        (addressQuery (historyPath durationString categoryOverride flags)) =
      meantQuery parseTime categoryOverride flags := by
  simp only [parseHistoryQuery, historyPath, path_text, filterValues, path_texts, flagValues,
    texts_set_if, texts_add_all, texts_empty, String.reduceEq, if_false, if_true, false_and,
    true_and, List.nil_append, optional_head,
    since_received parseDuration durationString readBack flags.since window,
    limit_received flags.limit limit, meantQuery]
  rfl

theorem meant_get_flags (categoryOverride : String) (flags : EventsFlags) :
    meantQuery parseTime categoryOverride (getFlags flags) =
      meantQuery parseTime categoryOverride flags := by
  have since : (if 0 < (getFlags flags).since then (getFlags flags).since else defaultSince) =
      if 0 < flags.since then flags.since else defaultSince := by
    by_cases zero : flags.since = 0
    · simp [getFlags, zero, defaultSince]
    · simp [getFlags, zero]
  have limit : (if 0 < (getFlags flags).limit then (getFlags flags).limit else 1000) =
      if 0 < flags.limit then flags.limit else 1000 := by
    by_cases zero : flags.limit = 0
    · simp [getFlags, zero]
    · simp [getFlags, zero]
  simp only [meantQuery, since, limit]
  rfl

/-- No flags ask for the whole stream, or for a query without a limit. -/
theorem meant_bounded (categoryOverride : String) (flags : EventsFlags) (query : Query)
    (meant : meantQuery parseTime categoryOverride flags = .ok query) :
    0 < query.since ∧ 0 < query.limit := by
  unfold meantQuery at meant
  cases untilRead : untilOf parseTime flags.untilText with
  | error why =>
      rw [untilRead] at meant
      cases meant
  | ok untilTime =>
      cases categoryRead : categoryOf (chosenCategory categoryOverride flags) with
      | error why =>
          rw [untilRead, categoryRead] at meant
          cases meant
      | ok category =>
          rw [untilRead, categoryRead] at meant
          cases meant
          constructor
          · dsimp only
            split
            · assumption
            · decide
          · dsimp only
            split
            · assumption
            · decide

/-- Whatever the flags of `events` or of `get` hold, the server runs the query they mean, and
this query always has a window and a limit. -/
theorem flags_reach_server (readBack : ReadBack parseDuration durationString)
    (categoryOverride : String) (flags : EventsFlags) (window : flags.since < int64Bound)
    (limit : flags.limit < int64Bound) :
    parseHistoryQuery parseDuration parseTime
        (addressQuery (historyPath durationString categoryOverride flags)) =
      meantQuery parseTime categoryOverride flags ∧
    parseHistoryQuery parseDuration parseTime
        (addressQuery (historyPath durationString categoryOverride (getFlags flags))) =
      meantQuery parseTime categoryOverride flags ∧
    ∀ query, meantQuery parseTime categoryOverride flags = .ok query →
      0 < query.since ∧ 0 < query.limit := by
  have received := request_received parseDuration parseTime durationString readBack
    categoryOverride
  refine ⟨received flags window limit, ?_, meant_bounded parseTime categoryOverride flags⟩
  rw [received (getFlags flags), meant_get_flags]
  · simp only [getFlags]
    split
    · decide
    · exact window
  · simp only [getFlags]
    split
    · decide
    · exact limit

end Received

/-- A duration in nanoseconds; below a microsecond this is how `Duration.String` writes it. -/
def nanosText (since : Int) : String := toString since ++ "ns"

def parseNanos (text : String) : Except String Int :=
  match parseInt64 (String.ofList text.toList.dropLast.dropLast) with
  | some value => .ok value
  | none => .error ("time: invalid duration " ++ text)

theorem nanos_read_back : ReadBack parseNanos nanosText := by
  intro since positive fits
  have text : (nanosText since).toList = ((toString since).toList ++ ['n']) ++ ['s'] := by
    rw [nanosText, String.toList_append, List.append_assoc]
    rfl
  constructor
  · intro empty
    rw [empty] at text
    simp at text
  · rw [parseNanos, text, List.dropLast_concat, List.dropLast_concat, String.ofList_toList,
      parse_int64_int since (by omega) fits]

/-- Texts with the marks of a query string in them. -/
def markedFlags : EventsFlags where
  since := 0
  untilText := ""
  types := ["a&type=b", " "]
  nodes := ["node 1"]
  limit := 5
  cursor := "é+#"
  category := "audit"

theorem marked_flags_reach_server :
    parseHistoryQuery parseNanos parseNanos
        (addressQuery (historyPath nanosText "event" markedFlags)) =
      .ok ⟨1800000000000, none, some .event, ["a&type=b"], ["node 1"], 5, utf8 "é+#"⟩ :=
  (flags_reach_server parseNanos parseNanos nanosText nanos_read_back "event" markedFlags
    (by decide) (by decide)).1.trans rfl

end PgmanProxy.Pgmctl.HistoryCommands
