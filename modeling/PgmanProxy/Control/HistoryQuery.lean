import PgmanProxy.History.Queries

/-!
# The history endpoint

`GET /v1/history` turns its query string into a `history.Query`, with defaults for what
is missing, and runs it.
-/

namespace PgmanProxy.Control.HistoryQuery

open PgmanProxy.History.Queries PgmanProxy.History.Stream
open PgmanProxy.Library.GoBytes (utf8)
open PgmanProxy.Library.GoJson PgmanProxy.Library.GoStrings

set_option autoImplicit false

/-- `Values.Get` -/
def get (values : List (String × String)) (key : String) : String :=
  (values.lookup key).getD ""

def getAll (values : List (String × String)) (key : String) : List String :=
  (values.filter (fun value => value.1 = key)).map Prod.snd

/-- `strconv.Atoi` -/
def atoi (text : String) : Option Int :=
  match text.toList with
  | '+' :: digits =>
      match digitsValue digits with
      | some value => if value < int64Bound then some (value : Int) else none
      | none => none
  | _ => parseInt64 text

/-- The values of a repeated filter, trimmed, without the blank ones. -/
def filterValues (values : List (String × String)) (key : String) : List String :=
  ((getAll values key).map trimSpace).filter (fun value => value ≠ "")

/-- `30 * time.Minute` -/
def defaultSince : Int := 1800000000000

section Endpoint

-- `time.ParseDuration`, and `time.Parse` with `time.RFC3339`
variable (parseDuration parseTime : String → Except String Int)

def sinceOf (text : String) : Except String Int :=
  if text = "" then .ok defaultSince
  else
    match parseDuration text with
    | .error why => .error ("invalid since: " ++ why)
    | .ok since => if since < 0 then .error "since must be non-negative" else .ok since

def untilOf (text : String) : Except String (Option Int) :=
  if text = "" then .ok none
  else
    match parseTime text with
    | .error why => .error ("invalid until: " ++ why)
    | .ok time => .ok (some time)

def categoryOf (text : String) : Except String (Option Category) :=
  if text = "" then .ok none
  else if text = "event" then .ok (some .event)
  else if text = "audit" then .ok (some .audit)
  else .error ("invalid category " ++ text ++ " (want event|audit)")

def limitOf (text : String) : Except String Int :=
  if text = "" then .ok 1000
  else
    match atoi text with
    | none => .error "invalid limit: must be a non-negative integer"
    | some limit =>
        if limit < 0 then .error "invalid limit: must be a non-negative integer"
        else if 0 < limit then .ok limit
        else .ok 1000

/-- `parseHistoryQuery`; every refusal has the code `invalid_argument`. -/
def parseHistoryQuery (values : List (String × String)) : Except String Query := do
  let since ← sinceOf parseDuration (get values "since")
  let untilTime ← untilOf parseTime (get values "until")
  let category ← categoryOf (get values "category")
  let limit ← limitOf (get values "limit")
  return {
    since := since
    untilTime := untilTime
    category := category
    types := filterValues values "type"
    nodes := filterValues values "node"
    limit := limit
    cursor := utf8 (get values "cursor") }

/-- `handleHistoryQuery`; `querier` is absent while no history stream is wired. -/
def handleHistoryQuery (querier : Option (Query → Except String Result))
    (values : List (String × String)) : Except String Result :=
  match querier with
  | none => .ok ⟨"pgman-proxy/v1", "HistoryQueryResult", [], [], false⟩
  | some querier =>
      match parseHistoryQuery parseDuration parseTime values with
      | .error why => .error why
      | .ok query => querier query

end Endpoint

end PgmanProxy.Control.HistoryQuery
