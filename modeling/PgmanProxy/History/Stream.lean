import PgmanProxy.Library.GoJson
import PgmanProxy.Library.Subjects

/-!
# The cluster history stream

One JetStream per cluster keeps the records of both categories in publication
order. A record stands under a subject that names its category and type, and a
consumer sees the records whose subject its filter matches, from the place its
deliver policy says. The payload of a record may fail to decode; a record that
decodes has the id its publisher drew, which no other record has.
-/

namespace PgmanProxy.History.Stream

open PgmanProxy.Library.GoJson PgmanProxy.Library.GoStrings PgmanProxy.Library.Subjects

set_option autoImplicit false

inductive Category where
  | event
  | audit
deriving DecidableEq, Repr

def Category.text : Category → String
  | .event => "event"
  | .audit => "audit"

/-- `time` is in nanoseconds; `details` are in the order they are written. -/
structure HistoryEvent where
  apiVersion : String
  kind : String
  id : String
  time : Int
  category : String
  type : String
  clusterID : String
  nodeID : String
  details : List (String × Json)
  traceID : String
  spanID : String

/-! ## Subjects -/

/-- The source goes byte by byte, so a longer rune leaves one underscore per byte. -/
def sanitize (text : String) : String := String.ofList (replaceBytes isNameRune text.toList)

def sanitizeSubjectPart (text : String) : String :=
  String.ofList (replaceBytes (fun rune => isNameRune rune || rune = '.') text.toList)

def subjectPrefix (clusterID : String) : String :=
  "pgman_proxy." ++ sanitize clusterID ++ ".history."

def eventSubject (clusterID : String) (category : Category) (evType : String) : String :=
  subjectPrefix clusterID ++ category.text ++ "." ++ sanitizeSubjectPart evType

def subjectFilterAll (clusterID : String) : String := subjectPrefix clusterID ++ ">"

def subjectFilterCategory (clusterID : String) (category : Category) : String :=
  subjectPrefix clusterID ++ category.text ++ ".>"

/-- No category stands for both. -/
def buildSubjectFilter (clusterID : String) : Option Category → String
  | none => subjectFilterAll clusterID
  | some category => subjectFilterCategory clusterID category

/-! ## Records and consumers -/

/-- A message of the stream; `event` is what its bytes decode to. -/
structure Record where
  category : Category
  evType : String
  storedAt : Int
  event : Option HistoryEvent

def Record.subject (clusterID : String) (record : Record) : String :=
  eventSubject clusterID record.category record.evType

def eventIDs (records : List Record) : List String :=
  records.filterMap (fun record => record.event.map HistoryEvent.id)

/-- What a cluster has published: every id is drawn once and none is empty. -/
structure Log where
  records : List Record
  distinct : (eventIDs records).Nodup
  named : "" ∉ eventIDs records

inductive DeliverPolicy where
  | all
  | byStartTime (start : Int)
  | new
deriving DecidableEq, Repr

/-- The stored records a new consumer starts with. -/
def DeliverPolicy.backlog (records : List Record) : DeliverPolicy → List Record
  | .all => records
  | .byStartTime start => records.dropWhile (fun record => record.storedAt < start)
  | .new => []

/-- Of the stored records a consumer starts with the newest ones, all, some or none. -/
theorem backlog_suffix (policy : DeliverPolicy) (records : List Record) :
    policy.backlog records <:+ records := by
  cases policy with
  | all => exact List.suffix_rfl
  | byStartTime start => exact List.dropWhile_suffix _
  | new => exact List.nil_suffix

/-- Whether a consumer with this category filter sees the record. -/
def seen (clusterID : String) (filter : Option Category) (record : Record) : Bool :=
  Delivers (buildSubjectFilter clusterID filter) (record.subject clusterID)

def admits (filter : Option Category) (category : Category) : Bool :=
  match filter with
  | none => true
  | some wanted => wanted = category

/-! ## The subject filter selects by category -/

theorem sanitize_lacks (text : String) (rune : Char) (other : isNameRune rune = false)
    (mark : rune ≠ '_') : rune ∉ (sanitize text).toList := by
  rw [sanitize, String.toList_ofList]
  exact replaced_lacks text.toList rune other mark

theorem sanitize_tokens (text : String) : tokens (sanitize text) = [sanitize text] :=
  tokens_plain _ (sanitize_lacks text '.' (by decide) (by decide))

theorem sanitize_not_rest (text : String) : sanitize text ≠ ">" :=
  not_rest _ (sanitize_lacks text '>' (by decide) (by decide))

def leadTokens (clusterID : String) : List String :=
  ["pgman_proxy", sanitize clusterID, "history"]

theorem lead_not_rest (clusterID : String) : ∀ token ∈ leadTokens clusterID, token ≠ ">" := by
  simp [leadTokens, sanitize_not_rest]

theorem prefix_tokens (clusterID tail : String) :
    tokens (subjectPrefix clusterID ++ tail) = leadTokens clusterID ++ tokens tail := by
  have regrouped : subjectPrefix clusterID ++ tail =
      "pgman_proxy" ++ "." ++ sanitize clusterID ++ "." ++ "history" ++ "." ++ tail := by
    rw [← String.toList_inj]
    simp [subjectPrefix]
  have first : tokens "pgman_proxy" = ["pgman_proxy"] := by decide
  have third : tokens "history" = ["history"] := by decide
  rw [regrouped, tokens_dot, tokens_dot, tokens_dot, first, third, sanitize_tokens]
  rfl

theorem category_tokens (category : Category) : tokens category.text = [category.text] := by
  cases category <;> decide

theorem category_text_injective (left right : Category) (same : left.text = right.text) :
    left = right := by
  cases left <;> cases right <;> first | rfl | exact absurd same (by decide)

theorem category_text_literal (category : Category) :
    category.text ≠ ">" ∧ category.text ≠ "*" := by
  cases category <;> decide

theorem event_subject_tokens (clusterID : String) (category : Category) (evType : String) :
    tokens (eventSubject clusterID category evType) =
      leadTokens clusterID ++ category.text :: tokens (sanitizeSubjectPart evType) := by
  unfold eventSubject
  rw [String.append_assoc, String.append_assoc, prefix_tokens, ← String.append_assoc, tokens_dot,
    category_tokens]
  rfl

/-- A consumer sees exactly the records of the category it asks for. -/
theorem seen_iff_admits (clusterID : String) (filter : Option Category) (record : Record) :
    seen clusterID filter record = admits filter record.category := by
  have rest : tokens ">" = [">"] := by decide
  obtain ⟨first, others, parts⟩ := tokens_nonempty (sanitizeSubjectPart record.evType)
  unfold seen Delivers Record.subject
  rw [event_subject_tokens]
  cases filter with
  | none =>
      simp only [buildSubjectFilter, subjectFilterAll, admits]
      rw [prefix_tokens, match_lead _ _ _ (lead_not_rest clusterID), rest, match_rest]
  | some wanted =>
      have same : (wanted.text = record.category.text) ↔ wanted = record.category :=
        ⟨category_text_injective wanted record.category, congrArg Category.text⟩
      obtain ⟨single, literal⟩ := category_text_literal wanted
      have split : tokens (wanted.text ++ ".>") = [wanted.text, ">"] := by
        cases wanted <;> decide
      simp only [buildSubjectFilter, subjectFilterCategory, admits]
      rw [String.append_assoc, prefix_tokens, match_lead _ _ _ (lead_not_rest clusterID), split,
        match_literal _ _ _ _ single literal, parts, match_rest]
      simp [same]

end PgmanProxy.History.Stream
