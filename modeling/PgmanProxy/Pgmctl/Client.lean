import PgmanProxy.Control.Wire

/-!
# The pgmctl HTTP client's reading of a response

`do` after the exchange has taken place: which responses are reported as a
success and which error the others become. A body is taken as a whole; of one over 16 MiB
the client reads the beginning, which is no JSON document.
-/

namespace PgmanProxy.Pgmctl.Client

open PgmanProxy.Library.GoJson PgmanProxy.Control.Wire

set_option autoImplicit false

structure ErrorPayload where
  code : String
  message : String
deriving DecidableEq, Repr

structure ClientEnvelope where
  operation : String
  requestID : String
  outcome : String
  engineResult : Option Json
  error : Option ErrorPayload

def errorPayloadShape : Shape ErrorPayload where
  name := "ErrorPayload"
  goType := "client.ErrorPayload"
  fields :=
    [stringField "code" "string" (fun value body => { body with code := value }),
     stringField "message" "string" (fun value body => { body with message := value })]
  zero := ⟨"", ""⟩

/-- A `*ErrorPayload` field: `null` clears it, an object fills a fresh value. -/
def storeError (value : Json) (target : ClientEnvelope) : Except Mismatch ClientEnvelope :=
  match value with
  | .null => .ok { target with error := none }
  | other =>
      match decodeValue false errorPayloadShape other with
      | .ok payload => .ok { target with error := some payload }
      | .error failure => .error failure.mismatch

def envelopeShape : Shape ClientEnvelope where
  name := "Envelope"
  goType := "client.Envelope"
  fields :=
    [stringField "operation" "string" (fun value body => { body with operation := value }),
     stringField "request_id" "string" (fun value body => { body with requestID := value }),
     stringField "outcome" "string" (fun value body => { body with outcome := value }),
     ⟨"engine_result", fun value body => .ok { body with engineResult := some value }⟩,
     ⟨"error", storeError⟩]
  zero := ⟨"", "", "", none, none⟩

structure APIError where
  httpStatus : Nat
  code : String
  message : String
  operation : String
  requestID : String
deriving DecidableEq, Repr

def APIError.text (failure : APIError) : String :=
  "pgman-proxy " ++ failure.code ++ ": " ++ failure.message ++ " (HTTP " ++
    toString failure.httpStatus ++ ", request_id=" ++ failure.requestID ++ ")"

inductive ClientError where
  | api (failure : APIError)
  | emptyResponse (status : Nat)
  | decode (status : Nat) (failure : DecodeError)

def ClientError.text (url : String) : ClientError → String
  | .api failure => failure.text
  | .emptyResponse status =>
      "empty response from " ++ url ++ " (HTTP " ++ toString status ++ ")"
  | .decode status failure =>
      "decode envelope (HTTP " ++ toString status ++ "): " ++ failure.text

/-- The `APIError` of an answer whose outcome is not `accepted`. -/
def refused (status : Nat) (envelope : ClientEnvelope) : APIError :=
  match envelope.error with
  | some payload =>
      ⟨status, payload.code, payload.message, envelope.operation, envelope.requestID⟩
  | none =>
      ⟨status, "non_accepted_outcome", "outcome=" ++ envelope.outcome, envelope.operation,
        envelope.requestID⟩

def unauthorized (status : Nat) (body : Option Json) : APIError :=
  let decoded := match body with
    | some json => decodeValue false envelopeShape json
    | none => .error (.invalidSyntax "unexpected end of JSON input")
  match decoded with
  | .ok envelope =>
      match envelope.error with
      | some payload =>
          ⟨status, payload.code, payload.message, envelope.operation, envelope.requestID⟩
      | none =>
          ⟨status, "auth_invalid", "authentication failed", envelope.operation,
            envelope.requestID⟩
  | .error _ => ⟨status, "auth_invalid", "authentication failed", "", ""⟩

/-- `do` on a response: `body` is `none` when the server wrote no bytes. -/
def readResponse (status : Nat) (body : Option Json) : Except ClientError ClientEnvelope :=
  if status = 401 || status = 403 then .error (.api (unauthorized status body))
  else
    match body with
    | none => .error (.emptyResponse status)
    | some json =>
        match decodeValue false envelopeShape json with
        | .error failure => .error (.decode status failure)
        | .ok envelope =>
            if envelope.outcome ≠ "accepted" then .error (.api (refused status envelope))
            else .ok envelope

def reportsSuccess (status : Nat) (body : Option Json) : Bool :=
  match readResponse status body with
  | .ok _ => true
  | .error _ => false

/-- The client reads back the outcome, the engine's result and the error the server wrote. -/
theorem decode_envelope (envelope : Envelope) (json : Json)
    (encoded : envelope.toJson = some json) :
    ∃ read, decodeValue false envelopeShape json = .ok read ∧
      read.outcome = envelope.outcome.text ∧
      read.engineResult = envelope.engineResult.bind EngineResult.marshal ∧
      read.error = envelope.error.map (fun failure => ⟨failure.code.text, failure.message⟩) := by
  obtain ⟨operation, requestID, outcome, engineResult, error⟩ := envelope
  unfold Envelope.toJson at encoded
  cases engineResult with
  | none =>
      simp only [Option.some.injEq] at encoded
      subst encoded
      cases error with
      | none => exact ⟨_, rfl, rfl, rfl, rfl⟩
      | some failure => exact ⟨_, rfl, rfl, rfl, rfl⟩
  | some result =>
      cases marshalled : result.marshal with
      | none => simp [marshalled] at encoded
      | some value =>
          simp only [marshalled, Option.some.injEq] at encoded
          subst encoded
          cases error with
          | none => exact ⟨_, rfl, rfl, marshalled.symm, rfl⟩
          | some failure => exact ⟨_, rfl, rfl, marshalled.symm, rfl⟩

theorem outcome_text_accepted_iff (outcome : Outcome) :
    outcome.text = "accepted" ↔ outcome = .accepted := by
  cases outcome <;> decide

/-- So it returns the result of an envelope that was accepted without an error. -/
theorem accepted_read (envelope : Envelope) (json : Json)
    (encoded : envelope.toJson = some json) (accepted : envelope.outcome = .accepted)
    (clean : envelope.error = none) :
    ∃ read, readResponse envelope.status envelope.toJson = .ok read ∧
      read.engineResult = envelope.engineResult.bind EngineResult.marshal := by
  obtain ⟨read, decoded, outcome, result, _⟩ := decode_envelope envelope json encoded
  have status : envelope.status = 200 := by simp only [Envelope.status, clean]
  have said : read.outcome = "accepted" := by rw [outcome, accepted]; rfl
  exact ⟨read, by simp [readResponse, status, encoded, decoded, said], result⟩

theorem reports_success_iff (envelope : Envelope) (json : Json)
    (encoded : envelope.toJson = some json) :
    reportsSuccess envelope.status (some json) = true ↔
      envelope.outcome = .accepted ∧ envelope.status ≠ 401 ∧ envelope.status ≠ 403 := by
  obtain ⟨read, decoded, outcome, _⟩ := decode_envelope envelope json encoded
  rw [← outcome_text_accepted_iff, ← outcome]
  by_cases unauthorized : envelope.status = 401 ∨ envelope.status = 403
  · rcases unauthorized with status | status <;> simp [reportsSuccess, readResponse, status]
  · obtain ⟨notRequired, notInvalid⟩ := not_or.1 unauthorized
    by_cases accepted : read.outcome = "accepted"
    · simp [reportsSuccess, readResponse, notRequired, notInvalid, decoded, accepted]
    · simp [reportsSuccess, readResponse, notRequired, notInvalid, decoded, accepted]

end PgmanProxy.Pgmctl.Client
