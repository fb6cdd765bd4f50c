import PgmanProxy.Library.Subjects
import PgmanProxy.Fanout.Client

/-!
# The fan-out responder of a peer

`Serve` subscribes a peer, for every slice it has a handler for, to the peer's own
subject and to the subject with a wildcard in the target's place. `handle` answers
one request; whatever happens, its reply names the peer that answers.
-/

namespace PgmanProxy.Fanout.Responder

open PgmanProxy.Library.GoStrings PgmanProxy.Library.Subjects PgmanProxy.Fanout.Client

set_option autoImplicit false

/-! ## Subjects -/

inductive Slice where
  | status
  | config
  | natsMesh
  | doctor
deriving DecidableEq, Repr

def Slice.text : Slice → String
  | .status => "status"
  | .config => "config"
  | .natsMesh => "nats_mesh"
  | .doctor => "doctor"

/-- The source goes byte by byte, so a longer rune leaves one underscore per byte. -/
def sanitize (text : String) : String :=
  if text = "*" then "*"
  else
    let out := replaceBytes isNameRune text.toList
    if out = [] then "_" else String.ofList out

def subjectPrefix (clusterID : String) : String :=
  "pgman_proxy." ++ sanitize clusterID ++ ".fanout."

def requestSubject (clusterID : String) (slice : Slice) (target : String) : String :=
  subjectPrefix clusterID ++ slice.text ++ "." ++ sanitize target

def responderUnicast (clusterID : String) (slice : Slice) (selfNodeID : String) : String :=
  subjectPrefix clusterID ++ slice.text ++ "." ++ sanitize selfNodeID

def responderWildcard (clusterID : String) (slice : Slice) : String :=
  subjectPrefix clusterID ++ slice.text ++ ".*"

/-! ## Subscribing -/

structure Subscription where
  subject : String
  slice : Slice
deriving DecidableEq, Repr

/-- `handlers` lists the registered slices; the flag is false for a nil handler. -/
structure Server where
  connected : Bool
  clusterID : String
  selfNodeID : String
  handlers : List (Slice × Bool)
  subs : List Subscription
  closed : Bool
deriving DecidableEq, Repr

def register (server : Server) (slice : Slice) (handler : Bool) : Server :=
  { server with
    handlers := server.handlers.filter (fun entry => entry.1 ≠ slice) ++ [(slice, handler)] }

/-- The subscriptions `Serve` asks for, in the order of its two loops. -/
def wantedSubs (server : Server) : List Subscription :=
  server.handlers.flatMap (fun entry =>
    [⟨responderUnicast server.clusterID entry.1 server.selfNodeID, entry.1⟩,
      ⟨responderWildcard server.clusterID entry.1, entry.1⟩])

/-- `refuses` is the error NATS gives for a subject. What was subscribed before a
failure stays subscribed. -/
def subscribeAll (refuses : String → Option String) :
    List Subscription → List Subscription → List Subscription × Except String Unit
  | [], subs => (subs, .ok ())
  | wanted :: rest, subs =>
      match refuses wanted.subject with
      | some why => (subs, .error ("subscribe " ++ wanted.subject ++ ": " ++ why))
      | none => subscribeAll refuses rest (subs ++ [wanted])

def serve (refuses : String → Option String) (server : Server) : Server × Except String Unit :=
  if !server.connected then (server, .error "fanout: nil NATS connection")
  else if server.clusterID = "" || server.selfNodeID = "" then
    (server, .error "fanout: empty clusterID or selfNodeID")
  else if server.closed then (server, .error "fanout: server is closed")
  else if server.subs ≠ [] then (server, .ok ())
  else
    let (subs, result) := subscribeAll refuses (wantedSubs server) []
    ({ server with subs := subs }, result)

/-! ## Answering -/

structure Request (Args : Type) where
  version : Int
  requestID : String
  operatorActor : String
  traceID : String
  deadlineMS : Int
  slice : String
  args : Option Args
deriving DecidableEq, Repr

/-- The bytes of a request: one that decodes, or the request id as far as it was read
and the decoder's error. -/
inductive Incoming (Args : Type) where
  | malformed (requestID why : String)
  | request (request : Request Args)

/-- How a handler ends; `unencodable` is a value `json.Marshal` rejects. -/
inductive Outcome (Data : Type) where
  | returns (data : Option Data)
  | unencodable
  | fails (why : String) (deadlineExceeded : Bool)
deriving DecidableEq, Repr

def codeDeadlineExceeded : String := "deadline_exceeded"
def codeSliceInternal : String := "slice_internal"

/-- The first `room` bytes; a rune cut in two shows as replacement runes once encoded. -/
def firstBytes : Nat → List Char → List Char
  | _, [] => []
  | room, rune :: runes =>
      if rune.utf8Size ≤ room then rune :: firstBytes (room - rune.utf8Size) runes
      else List.replicate room '�'

def trim (text : String) (limit : Nat) : String :=
  if text.utf8ByteSize ≤ limit then text
  else String.ofList (firstBytes limit text.toList) ++ "…"

variable {Args Data : Type}

def failedReply (nodeID requestID : String) (now : Nat) (code message : String) :
    Arrival Data :=
  .reply ⟨1, requestID, nodeID, .statusFailed, none, some ⟨code, message⟩, now⟩

/-- `outcome` is what the handler does with this request, `now` the time of the reply. -/
def handle (server : Server) (slice : Slice) (incoming : Incoming Args) (outcome : Outcome Data)
    (now : Nat) : Arrival Data :=
  match incoming with
  | .malformed requestID why =>
      failedReply server.selfNodeID requestID now codeSliceInternal
        ("malformed request: " ++ trim why 256)
  | .request request =>
      if request.version ≠ 1 then
        failedReply server.selfNodeID request.requestID now codeSliceInternal
          ("unsupported version " ++ toString request.version)
      else if (slice, true) ∉ server.handlers then
        failedReply server.selfNodeID request.requestID now codeSliceInternal
          ("no handler for slice " ++ slice.text)
      else
        match outcome with
        | .fails why deadlineExceeded =>
            failedReply server.selfNodeID request.requestID now
              (if deadlineExceeded then codeDeadlineExceeded else codeSliceInternal) (trim why 512)
        -- the error of json.Marshal is dropped and the reply goes out empty
        | .unencodable => .malformed
        | .returns data =>
            .reply ⟨1, request.requestID, server.selfNodeID, .statusOK, data, none, now⟩

/-- Every reply that decodes carries the id of the peer that sent it. -/
theorem handle_node (server : Server) (slice : Slice) (incoming : Incoming Args)
    (outcome : Outcome Data) (now : Nat) (reply : Reply Data)
    (answered : handle server slice incoming outcome now = .reply reply) :
    reply.nodeID = server.selfNodeID := by
  have failed : ∀ requestID code message,
      (failedReply server.selfNodeID requestID now code message : Arrival Data) = .reply reply →
        reply.nodeID = server.selfNodeID := by
    intro requestID code message same
    cases same
    rfl
  unfold handle at answered
  split at answered
  · exact failed _ _ _ answered
  · split at answered
    · exact failed _ _ _ answered
    · split at answered
      · exact failed _ _ _ answered
      · split at answered
        · exact failed _ _ _ answered
        · cases answered
        · cases answered
          rfl

end PgmanProxy.Fanout.Responder
