import Courtship.Error
import Courtship.Http.Body
import Courtship.Http.Endpoint
import Courtship.Http.MediaType
import Courtship.Json.Reader
import Courtship.Service

/-! An exchange of a request for a response: the request is refused, or stands for one command or
question, whose result is the response. -/

namespace Courtship

namespace Http

structure Request where
  method : String
  path : String
  contentType : Option String
  body : String

structure Response where
  status : Nat
  body : Option Json

/-! ## Decoding -/

inductive Action where
  | health
  | command (c : Command)
  | question (q : Question)

/-- Why a request stands for nothing. -/
inductive Refusal where
  | notFound
  | invalidPath
  | invalidJson
  | invalidMessage
  deriving DecidableEq

/-- Two mebibytes. -/
def largestBody : Nat := 2097152

def Request.decodeBody (α : Type) [JsonForm α] (r : Request) : Except Refusal α :=
  if !(r.contentType.any isJson) || largestBody < r.body.utf8ByteSize then .error .invalidJson
  else
    match (Json.ofText? r.body).bind ofJson? with
    | some body => .ok body
    | none => .error .invalidJson

def decodeId (id : String) : Except Refusal Uuid :=
  match Uuid.ofText? id with
  | some uuid => .ok uuid
  | none => .error .invalidPath

def decodeUser (id : String) : Except Refusal UserId := (decodeId id).map UserId.mk

/-- The identifier in the path is checked before the body, and the body before its message. -/
def Request.actionAt (r : Request) : Endpoint → Except Refusal Action
  | .health => .ok .health
  | .swipe => do
    let b ← r.decodeBody SwipeBody
    .ok (.command (.swipe ⟨b.user, b.target⟩ b.direction))
  | .undo => do .ok (.command (.undoLastSwipe (← r.decodeBody UndoBody).user))
  | .matchesOf id => do .ok (.question (.matchesFor (← decodeUser id)))
  | .propose => do
    let b ← r.decodeBody ProposalBody
    if b.isValid then .ok (.command (.propose ⟨b.sender, b.recipient⟩ b.message))
    else .error .invalidMessage
  | .respond id => do
    let request ← decodeId id
    let b ← r.decodeBody AnswerBody
    .ok (.command (.respond request b.responder b.accept))
  | .pendingFor id => do .ok (.question (.pendingRequestsFor (← decodeUser id)))
  | .notificationsFor id => do .ok (.question (.notificationsFor (← decodeUser id)))
  | .gracefulExit => do .ok (.command (.gracefulExit (← r.decodeBody ActionBody).arrow))
  | .unmatch => do .ok (.command (.unmatch (← r.decodeBody ActionBody).arrow))
  | .block => do .ok (.command (.block (← r.decodeBody ActionBody).arrow))
  | .unblock => do .ok (.command (.unblock (← r.decodeBody ActionBody).arrow))
  | .blocksOf id => do .ok (.question (.blockedBy (← decodeUser id)))

def Request.action (r : Request) : Except Refusal Action :=
  match Endpoint.of? r.method r.path with
  | none => .error .notFound
  | some e => r.actionAt e

/-! ## Responses -/

/-- A code that is no status of three digits is answered as 400. -/
def ErrorBody.status (b : ErrorBody) : Nat :=
  if 100 ≤ b.statusCode.toNat ∧ b.statusCode.toNat ≤ 999 then b.statusCode.toNat else 400

def ErrorBody.text (b : ErrorBody) : String := s!"{b.error}: {b.message}"

def Response.ofError (b : ErrorBody) : Response := ⟨b.status, some (toJson b)⟩

def Refusal.response : Refusal → Response
  | notFound => ⟨404, none⟩
  | invalidPath => .ofError ⟨"invalid_path", "Invalid path parameter: not a UUID", 400⟩
  | invalidJson => .ofError ⟨"invalid_json", "Invalid JSON: not a valid request body", 400⟩
  | invalidMessage => .ofError ⟨"validation_failed", "message: Validation error: length", 400⟩

def Response.ofEngineError (e : EngineError) : Response :=
  .ofError ⟨e.code, e.message, .ofNat e.status⟩

/-- No response where a time went out of range. -/
def Response.ofResult {α : Type} (write : α → Response) :
    Except (Failure EngineError) α → Option Response
  | .ok a => some (write a)
  | .error (.error e) => some (.ofEngineError e)
  | .error .overflow => none

def ok (body : Json) : Response := ⟨200, some body⟩

/-- What a command that succeeded answers. -/
def commandResponse : (c : Command) → c.Answer → Response
  | .swipe .., r => ok r.toJson
  | .undoLastSwipe _, r => ok r.toJson
  | .propose .., r => ⟨201, some (toJson r)⟩
  | .respond .., r => ok (toJson r)
  | .gracefulExit _, m => ok (toJson (RelationshipBody.mk true (some m)))
  | .unmatch _, m => ok (toJson (RelationshipBody.mk true (some m)))
  | .block _, m => ok (toJson (RelationshipBody.mk true m))
  | .unblock _, lifted => ok (toJson (UnblockBody.mk lifted))

def questionResponse : (q : Question) → q.Answer → Response
  | .matchesFor _, found => ok (toJson (MatchesBody.of found))
  | .blockedBy _, blocks => ok (toJson (BlocksBody.mk blocks))
  | .pendingRequestsFor _, requests => ok (toJson (RequestsBody.mk requests))
  | .notificationsFor _, notifications => ok (toJson (NotificationsBody.of notifications))
  | .conversation .., c => ok (optionJson c)
  | .canMessage _, allowed => ok (.bool allowed)

def version : String := "0.1.0"

/-- A storage that cannot be asked counts as not healthy. -/
def healthResponse (name : String) (healthy : Except StorageError Bool) (now : Instant) :
    Response :=
  let status := match healthy with
    | .ok true => "healthy"
    | _ => "degraded"
  ok (toJson (HealthBody.mk status version name now))

end Http

/-! ## Exchanges -/

namespace Service

variable {σ υ : Type} [Storage σ υ]

def act (s : Service σ) : Http.Action → Option Http.Response × Service σ
  | .health =>
    let (healthy, store) := Storage.checkHealth s.store
    (some (Http.healthResponse (Storage.name s.store) healthy s.clock), { s with store := store })
  | .command c =>
    let (result, s) := s.command c
    (Http.Response.ofResult (Http.commandResponse c) result, s)
  | .question q =>
    let (result, s) := s.ask q
    (Http.Response.ofResult (Http.questionResponse q) result, s)

/-- A refused request changes nothing. -/
def exchange (s : Service σ) (r : Http.Request) : Option Http.Response × Service σ :=
  match r.action with
  | .error refusal => (some refusal.response, s)
  | .ok action => s.act action

end Service

end Courtship
