import Courtship.Json.Records

/-! The bodies of requests and responses. Requests are written in camel case, and read in snake
case as well. -/

namespace Courtship.Http

/-! ## Requests -/

structure SwipeBody where
  user : UserId
  target : UserId
  direction : Direction
  deriving DecidableEq

structure UndoBody where
  user : UserId
  deriving DecidableEq

structure ProposalBody where
  sender : UserId
  recipient : UserId
  message : String
  deriving DecidableEq

structure AnswerBody where
  responder : UserId
  accept : Bool
  deriving DecidableEq

/-- One user acts on the relationship with another. -/
structure ActionBody where
  user : UserId
  target : UserId
  deriving DecidableEq

def ActionBody.arrow (b : ActionBody) : Arrow := ⟨b.user, b.target⟩

/-- A message has 1 to 500 characters, those at its ends included. -/
def ProposalBody.isValid (b : ProposalBody) : Bool :=
  1 ≤ b.message.length && b.message.length ≤ 500

def userNames : List String := ["userId", "user_id"]

def targetNames : List String := ["targetUserId", "target_user_id"]

instance : JsonForm SwipeBody where
  toJson b := .object
    [("userId", toJson b.user), ("targetUserId", toJson b.target),
      ("direction", toJson b.direction)]
  ofJson? j := do
    match ← j.slots? [userNames, targetNames, ["direction"]] with
    | [user, target, direction] =>
      some ⟨← user.required, ← target.required, ← direction.required⟩
    | _ => none

instance : JsonForm UndoBody where
  toJson b := .object [("userId", toJson b.user)]
  ofJson? j := do
    match ← j.slots? [userNames] with
    | [user] => some ⟨← user.required⟩
    | _ => none

instance : JsonForm ProposalBody where
  toJson b := .object
    [("fromUserId", toJson b.sender), ("toUserId", toJson b.recipient),
      ("message", toJson b.message)]
  ofJson? j := do
    match ← j.slots? [["fromUserId", "from_user_id"], ["toUserId", "to_user_id"],
      ["message"]] with
    | [sender, recipient, message] =>
      some ⟨← sender.required, ← recipient.required, ← message.required⟩
    | _ => none

instance : JsonForm AnswerBody where
  toJson b := .object [("responderId", toJson b.responder), ("accept", toJson b.accept)]
  ofJson? j := do
    match ← j.slots? [["responderId", "responder_id"], ["accept"]] with
    | [responder, accept] => some ⟨← responder.required, ← accept.required⟩
    | _ => none

instance : JsonForm ActionBody where
  toJson b := .object [("userId", toJson b.user), ("targetUserId", toJson b.target)]
  ofJson? j := do
    match ← j.slots? [userNames, targetNames] with
    | [user, target] => some ⟨← user.required, ← target.required⟩
    | _ => none

/-! ## Responses -/

structure MatchesBody where
  found : List Match
  total : UInt64
  deriving DecidableEq

structure RequestsBody where
  requests : List FriendRequest
  deriving DecidableEq

structure NotificationsBody where
  notifications : List Notification
  unread : UInt64
  deriving DecidableEq

structure BlocksBody where
  blocks : List Block
  deriving DecidableEq

structure RelationshipBody where
  success : Bool
  matchOf : Option Match
  deriving DecidableEq

structure UnblockBody where
  /-- Whether there was a block to lift. -/
  unblocked : Bool
  deriving DecidableEq

structure ErrorBody where
  error : String
  message : String
  statusCode : UInt16
  deriving DecidableEq

structure HealthBody where
  status : String
  version : String
  storage : String
  timestamp : Instant
  deriving DecidableEq

def MatchesBody.of (found : List Match) : MatchesBody := ⟨found, .ofNat found.length⟩

def NotificationsBody.of (ns : List Notification) : NotificationsBody :=
  ⟨ns, .ofNat (ns.countP fun n => n.readAt.isNone)⟩

instance : JsonForm MatchesBody where
  toJson b := .object [("matches", toJson b.found), ("total", toJson b.total)]
  ofJson? j := do
    match ← j.slots? [["matches"], ["total"]] with
    | [found, total] => some ⟨← found.required, ← total.required⟩
    | _ => none

instance : JsonForm RequestsBody where
  toJson b := .object [("requests", toJson b.requests)]
  ofJson? j := do
    match ← j.slots? [["requests"]] with
    | [requests] => some ⟨← requests.required⟩
    | _ => none

instance : JsonForm NotificationsBody where
  toJson b := .object [("notifications", toJson b.notifications), ("unread", toJson b.unread)]
  ofJson? j := do
    match ← j.slots? [["notifications"], ["unread"]] with
    | [notifications, unread] => some ⟨← notifications.required, ← unread.required⟩
    | _ => none

instance : JsonForm BlocksBody where
  toJson b := .object [("blocks", toJson b.blocks)]
  ofJson? j := do
    match ← j.slots? [["blocks"]] with
    | [blocks] => some ⟨← blocks.required⟩
    | _ => none

instance : JsonForm RelationshipBody where
  toJson b := .object [("success", toJson b.success), ("match", optionJson b.matchOf)]
  ofJson? j := do
    match ← j.slots? [["success"], ["match"]] with
    | [success, matchOf] => some ⟨← success.required, ← matchOf.optional⟩
    | _ => none

instance : JsonForm UnblockBody where
  toJson b := .object [("unblocked", toJson b.unblocked)]
  ofJson? j := do
    match ← j.slots? [["unblocked"]] with
    | [unblocked] => some ⟨← unblocked.required⟩
    | _ => none

instance : JsonForm ErrorBody where
  toJson b := .object
    [("error", toJson b.error), ("message", toJson b.message),
      ("status_code", toJson b.statusCode)]
  ofJson? j := do
    match ← j.slots? [["error"], ["message"], ["status_code"]] with
    | [error, message, statusCode] =>
      some ⟨← error.required, ← message.required, ← statusCode.required⟩
    | _ => none

instance : JsonForm HealthBody where
  toJson b := .object
    [("status", toJson b.status), ("version", toJson b.version), ("storage", toJson b.storage),
      ("timestamp", toJson b.timestamp)]
  ofJson? j := do
    match ← j.slots? [["status"], ["version"], ["storage"], ["timestamp"]] with
    | [status, version, storage, timestamp] =>
      some ⟨← status.required, ← version.required, ← storage.required, ← timestamp.required⟩
    | _ => none

end Courtship.Http
