import Courtship.Conversation
import Courtship.FriendRequest
import Courtship.Json.Form
import Courtship.Notification
import Courtship.Operation.Swiping
import Courtship.Swipe
import Courtship.Time.Text

/-! The JSON forms of identifiers, times and the records of the service. -/

namespace Courtship

/-! ## Identifiers and times -/

instance : JsonForm Uuid where
  toJson u := .string u.text
  ofJson?
    | .string s => Uuid.ofText? s
    | _ => none

instance : JsonForm UserId where
  toJson u := toJson u.uuid
  ofJson? j := (ofJson? j).map UserId.mk

instance : JsonForm PairId where
  toJson p := .string p.text
  ofJson? j := (ofJson? j).map PairId.mk

instance : JsonForm Instant where
  toJson t := .string t.text
  ofJson?
    | .string s => Instant.ofText? s
    | _ => none

/-! ## Enumerations -/

instance : JsonForm Direction where
  toJson d := .string d.name
  ofJson? := namedOfJson? Direction.all Direction.name

instance : JsonForm MatchState where
  toJson s := .string s.name
  ofJson? := namedOfJson? MatchState.all MatchState.name

instance : JsonForm ArchiveReason where
  toJson r := .string r.name
  ofJson? := namedOfJson? ArchiveReason.all ArchiveReason.name

instance : JsonForm FriendRequestStatus where
  toJson s := .string s.name
  ofJson? := namedOfJson? FriendRequestStatus.all FriendRequestStatus.name

instance : JsonForm NotificationType where
  toJson t := .string t.name
  ofJson? := namedOfJson? NotificationType.all NotificationType.name

/-! ## Records -/

instance : JsonForm Like where
  toJson l := .object
    [("id", toJson l.id), ("from_user", toJson l.fromUser), ("to_user", toJson l.toUser),
      ("direction", toJson l.direction), ("created_at", toJson l.createdAt),
      ("deleted_at", optionJson l.deletedAt)]
  ofJson? j := do
    match ← j.slots? [["id"], ["from_user"], ["to_user"], ["direction"], ["created_at"],
      ["deleted_at"]] with
    | [id, fromUser, toUser, direction, createdAt, deletedAt] =>
      some ⟨← id.required, ← fromUser.required, ← toUser.required, ← direction.required,
        ← createdAt.required, ← deletedAt.optional⟩
    | _ => none

instance : JsonForm Match where
  toJson m := .object
    [("id", toJson m.id), ("user_a", toJson m.userA), ("user_b", toJson m.userB),
      ("state", toJson m.state), ("end_reason", optionJson m.endReason),
      ("ended_by", optionJson m.endedBy), ("created_at", toJson m.createdAt),
      ("state_changed_at", toJson m.stateChangedAt)]
  ofJson? j := do
    match ← j.slots? [["id"], ["user_a"], ["user_b"], ["state"], ["end_reason"], ["ended_by"],
      ["created_at"], ["state_changed_at"]] with
    | [id, userA, userB, state, endReason, endedBy, createdAt, stateChangedAt] =>
      some ⟨← id.required, ← userA.required, ← userB.required, ← state.required,
        ← endReason.optional, ← endedBy.optional, ← createdAt.required,
        ← stateChangedAt.required⟩
    | _ => none

instance : JsonForm FriendRequest where
  toJson r := .object
    [("id", toJson r.id), ("match_id", toJson r.matchId), ("from_user", toJson r.fromUser),
      ("to_user", toJson r.toUser), ("message", toJson r.message), ("status", toJson r.status),
      ("created_at", toJson r.createdAt), ("responded_at", optionJson r.respondedAt)]
  ofJson? j := do
    match ← j.slots? [["id"], ["match_id"], ["from_user"], ["to_user"], ["message"], ["status"],
      ["created_at"], ["responded_at"]] with
    | [id, matchId, fromUser, toUser, message, status, createdAt, respondedAt] =>
      some ⟨← id.required, ← matchId.required, ← fromUser.required, ← toUser.required,
        ← message.required, ← status.required, ← createdAt.required, ← respondedAt.optional⟩
    | _ => none

instance : JsonForm Conversation where
  toJson c := .object
    [("id", toJson c.id), ("user_a", toJson c.userA), ("user_b", toJson c.userB),
      ("created_at", toJson c.createdAt), ("archived_at", optionJson c.archivedAt),
      ("archive_reason", optionJson c.archiveReason),
      ("accessible_to_user_a", toJson c.accessibleToA),
      ("accessible_to_user_b", toJson c.accessibleToB)]
  ofJson? j := do
    match ← j.slots? [["id"], ["user_a"], ["user_b"], ["created_at"], ["archived_at"],
      ["archive_reason"], ["accessible_to_user_a"], ["accessible_to_user_b"]] with
    | [id, userA, userB, createdAt, archivedAt, archiveReason, accessibleToA, accessibleToB] =>
      some ⟨← id.required, ← userA.required, ← userB.required, ← createdAt.required,
        ← archivedAt.optional, ← archiveReason.optional, ← accessibleToA.required,
        ← accessibleToB.required⟩
    | _ => none

instance : JsonForm Block where
  toJson b := .object
    [("blocker", toJson b.blocker), ("blocked", toJson b.blocked),
      ("created_at", toJson b.createdAt)]
  ofJson? j := do
    match ← j.slots? [["blocker"], ["blocked"], ["created_at"]] with
    | [blocker, blocked, createdAt] =>
      some ⟨← blocker.required, ← blocked.required, ← createdAt.required⟩
    | _ => none

/-! ## Notifications -/

namespace NotificationPayload

/-- The names of the fields, without the mark. -/
def fieldNames : NotificationType → List String
  | .friendRequest => ["request_id", "match_id", "from_user", "message"]
  | .friendRequestAccepted => ["request_id", "match_id", "responder"]
  | .friendRequestDeclined => ["request_id", "match_id", "responder"]
  | .gracefulExit => ["match_id", "initiator"]

def fieldValues : NotificationPayload → List Json
  | friendRequest requestId matchId fromUser message =>
    [toJson requestId, toJson matchId, toJson fromUser, toJson message]
  | friendRequestAccepted requestId matchId responder =>
    [toJson requestId, toJson matchId, toJson responder]
  | friendRequestDeclined requestId matchId responder =>
    [toJson requestId, toJson matchId, toJson responder]
  | gracefulExit matchId initiator => [toJson matchId, toJson initiator]

def ofSlots? : NotificationType → List Json.Slot → Option NotificationPayload
  | .friendRequest, [requestId, matchId, fromUser, message] => do
    some (.friendRequest (← requestId.required) (← matchId.required) (← fromUser.required)
      (← message.required))
  | .friendRequestAccepted, [requestId, matchId, responder] => do
    some (.friendRequestAccepted (← requestId.required) (← matchId.required)
      (← responder.required))
  | .friendRequestDeclined, [requestId, matchId, responder] => do
    some (.friendRequestDeclined (← requestId.required) (← matchId.required)
      (← responder.required))
  | .gracefulExit, [matchId, initiator] => do
    some (.gracefulExit (← matchId.required) (← initiator.required))
  | _, _ => none

def kindOf? : Json → Option NotificationType
  | .string s => NotificationType.all.find? fun t => t.kind = s
  | _ => none

/-- The mark, and the rest of the value without it. In an array the mark comes first. -/
def splitKind? : Json → Option (NotificationType × Json)
  | .object members =>
    match members.partition fun m => m.1 = "kind" with
    | ([m], others) => (kindOf? m.2).map (·, .object others)
    | _ => none
  | .array (mark :: items) => (kindOf? mark).map (·, .array items)
  | _ => none

end NotificationPayload

instance : JsonForm NotificationPayload where
  toJson p := .object (("kind", .string p.type.kind) ::
    (NotificationPayload.fieldNames p.type).zip p.fieldValues)
  ofJson? j := do
    let (type, rest) ← NotificationPayload.splitKind? j
    let slots ← rest.slots? ((NotificationPayload.fieldNames type).map ([·]))
    NotificationPayload.ofSlots? type slots

instance : JsonForm Notification where
  toJson n := .object
    [("id", toJson n.id), ("recipient", toJson n.recipient), ("type", toJson n.type),
      ("payload", toJson n.payload), ("created_at", toJson n.createdAt),
      ("read_at", optionJson n.readAt), ("dismissed_at", optionJson n.dismissedAt)]
  ofJson? j := do
    match ← j.slots? [["id"], ["recipient"], ["type"], ["payload"], ["created_at"], ["read_at"],
      ["dismissed_at"]] with
    | [id, recipient, type, payload, createdAt, readAt, dismissedAt] =>
      some ⟨← id.required, ← recipient.required, ← type.required, ← payload.required,
        ← createdAt.required, ← readAt.optional, ← dismissedAt.optional⟩
    | _ => none

/-! ## Results, which are only written -/

def SwipeResult.toJson (r : SwipeResult) : Json := .object
  [("matched", .bool r.matched), ("match", optionJson r.matchOf), ("like", Courtship.toJson r.like),
    ("new_match", .bool r.newMatch)]

def UndoResult.toJson (r : UndoResult) : Json := .object
  [("undone", Courtship.toJson r.undone), ("unmatched", optionJson r.unmatched)]

end Courtship
