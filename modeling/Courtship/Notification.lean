import Courtship.Time.Instant
import Courtship.User

/-! Notifications to a user about what the other user of a match did. -/

namespace Courtship

inductive NotificationType where
  | friendRequest
  | friendRequestAccepted
  | friendRequestDeclined
  | gracefulExit
  deriving DecidableEq

namespace NotificationType

def all : List NotificationType :=
  [friendRequest, friendRequestAccepted, friendRequestDeclined, gracefulExit]

def name : NotificationType → String
  | friendRequest => "FRIEND_REQUEST"
  | friendRequestAccepted => "FRIEND_REQUEST_ACCEPTED"
  | friendRequestDeclined => "FRIEND_REQUEST_DECLINED"
  | gracefulExit => "GRACEFUL_EXIT"

/-- The name as the mark of a payload. -/
def kind : NotificationType → String
  | friendRequest => "friend_request"
  | friendRequestAccepted => "friend_request_accepted"
  | friendRequestDeclined => "friend_request_declined"
  | gracefulExit => "graceful_exit"

end NotificationType

inductive NotificationPayload where
  | friendRequest (requestId : Uuid) (matchId : PairId) (fromUser : UserId) (message : String)
  | friendRequestAccepted (requestId : Uuid) (matchId : PairId) (responder : UserId)
  | friendRequestDeclined (requestId : Uuid) (matchId : PairId) (responder : UserId)
  | gracefulExit (matchId : PairId) (initiator : UserId)
  deriving DecidableEq

def NotificationPayload.type : NotificationPayload → NotificationType
  | friendRequest .. => .friendRequest
  | friendRequestAccepted .. => .friendRequestAccepted
  | friendRequestDeclined .. => .friendRequestDeclined
  | gracefulExit .. => .gracefulExit

structure Notification where
  id : Uuid
  recipient : UserId
  type : NotificationType
  payload : NotificationPayload
  createdAt : Instant
  readAt : Option Instant
  dismissedAt : Option Instant
  deriving DecidableEq

namespace Notification

def new (id : Uuid) (recipient : UserId) (type : NotificationType) (payload : NotificationPayload)
    (now : Instant) : Notification :=
  ⟨id, recipient, type, payload, now, none, none⟩

end Notification

end Courtship
