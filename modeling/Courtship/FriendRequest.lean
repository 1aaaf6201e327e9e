import Courtship.Time.Instant
import Courtship.User

/-! Friend requests: one user's proposal to turn an active match into a friendship. -/

namespace Courtship

inductive FriendRequestStatus where
  | pending
  | accepted
  | declined
  /-- Closed without an answer, because the match moved on. -/
  | expired
  deriving DecidableEq

namespace FriendRequestStatus

def all : List FriendRequestStatus := [pending, accepted, declined, expired]

def name : FriendRequestStatus → String
  | pending => "PENDING"
  | accepted => "ACCEPTED"
  | declined => "DECLINED"
  | expired => "EXPIRED"

end FriendRequestStatus

structure FriendRequest where
  id : Uuid
  matchId : PairId
  fromUser : UserId
  toUser : UserId
  message : String
  status : FriendRequestStatus
  createdAt : Instant
  respondedAt : Option Instant
  deriving DecidableEq

namespace FriendRequest

def new (id : Uuid) (fromUser toUser : UserId) (message : String) (now : Instant) :
    FriendRequest :=
  ⟨id, PairId.of fromUser toUser, fromUser, toUser, message, .pending, now, none⟩

def isPending (r : FriendRequest) : Bool := r.status = .pending

/-- The request closed with this status. -/
def closed (r : FriendRequest) (status : FriendRequestStatus) (now : Instant) : FriendRequest :=
  { r with status := status, respondedAt := some now }

end FriendRequest

end Courtship
