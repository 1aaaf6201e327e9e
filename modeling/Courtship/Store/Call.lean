import Courtship.Conversation
import Courtship.FriendRequest
import Courtship.Notification
import Courtship.Swipe

/-! The calls that a unit of work on the storage understands, and what each one replies. -/

namespace Courtship

inductive Call where
  /-- Overwrites a swipe of the same two users, and brings back one that was withdrawn. -/
  | upsertLike (arrow : Arrow) (direction : Direction) (now : Instant)
  | getLike (arrow : Arrow)
  /-- Whether both users hold a live like toward each other. -/
  | findMutualLike (a b : UserId)
  /-- The newest swipe of the user that was not withdrawn. -/
  | latestLikeBy (user : UserId)
  /-- Whether there was a live swipe to withdraw. -/
  | softDeleteLike (arrow : Arrow) (now : Instant)
  /-- The match under this id, and whether this call created it. -/
  | createMatchIfAbsent (id : PairId) (a b : UserId) (now : Instant)
  | getMatch (id : PairId)
  /-- Stores the state of the match, its time, and why and by whom it ended. -/
  | updateMatchState (updated : Match)
  | matchesFor (user : UserId)
  /-- Whether the block is new. -/
  | recordBlock (arrow : Arrow) (now : Instant)
  /-- Whether there was such a block. -/
  | removeBlock (arrow : Arrow)
  /-- Whether either user has blocked the other. -/
  | isBlocked (a b : UserId)
  | blockedBy (blocker : UserId)
  | insertRequest (request : FriendRequest)
  | getRequest (id : Uuid)
  | findPendingRequest (arrow : Arrow) (matchId : PairId)
  | updateRequestStatus (id : Uuid) (status : FriendRequestStatus) (now : Instant)
  /-- How many requests the user sent at this time or later. -/
  | countRequestsSince (sender : UserId) (since : Instant)
  | pendingRequestsOn (matchId : PairId)
  | pendingRequestsFor (user : UserId)
  | getOrCreateConversation (a b : UserId) (now : Instant)
  | getConversation (id : PairId)
  | archiveConversation (id : PairId) (reason : ArchiveReason) (now : Instant)
  | setVisibility (id : PairId) (user : UserId) (visible : Bool)
  | createNotification (recipient : UserId) (type : NotificationType)
      (payload : NotificationPayload) (now : Instant)
  | notificationsFor (user : UserId)

namespace Call

@[reducible] def Reply : Call → Type
  | upsertLike .. => Like
  | getLike _ => Option Like
  | findMutualLike .. => Bool
  | latestLikeBy _ => Option Like
  | softDeleteLike .. => Bool
  | createMatchIfAbsent .. => Match × Bool
  | getMatch _ => Option Match
  | updateMatchState _ => Unit
  | matchesFor _ => List Match
  | recordBlock .. => Bool
  | removeBlock _ => Bool
  | isBlocked .. => Bool
  | blockedBy _ => List Block
  | insertRequest _ => Unit
  | getRequest _ => Option FriendRequest
  | findPendingRequest .. => Option FriendRequest
  | updateRequestStatus .. => Unit
  | countRequestsSince .. => Nat
  | pendingRequestsOn _ => List FriendRequest
  | pendingRequestsFor _ => List FriendRequest
  | getOrCreateConversation .. => Conversation
  | getConversation _ => Option Conversation
  | archiveConversation .. => Unit
  | setVisibility .. => Unit
  | createNotification .. => Notification
  | notificationsFor _ => List Notification

end Call

end Courtship
