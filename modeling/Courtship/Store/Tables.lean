import Courtship.Conversation
import Courtship.FriendRequest
import Courtship.Notification
import Courtship.Store.Rows
import Courtship.Swipe

/-! The six tables, the queries on them, and how a write to them is taken back. -/

namespace Courtship

structure Tables where
  /-- A user's swipe on another, whatever its direction, under the two of them. -/
  likes : Rows Arrow Like
  matchRows : Rows PairId Match
  blocks : Rows Arrow Block
  requests : Rows Uuid FriendRequest
  conversations : Rows PairId Conversation
  /-- In order of creation. -/
  notifications : List Notification

namespace Tables

def empty : Tables := ⟨∅, ∅, ∅, ∅, ∅, []⟩

/-! ## Queries -/

/-- The latest comes first. Elements of one time keep their order. -/
def newestFirst {α : Type} (time : α → Instant) (xs : List α) : List α :=
  xs.mergeSort fun x y => time y ≤ time x

def oldestFirst {α : Type} (time : α → Instant) (xs : List α) : List α :=
  xs.mergeSort fun x y => time x ≤ time y

/-- Whether `actor` holds a like toward `target` that was not withdrawn. -/
def hasLiveLike (t : Tables) (arrow : Arrow) : Bool := t.likes[arrow]?.any Like.isLiveLike

/-- The swipes of the user that were not withdrawn. -/
def liveSwipesBy (t : Tables) (user : UserId) : List Like :=
  t.likes.values.filter fun l => l.fromUser = user && !l.isDeleted

/-- The latest one of these. Where several are of one time it is the one whose key ranks first. -/
def latestLikeBy (t : Tables) (rank : Arrow → Nat) (user : UserId) : Option Like :=
  match t.liveSwipesBy user with
  | [] => none
  | l :: rest => some (rest.foldl (Like.preferred rank) l)

def matchesFor (t : Tables) (user : UserId) : List Match :=
  newestFirst Match.createdAt (t.matchRows.values.filter fun m => m.involves user)

def isBlocked (t : Tables) (a b : UserId) : Bool :=
  t.blocks.contains ⟨a, b⟩ || t.blocks.contains ⟨b, a⟩

def blockedBy (t : Tables) (blocker : UserId) : List Block :=
  newestFirst Block.createdAt (t.blocks.values.filter fun b => b.blocker = blocker)

def pendingRequests (t : Tables) : List FriendRequest :=
  t.requests.values.filter FriendRequest.isPending

def findPendingRequest (t : Tables) (arrow : Arrow) (matchId : PairId) : Option FriendRequest :=
  t.pendingRequests.find? fun r => r.fromUser = arrow.actor && r.toUser = arrow.target &&
    r.matchId = matchId

/-- The count is a word of 32 bits. -/
def countRequestsSince (t : Tables) (sender : UserId) (since : Instant) : Nat :=
  (t.requests.values.countP fun r => r.fromUser = sender && since ≤ r.createdAt) % UInt32.size

def pendingRequestsOn (t : Tables) (matchId : PairId) : List FriendRequest :=
  oldestFirst FriendRequest.createdAt (t.pendingRequests.filter fun r => r.matchId = matchId)

def pendingRequestsFor (t : Tables) (user : UserId) : List FriendRequest :=
  oldestFirst FriendRequest.createdAt (t.pendingRequests.filter fun r => r.toUser = user)

def notificationsFor (t : Tables) (user : UserId) : List Notification :=
  newestFirst Notification.createdAt (t.notifications.filter fun n => n.recipient = user)

/-! ## Writes -/

/-- What one write leaves under its key; nothing of it for a removal. Notifications are only ever
added. -/
inductive Write where
  | like (key : Arrow) (row : Option Like)
  | matchRow (key : PairId) (row : Option Match)
  | block (key : Arrow) (row : Option Block)
  | request (key : Uuid) (row : Option FriendRequest)
  | conversation (key : PairId) (row : Option Conversation)
  | notification (row : Notification)

/-- What a write took the place of. -/
inductive Undo where
  | like (key : Arrow) (prior : Option Like)
  | matchRow (key : PairId) (prior : Option Match)
  | block (key : Arrow) (prior : Option Block)
  | request (key : Uuid) (prior : Option FriendRequest)
  | conversation (key : PairId) (prior : Option Conversation)
  | notifications (count : Nat)

def write (t : Tables) : Write → Tables
  | .like key row => { t with likes := t.likes.set key row }
  | .matchRow key row => { t with matchRows := t.matchRows.set key row }
  | .block key row => { t with blocks := t.blocks.set key row }
  | .request key row => { t with requests := t.requests.set key row }
  | .conversation key row => { t with conversations := t.conversations.set key row }
  | .notification row => { t with notifications := t.notifications ++ [row] }

def undoOf (t : Tables) : Write → Undo
  | .like key _ => .like key t.likes[key]?
  | .matchRow key _ => .matchRow key t.matchRows[key]?
  | .block key _ => .block key t.blocks[key]?
  | .request key _ => .request key t.requests[key]?
  | .conversation key _ => .conversation key t.conversations[key]?
  | .notification _ => .notifications t.notifications.length

def undo (t : Tables) : Undo → Tables
  | .like key prior => { t with likes := t.likes.set key prior }
  | .matchRow key prior => { t with matchRows := t.matchRows.set key prior }
  | .block key prior => { t with blocks := t.blocks.set key prior }
  | .request key prior => { t with requests := t.requests.set key prior }
  | .conversation key prior => { t with conversations := t.conversations.set key prior }
  | .notifications count => { t with notifications := t.notifications.take count }

theorem undo_write (t : Tables) (w : Write) : (t.write w).undo (t.undoOf w) = t := by
  cases w <;> simp [write, undo, undoOf, Rows.set_set_get?]

end Tables

end Courtship
