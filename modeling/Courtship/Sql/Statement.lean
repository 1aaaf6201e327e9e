import Courtship.Json.Records

/-! The SQL statements of the calls on a unit, with their parameters. White space in a statement
is a single blank. -/

namespace Courtship.Sql

inductive Param where
  | uuid (u : Uuid)
  | text (s : String)
  /-- A member of an enumeration, by its name. -/
  | label (name : String)
  | bool (b : Bool)
  /-- In microseconds since 2000. -/
  | time (micros : Int)
  | json (j : Json)
  | null

structure Statement where
  text : String
  params : List Param

namespace Param

def user (u : UserId) : Param := uuid u.uuid

def pair (p : PairId) : Param := text p.text

def instant (t : Instant) : Param := time t.micros2000

def optional {α : Type} (write : α → Param) : Option α → Param
  | some a => write a
  | none => null

end Param

open Param

namespace Statement

/-! ## Transactions -/

def begin : Statement := ⟨"BEGIN", []⟩

def serializable : Statement := ⟨"SET TRANSACTION ISOLATION LEVEL SERIALIZABLE", []⟩

def commit : Statement := ⟨"COMMIT", []⟩

def rollback : Statement := ⟨"ROLLBACK", []⟩

def ping : Statement := ⟨"SELECT 1", []⟩

/-! ## Columns -/

def likeColumns : String := "id, from_user, to_user, direction, created_at, deleted_at"

def matchColumns : String :=
  "id, user_a, user_b, state, end_reason, ended_by, created_at, state_changed_at"

def requestColumns : String :=
  "id, match_id, from_user, to_user, message, status, created_at, responded_at"

def conversationColumns : String :=
  "id, user_a, user_b, created_at, archived_at, archive_reason, " ++
    "accessible_to_user_a, accessible_to_user_b"

def notificationColumns : String :=
  "id, recipient, type, payload, created_at, read_at, dismissed_at"

/-! ## Likes and matches -/

/-- The identifier counts only where there was no swipe of these two users. -/
def upsertLike (id : Uuid) (arrow : Arrow) (direction : Direction) (now : Instant) : Statement :=
  ⟨"INSERT INTO likes (id, from_user, to_user, direction, created_at, deleted_at) " ++
      "VALUES ($1, $2, $3, $4, $5, NULL) ON CONFLICT (from_user, to_user) DO UPDATE SET " ++
      "direction = EXCLUDED.direction, created_at = EXCLUDED.created_at, deleted_at = NULL " ++
      s!"RETURNING {likeColumns}",
    [uuid id, user arrow.actor, user arrow.target, label direction.name, instant now]⟩

def getLike (arrow : Arrow) : Statement :=
  ⟨s!"SELECT {likeColumns} FROM likes WHERE from_user = $1 AND to_user = $2",
    [user arrow.actor, user arrow.target]⟩

def countMutualLikes (a b : UserId) : Statement :=
  ⟨"SELECT COUNT(*) AS live FROM likes WHERE ((from_user = $1 AND to_user = $2) OR " ++
      "(from_user = $2 AND to_user = $1)) AND direction = 'LIKE' AND deleted_at IS NULL",
    [user a, user b]⟩

def latestLikeBy (sender : UserId) : Statement :=
  ⟨s!"SELECT {likeColumns} FROM likes WHERE from_user = $1 AND deleted_at IS NULL " ++
      "ORDER BY created_at DESC LIMIT 1",
    [user sender]⟩

def softDeleteLike (arrow : Arrow) (now : Instant) : Statement :=
  ⟨"UPDATE likes SET deleted_at = $3 WHERE from_user = $1 AND to_user = $2 " ++
      "AND deleted_at IS NULL",
    [user arrow.actor, user arrow.target, instant now]⟩

def insertMatch (id : PairId) (a b : UserId) (now : Instant) : Statement :=
  let (low, high) := inOrder a b
  ⟨"INSERT INTO matches (id, user_a, user_b, state, created_at, state_changed_at) " ++
      "VALUES ($1, $2, $3, $4, $5, $5) ON CONFLICT (id) DO NOTHING " ++
      s!"RETURNING {matchColumns}",
    [pair id, user low, user high, label MatchState.active.name, instant now]⟩

def getMatch (id : PairId) : Statement :=
  ⟨s!"SELECT {matchColumns} FROM matches WHERE id = $1", [pair id]⟩

def updateMatch (m : Match) : Statement :=
  ⟨"UPDATE matches SET state = $2, end_reason = $3, ended_by = $4, state_changed_at = $5 " ++
      "WHERE id = $1",
    [pair m.id, label m.state.name, optional (fun r => label r.name) m.endReason,
      optional user m.endedBy, instant m.stateChangedAt]⟩

def matchesFor (member : UserId) : Statement :=
  ⟨s!"SELECT {matchColumns} FROM matches WHERE user_a = $1 OR user_b = $1 " ++
      "ORDER BY created_at DESC",
    [user member]⟩

/-! ## Blocks -/

def insertBlock (arrow : Arrow) (now : Instant) : Statement :=
  ⟨"INSERT INTO blocks (blocker, blocked, created_at) VALUES ($1, $2, $3) " ++
      "ON CONFLICT (blocker, blocked) DO NOTHING",
    [user arrow.actor, user arrow.target, instant now]⟩

def deleteBlock (arrow : Arrow) : Statement :=
  ⟨"DELETE FROM blocks WHERE blocker = $1 AND blocked = $2",
    [user arrow.actor, user arrow.target]⟩

def existsBlock (a b : UserId) : Statement :=
  ⟨"SELECT EXISTS ( SELECT 1 FROM blocks WHERE (blocker = $1 AND blocked = $2) OR " ++
      "(blocker = $2 AND blocked = $1) ) AS blocked",
    [user a, user b]⟩

def blockedBy (blocker : UserId) : Statement :=
  ⟨"SELECT blocker, blocked, created_at FROM blocks WHERE blocker = $1 " ++
      "ORDER BY created_at DESC",
    [user blocker]⟩

/-! ## Friend requests -/

def insertRequest (r : FriendRequest) : Statement :=
  ⟨s!"INSERT INTO friend_requests ({requestColumns}) VALUES ($1, $2, $3, $4, $5, $6, $7, $8)",
    [uuid r.id, pair r.matchId, user r.fromUser, user r.toUser, Param.text r.message,
      label r.status.name, instant r.createdAt, optional instant r.respondedAt]⟩

def getRequest (id : Uuid) : Statement :=
  ⟨s!"SELECT {requestColumns} FROM friend_requests WHERE id = $1", [uuid id]⟩

def findPending (arrow : Arrow) (matchId : PairId) : Statement :=
  ⟨s!"SELECT {requestColumns} FROM friend_requests WHERE from_user = $1 AND to_user = $2 " ++
      "AND match_id = $3 AND status = 'PENDING'",
    [user arrow.actor, user arrow.target, pair matchId]⟩

def updateRequest (id : Uuid) (status : FriendRequestStatus) (now : Instant) : Statement :=
  ⟨"UPDATE friend_requests SET status = $2, responded_at = $3 WHERE id = $1",
    [uuid id, label status.name, instant now]⟩

def countSince (sender : UserId) (since : Instant) : Statement :=
  ⟨"SELECT COUNT(*) AS sent FROM friend_requests WHERE from_user = $1 AND created_at >= $2",
    [user sender, instant since]⟩

def pendingOn (matchId : PairId) : Statement :=
  ⟨s!"SELECT {requestColumns} FROM friend_requests WHERE match_id = $1 AND status = 'PENDING' " ++
      "ORDER BY created_at ASC",
    [pair matchId]⟩

def pendingFor (recipient : UserId) : Statement :=
  ⟨s!"SELECT {requestColumns} FROM friend_requests WHERE to_user = $1 AND status = 'PENDING' " ++
      "ORDER BY created_at ASC",
    [user recipient]⟩

/-! ## Conversations -/

def insertConversation (a b : UserId) (now : Instant) : Statement :=
  let (low, high) := inOrder a b
  ⟨"INSERT INTO conversations (id, user_a, user_b, created_at) VALUES ($1, $2, $3, $4) " ++
      "ON CONFLICT (id) DO NOTHING",
    [pair (.of low high), user low, user high, instant now]⟩

def getConversation (id : PairId) : Statement :=
  ⟨s!"SELECT {conversationColumns} FROM conversations WHERE id = $1", [pair id]⟩

def archive (id : PairId) (reason : ArchiveReason) (now : Instant) : Statement :=
  ⟨"UPDATE conversations SET archived_at = $2, archive_reason = $3 WHERE id = $1",
    [pair id, instant now, label reason.name]⟩

def setVisibility (id : PairId) (member : UserId) (visible : Bool) : Statement :=
  ⟨"UPDATE conversations SET accessible_to_user_a = " ++
      "CASE WHEN user_a = $2 THEN $3 ELSE accessible_to_user_a END, accessible_to_user_b = " ++
      "CASE WHEN user_b = $2 THEN $3 ELSE accessible_to_user_b END " ++
      "WHERE id = $1 AND (user_a = $2 OR user_b = $2)",
    [pair id, user member, Param.bool visible]⟩

/-! ## Notifications -/

def insertNotification (n : Notification) : Statement :=
  ⟨"INSERT INTO notifications (id, recipient, type, payload, created_at) " ++
      "VALUES ($1, $2, $3, $4, $5)",
    [uuid n.id, user n.recipient, label n.type.name, json (toJson n.payload),
      instant n.createdAt]⟩

def notificationsFor (recipient : UserId) : Statement :=
  ⟨s!"SELECT {notificationColumns} FROM notifications WHERE recipient = $1 " ++
      "ORDER BY created_at DESC",
    [user recipient]⟩

end Statement

end Courtship.Sql
