import Courtship.Store.Storage
import Courtship.Store.Tables

/-! The storage in memory. A unit writes to the tables in place and keeps what it replaced; to take
the unit back is to play that log, newest first. Two faults can be switched on. -/

namespace Courtship

structure Memory where
  tables : Tables
  /-- Every new notification is refused. -/
  rejectsNotifications : Bool
  /-- How many of the next commits fail. -/
  commitConflicts : Nat
  /-- How many identifiers were made, also in units that were taken back. -/
  minted : Nat
  /-- Which of the swipes of one time is come upon as the latest. That is as the hashes of their
  keys fall out, and may be otherwise after any change. -/
  rank : Arrow → Nat

namespace Memory

def empty : Memory := ⟨.empty, false, 0, 0, fun _ => 0⟩

/-- The swipe that is come upon as the latest one of the user. -/
def latestLikeBy (m : Memory) (user : UserId) : Option Like := m.tables.latestLikeBy m.rank user

end Memory

/-- A unit at work on the tables. -/
structure MemoryUnit where
  memory : Memory
  /-- Newest first. -/
  log : List Tables.Undo

namespace MemoryUnit

def tables (u : MemoryUnit) : Tables := u.memory.tables

def write (u : MemoryUnit) (w : Tables.Write) : MemoryUnit where
  memory := { u.memory with tables := u.tables.write w }
  log := u.tables.undoOf w :: u.log

def mint (u : MemoryUnit) : Uuid × MemoryUnit :=
  (.fresh u.memory.minted, { u with memory := { u.memory with minted := u.memory.minted + 1 } })

/-- The tables as they were when the unit began. -/
def restored (u : MemoryUnit) : Tables := u.log.foldl Tables.undo u.tables

def discard (u : MemoryUnit) : Memory := { u.memory with tables := u.restored }

def commit (u : MemoryUnit) : Except StorageError Unit × Memory :=
  if u.memory.commitConflicts = 0 then (.ok (), u.memory)
  else
    (.error (.conflict "simulated commit conflict"),
      { u.discard with commitConflicts := u.memory.commitConflicts - 1 })

/-! ## Calls -/

def upsertLike (u : MemoryUnit) (arrow : Arrow) (direction : Direction) (now : Instant) :
    Like × MemoryUnit :=
  match u.tables.likes[arrow]? with
  | some l =>
    let l := { l with direction := direction, createdAt := now, deletedAt := none }
    (l, u.write (.like arrow (some l)))
  | none =>
    let (id, u) := u.mint
    let l := Like.new id arrow.actor arrow.target direction now
    (l, u.write (.like arrow (some l)))

def softDeleteLike (u : MemoryUnit) (arrow : Arrow) (now : Instant) : Bool × MemoryUnit :=
  match u.tables.likes[arrow]? with
  | some l =>
    if l.isDeleted then (false, u)
    else (true, u.write (.like arrow (some { l with deletedAt := some now })))
  | none => (false, u)

def createMatchIfAbsent (u : MemoryUnit) (id : PairId) (a b : UserId) (now : Instant) :
    (Match × Bool) × MemoryUnit :=
  match u.tables.matchRows[id]? with
  | some m => ((m, false), u)
  | none =>
    let m := Match.new a b now
    ((m, true), u.write (.matchRow id (some m)))

/-- Only what a transition changes is taken over from `updated`. -/
def updateMatchState (u : MemoryUnit) (updated : Match) : Except StorageError Unit × MemoryUnit :=
  match u.tables.matchRows[updated.id]? with
  | some m =>
    let m := { m with
      state := updated.state
      endReason := updated.endReason
      endedBy := updated.endedBy
      stateChangedAt := updated.stateChangedAt }
    (.ok (), u.write (.matchRow updated.id (some m)))
  | none => (.error (.notFound s!"match {updated.id.text}"), u)

def recordBlock (u : MemoryUnit) (arrow : Arrow) (now : Instant) : Bool × MemoryUnit :=
  if u.tables.blocks.contains arrow then (false, u)
  else (true, u.write (.block arrow (some ⟨arrow.actor, arrow.target, now⟩)))

def removeBlock (u : MemoryUnit) (arrow : Arrow) : Bool × MemoryUnit :=
  if u.tables.blocks.contains arrow then (true, u.write (.block arrow none)) else (false, u)

def insertRequest (u : MemoryUnit) (r : FriendRequest) : Except StorageError Unit × MemoryUnit :=
  if u.tables.requests.contains r.id then
    (.error (.conflict s!"friend request {r.id.text}"), u)
  else (.ok (), u.write (.request r.id (some r)))

def updateRequestStatus (u : MemoryUnit) (id : Uuid) (status : FriendRequestStatus)
    (now : Instant) : Except StorageError Unit × MemoryUnit :=
  match u.tables.requests[id]? with
  | some r => (.ok (), u.write (.request id (some (r.closed status now))))
  | none => (.error (.notFound s!"friend request {id.text}"), u)

def getOrCreateConversation (u : MemoryUnit) (a b : UserId) (now : Instant) :
    Conversation × MemoryUnit :=
  match u.tables.conversations[PairId.of a b]? with
  | some c => (c, u)
  | none =>
    let c := Conversation.new a b now
    (c, u.write (.conversation (PairId.of a b) (some c)))

def archiveConversation (u : MemoryUnit) (id : PairId) (reason : ArchiveReason) (now : Instant) :
    Except StorageError Unit × MemoryUnit :=
  match u.tables.conversations[id]? with
  | some c => (.ok (), u.write (.conversation id (some (c.archive reason now))))
  | none => (.error (.notFound s!"conversation {id.text}"), u)

def setVisibility (u : MemoryUnit) (id : PairId) (user : UserId) (visible : Bool) :
    Except StorageError Unit × MemoryUnit :=
  match u.tables.conversations[id]? with
  | some c =>
    match c.setVisibility? user visible with
    | some c => (.ok (), u.write (.conversation id (some c)))
    | none => (.error (.notFound s!"user {user.text} in conversation {id.text}"), u)
  | none => (.error (.notFound s!"conversation {id.text}"), u)

def createNotification (u : MemoryUnit) (recipient : UserId) (type : NotificationType)
    (payload : NotificationPayload) (now : Instant) :
    Except StorageError Notification × MemoryUnit :=
  if u.memory.rejectsNotifications then
    (.error (.corrupt "notification sink rejected write"), u)
  else
    let (id, u) := u.mint
    let n := Notification.new id recipient type payload now
    (.ok n, u.write (.notification n))

/-- A call that fails writes nothing. -/
def perform (u : MemoryUnit) : (c : Call) → Except StorageError c.Reply × MemoryUnit
  | .upsertLike arrow direction now => (u.upsertLike arrow direction now).map .ok id
  | .getLike arrow => (.ok u.tables.likes[arrow]?, u)
  | .findMutualLike a b => (.ok (u.tables.hasLiveLike ⟨a, b⟩ && u.tables.hasLiveLike ⟨b, a⟩), u)
  | .latestLikeBy user => (.ok (u.memory.latestLikeBy user), u)
  | .softDeleteLike arrow now => (u.softDeleteLike arrow now).map .ok id
  | .createMatchIfAbsent pair a b now => (u.createMatchIfAbsent pair a b now).map .ok id
  | .getMatch pair => (.ok u.tables.matchRows[pair]?, u)
  | .updateMatchState updated => u.updateMatchState updated
  | .matchesFor user => (.ok (u.tables.matchesFor user), u)
  | .recordBlock arrow now => (u.recordBlock arrow now).map .ok id
  | .removeBlock arrow => (u.removeBlock arrow).map .ok id
  | .isBlocked a b => (.ok (u.tables.isBlocked a b), u)
  | .blockedBy blocker => (.ok (u.tables.blockedBy blocker), u)
  | .insertRequest request => u.insertRequest request
  | .getRequest request => (.ok u.tables.requests[request]?, u)
  | .findPendingRequest arrow matchId => (.ok (u.tables.findPendingRequest arrow matchId), u)
  | .updateRequestStatus request status now => u.updateRequestStatus request status now
  | .countRequestsSince sender since => (.ok (u.tables.countRequestsSince sender since), u)
  | .pendingRequestsOn matchId => (.ok (u.tables.pendingRequestsOn matchId), u)
  | .pendingRequestsFor user => (.ok (u.tables.pendingRequestsFor user), u)
  | .getOrCreateConversation a b now => (u.getOrCreateConversation a b now).map .ok id
  | .getConversation pair => (.ok u.tables.conversations[pair]?, u)
  | .archiveConversation pair reason now => u.archiveConversation pair reason now
  | .setVisibility pair user visible => u.setVisibility pair user visible
  | .createNotification recipient type payload now =>
    u.createNotification recipient type payload now
  | .notificationsFor user => (.ok (u.tables.notificationsFor user), u)

end MemoryUnit

namespace Memory

def start (m : Memory) : MemoryUnit := ⟨m, []⟩

instance : OpenUnit MemoryUnit where
  mint := MemoryUnit.mint
  perform u c := (u.perform c).map (Except.mapError .error) id

instance : Storage Memory MemoryUnit where
  name _ := "memory"
  checkHealth m := (.ok true, m)
  start m := .ok m.start
  commit := MemoryUnit.commit
  discard := MemoryUnit.discard

end Memory

end Courtship
