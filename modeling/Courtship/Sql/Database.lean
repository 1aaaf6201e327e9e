import Courtship.Sql.Script
import Courtship.Store.Storage

/-! The storage in a database: every call of a unit as statements of one transaction, and what is
made of the replies. -/

namespace Courtship.Sql

/-- Statements sent one after the other until one fails. -/
abbrev Exchange := ExceptT (Failure StorageError) (StateM Script)

namespace Exchange

def ofReading {α : Type} : Reading α → Exchange α
  | .ok a => pure a
  | .error (.error e) => throw (.error (.sql e))
  | .error .overflow => throw .overflow

def rejected {α : Type} (e : StorageError) : Exchange α := throw (.error e)

/-! ## Sending -/

def mint : Exchange Uuid := fun s =>
  let (id, s) := s.mint
  (.ok id, s)

/-- The rows of the reply. -/
def rows (q : Statement) : Exchange (List Row) := fun s =>
  match s.send q with
  | (.rows rs, s) => (.ok rs, s)
  | (.affected _, s) => (.ok [], s)
  | (.error code message, s) => (.error (.error (.sql (.database code message))), s)

/-- How many rows the statement wrote, or found. -/
def affected (q : Statement) : Exchange Nat := fun s =>
  match s.send q with
  | (.rows rs, s) => (.ok rs.length, s)
  | (.affected n, s) => (.ok n, s)
  | (.error code message, s) => (.error (.error (.sql (.database code message))), s)

def all {α : Type} (read : Row → Reading α) (q : Statement) : Exchange (List α) := do
  ofReading ((← rows q).mapM read)

/-- The first row, if there is one. -/
def first? {α : Type} (read : Row → Reading α) (q : Statement) : Exchange (Option α) := do
  match ← rows q with
  | [] => pure none
  | r :: _ => some <$> ofReading (read r)

def first {α : Type} (read : Row → Reading α) (q : Statement) : Exchange α := do
  match ← rows q with
  | [] => rejected (.sql .rowNotFound)
  | r :: _ => ofReading (read r)

/-- Fails if the statement writes no row. -/
def mustAffect (what : String) (q : Statement) : Exchange Unit := do
  if (← affected q) = 0 then rejected (.notFound what)

/-! ## Calls -/

def createMatchIfAbsent (id : PairId) (a b : UserId) (now : Instant) :
    Exchange (Match × Bool) := do
  match ← first? readMatch (.insertMatch id a b now) with
  | some m => pure (m, true)
  | none =>
    match ← first? readMatch (.getMatch id) with
    | some m => pure (m, false)
    | none => rejected (.notFound s!"match {id.text}")

/-- The count must be a word of 32 bits. -/
def countRequestsSince (sender : UserId) (since : Instant) : Exchange Nat := do
  let count : Int ← first (fun r => column r "sent") (.countSince sender since)
  if 0 ≤ count ∧ count < UInt32.size then pure count.toNat
  else rejected (.corrupt s!"request count {count}")

def getOrCreateConversation (a b : UserId) (now : Instant) : Exchange Conversation := do
  let _ ← affected (.insertConversation a b now)
  match ← first? readConversation (.getConversation (.of a b)) with
  | some c => pure c
  | none => rejected (.notFound s!"conversation {(PairId.of a b).text}")

def createNotification (recipient : UserId) (type : NotificationType)
    (payload : NotificationPayload) (now : Instant) : Exchange Notification := do
  let n := Notification.new (← mint) recipient type payload now
  let _ ← affected (.insertNotification n)
  pure n

def perform : (c : Call) → Exchange c.Reply
  | .upsertLike arrow direction now => do
    first readLike (.upsertLike (← mint) arrow direction now)
  | .getLike arrow => first? readLike (.getLike arrow)
  | .findMutualLike a b => do
    let live : Int ← first (fun r => column r "live") (.countMutualLikes a b)
    pure (live = 2)
  | .latestLikeBy user => first? readLike (.latestLikeBy user)
  | .softDeleteLike arrow now => do pure (0 < (← affected (.softDeleteLike arrow now)))
  | .createMatchIfAbsent id a b now => createMatchIfAbsent id a b now
  | .getMatch id => first? readMatch (.getMatch id)
  | .updateMatchState updated => mustAffect s!"match {updated.id.text}" (.updateMatch updated)
  | .matchesFor user => all readMatch (.matchesFor user)
  | .recordBlock arrow now => do pure (0 < (← affected (.insertBlock arrow now)))
  | .removeBlock arrow => do pure (0 < (← affected (.deleteBlock arrow)))
  | .isBlocked a b => first (fun r => column r "blocked") (.existsBlock a b)
  | .blockedBy blocker => all readBlock (.blockedBy blocker)
  | .insertRequest request => do
    let _ ← affected (.insertRequest request)
    pure ()
  | .getRequest id => first? readRequest (.getRequest id)
  | .findPendingRequest arrow matchId => first? readRequest (.findPending arrow matchId)
  | .updateRequestStatus id status now =>
    mustAffect s!"friend request {id.text}" (.updateRequest id status now)
  | .countRequestsSince sender since => countRequestsSince sender since
  | .pendingRequestsOn matchId => all readRequest (.pendingOn matchId)
  | .pendingRequestsFor user => all readRequest (.pendingFor user)
  | .getOrCreateConversation a b now => getOrCreateConversation a b now
  | .getConversation id => first? readConversation (.getConversation id)
  | .archiveConversation id reason now =>
    mustAffect s!"conversation {id.text}" (.archive id reason now)
  | .setVisibility id user visible =>
    mustAffect s!"user {user.text} in conversation {id.text}" (.setVisibility id user visible)
  | .createNotification recipient type payload now =>
    createNotification recipient type payload now
  | .notificationsFor user => all readNotification (.notificationsFor user)

end Exchange

/-- A database that answers at all is healthy. -/
def checkHealth (s : Script) : Except StorageError Bool × Script :=
  match s.send .ping with
  | (.rows (_ :: _), s) => (.ok true, s)
  | (.error code message, s) => (.error (.sql (.database code message)), s)
  | (_, s) => (.error (.sql .rowNotFound), s)

instance : OpenUnit Script where
  mint := Script.mint
  perform s c := (Exchange.perform c).run s

instance : Storage Script Script where
  name _ := "postgres"
  checkHealth := checkHealth
  start := Script.start
  commit := Script.commit
  discard := Script.rollback

end Courtship.Sql
