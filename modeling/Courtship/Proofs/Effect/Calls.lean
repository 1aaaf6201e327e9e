import Courtship.Proofs.InPlace
import Courtship.Proofs.Rows
import Mathlib.Tactic.Simps.Basic

/-! What each call does to the tables in place, and how work is carried out call by call. -/

namespace Courtship

/-! ## Tables after a call -/

namespace Tables

/-- The swipe as it is stored: one that is stored already keeps its identifier. -/
def upserted (t : Tables) (arrow : Arrow) (direction : Direction) (now : Instant) (id : Uuid) :
    Like :=
  match t.likes[arrow]? with
  | some l => { l with direction := direction, createdAt := now, deletedAt := none }
  | none => Like.new id arrow.actor arrow.target direction now

/-- The match of the pair, or the one that is created for it. -/
def matchOf (t : Tables) (a b : UserId) (now : Instant) : Match :=
  t.matchRows[PairId.of a b]?.getD (.new a b now)

/-- The conversation of the pair, or the one that is created for it. -/
def conversationOf (t : Tables) (a b : UserId) (now : Instant) : Conversation :=
  t.conversations[PairId.of a b]?.getD (.new a b now)

@[simps] def setLike (t : Tables) (arrow : Arrow) (l : Like) : Tables :=
  { t with likes := t.likes.set arrow (some l) }

@[simps] def setMatch (t : Tables) (pair : PairId) (m : Match) : Tables :=
  { t with matchRows := t.matchRows.set pair (some m) }

@[simps] def setRequest (t : Tables) (id : Uuid) (r : FriendRequest) : Tables :=
  { t with requests := t.requests.set id (some r) }

@[simps] def setConversation (t : Tables) (pair : PairId) (c : Conversation) : Tables :=
  { t with conversations := t.conversations.set pair (some c) }

/-- The first block of one user by another is the one that counts. -/
@[simps] def blocked (t : Tables) (arrow : Arrow) (now : Instant) : Tables :=
  { t with
    blocks :=
      if t.blocks.contains arrow then t.blocks
      else t.blocks.set arrow (some ⟨arrow.actor, arrow.target, now⟩) }

theorem getElem?_blocked_blocks (t : Tables) (other arrow : Arrow) (now : Instant) :
    (t.blocked other now).blocks[arrow]? =
      if other = arrow then t.blocks[arrow]?.or (some ⟨arrow.actor, arrow.target, now⟩)
      else t.blocks[arrow]? := by
  rw [blocked_blocks, Rows.contains_eq]
  by_cases hsame : other = arrow
  · subst hsame
    rw [if_pos rfl]
    cases hstored : t.blocks[other]? <;> simp [hstored]
  · rw [if_neg hsame]
    split
    · rfl
    · rw [Rows.getElem?_set_of_ne _ hsame]

@[simps] def unblocked (t : Tables) (arrow : Arrow) : Tables :=
  { t with blocks := t.blocks.set arrow none }

@[simps] def notified (t : Tables) (n : Notification) : Tables :=
  { t with notifications := t.notifications ++ [n] }

end Tables

/-! ## Calls that read -/

namespace Memory

variable (m : Memory)

@[simp] theorem perform_getLike (arrow : Arrow) :
    m.perform (.getLike arrow) = (.ok m.tables.likes[arrow]?, m) := rfl

@[simp] theorem perform_findMutualLike (a b : UserId) :
    m.perform (.findMutualLike a b) =
      (.ok (m.tables.hasLiveLike ⟨a, b⟩ && m.tables.hasLiveLike ⟨b, a⟩), m) := rfl

@[simp] theorem perform_latestLikeBy (user : UserId) :
    m.perform (.latestLikeBy user) = (.ok (m.latestLikeBy user), m) := rfl

@[simp] theorem perform_getMatch (pair : PairId) :
    m.perform (.getMatch pair) = (.ok m.tables.matchRows[pair]?, m) := rfl

@[simp] theorem perform_isBlocked (a b : UserId) :
    m.perform (.isBlocked a b) = (.ok (m.tables.isBlocked a b), m) := rfl

@[simp] theorem perform_getRequest (id : Uuid) :
    m.perform (.getRequest id) = (.ok m.tables.requests[id]?, m) := rfl

@[simp] theorem perform_findPendingRequest (arrow : Arrow) (pair : PairId) :
    m.perform (.findPendingRequest arrow pair) =
      (.ok (m.tables.findPendingRequest arrow pair), m) := rfl

@[simp] theorem perform_countRequestsSince (sender : UserId) (since : Instant) :
    m.perform (.countRequestsSince sender since) =
      (.ok (m.tables.countRequestsSince sender since), m) := rfl

@[simp] theorem perform_pendingRequestsOn (pair : PairId) :
    m.perform (.pendingRequestsOn pair) = (.ok (m.tables.pendingRequestsOn pair), m) := rfl

@[simp] theorem perform_getConversation (pair : PairId) :
    m.perform (.getConversation pair) = (.ok m.tables.conversations[pair]?, m) := rfl

/-! ## Calls that write -/

@[simp] theorem perform_upsertLike (arrow : Arrow) (direction : Direction) (now : Instant) :
    m.perform (.upsertLike arrow direction now) =
      (.ok (m.tables.upserted arrow direction now (.fresh m.minted)),
        { m with
          tables := m.tables.setLike arrow
            (m.tables.upserted arrow direction now (.fresh m.minted))
          minted := if m.tables.likes.contains arrow then m.minted else m.minted + 1 }) := by
  rw [Rows.contains_eq]
  cases h : m.tables.likes[arrow]? <;>
    simp [perform, MemoryUnit.perform, MemoryUnit.upsertLike, MemoryUnit.tables, start, h,
      Tables.upserted, MemoryUnit.mint, Tables.write, Tables.setLike]

/-- Withdrawing a swipe that is not withdrawn. -/
theorem perform_softDeleteLike {arrow : Arrow} {l : Like} (h : m.tables.likes[arrow]? = some l)
    (hlive : l.isDeleted = false) (now : Instant) :
    m.perform (.softDeleteLike arrow now) =
      (.ok true, { m with tables := m.tables.setLike arrow { l with deletedAt := some now } }) := by
  simp [perform, MemoryUnit.perform, MemoryUnit.softDeleteLike, MemoryUnit.tables, start, h, hlive,
    Tables.write, Tables.setLike]

@[simp] theorem perform_createMatchIfAbsent (a b : UserId) (now : Instant) :
    m.perform (.createMatchIfAbsent (.of a b) a b now) =
      (.ok (m.tables.matchOf a b now, m.tables.matchRows[PairId.of a b]?.isNone),
        { m with tables := m.tables.setMatch (.of a b) (m.tables.matchOf a b now) }) := by
  cases h : m.tables.matchRows[PairId.of a b]? with
  | none =>
    simp [perform, MemoryUnit.perform, MemoryUnit.createMatchIfAbsent, MemoryUnit.tables, start, h,
      Tables.matchOf, Tables.write, Tables.setMatch]
  | some found =>
    simp [perform, MemoryUnit.perform, MemoryUnit.createMatchIfAbsent, MemoryUnit.tables, start, h,
      Tables.matchOf, Tables.setMatch, Rows.set_eq_self h]

/-- A match that differs from the stored one in what a transition changes is stored as it is. -/
theorem perform_updateMatchState {pair : PairId} {found : Match}
    (h : m.tables.matchRows[pair]? = some found) (hpair : found.id = pair) (target : MatchState)
    (initiator : UserId) (reason : Option ArchiveReason) (now : Instant) :
    m.perform (.updateMatchState (found.moved target initiator reason now)) =
      (.ok (), { m with
        tables := m.tables.setMatch pair (found.moved target initiator reason now) }) := by
  subst hpair
  have hid : (found.moved target initiator reason now).id = found.id := by
    unfold Match.moved
    split <;> rfl
  simp only [perform, MemoryUnit.perform, MemoryUnit.updateMatchState, MemoryUnit.tables, start,
    hid, h, Tables.setMatch]
  unfold Match.moved
  split <;> rfl

@[simp] theorem perform_recordBlock (arrow : Arrow) (now : Instant) :
    m.perform (.recordBlock arrow now) =
      (.ok !m.tables.blocks.contains arrow, { m with tables := m.tables.blocked arrow now }) := by
  by_cases h : m.tables.blocks.contains arrow <;>
    simp [perform, MemoryUnit.perform, MemoryUnit.recordBlock, MemoryUnit.tables, start, h,
      Tables.write, Tables.blocked]

@[simp] theorem perform_removeBlock (arrow : Arrow) :
    m.perform (.removeBlock arrow) =
      (.ok (m.tables.blocks.contains arrow), { m with tables := m.tables.unblocked arrow }) := by
  by_cases h : m.tables.blocks.contains arrow
  · simp [perform, MemoryUnit.perform, MemoryUnit.removeBlock, MemoryUnit.tables, start, h,
      Tables.write, Tables.unblocked]
  · have hnone : m.tables.blocks[arrow]? = none := by
      rw [Rows.contains_eq] at h
      exact Option.not_isSome_iff_eq_none.1 h
    simp [perform, MemoryUnit.perform, MemoryUnit.removeBlock, MemoryUnit.tables, start, h,
      Tables.unblocked, Rows.set_eq_self hnone]

theorem perform_insertRequest (r : FriendRequest) :
    m.perform (.insertRequest r) =
      if m.tables.requests.contains r.id then
        (.error (.conflict s!"friend request {r.id.text}"), m)
      else (.ok (), { m with tables := m.tables.setRequest r.id r }) := by
  by_cases h : m.tables.requests.contains r.id <;>
    simp [perform, MemoryUnit.perform, MemoryUnit.insertRequest, MemoryUnit.tables, start, h,
      Tables.write, Tables.setRequest]

theorem perform_updateRequestStatus {id : Uuid} {r : FriendRequest}
    (h : m.tables.requests[id]? = some r) (status : FriendRequestStatus) (now : Instant) :
    m.perform (.updateRequestStatus id status now) =
      (.ok (), { m with tables := m.tables.setRequest id (r.closed status now) }) := by
  simp [perform, MemoryUnit.perform, MemoryUnit.updateRequestStatus, MemoryUnit.tables, start, h,
    Tables.write, Tables.setRequest]

@[simp] theorem perform_getOrCreateConversation (a b : UserId) (now : Instant) :
    m.perform (.getOrCreateConversation a b now) =
      (.ok (m.tables.conversationOf a b now),
        { m with
          tables := m.tables.setConversation (.of a b) (m.tables.conversationOf a b now) }) := by
  cases h : m.tables.conversations[PairId.of a b]? with
  | none =>
    simp [perform, MemoryUnit.perform, MemoryUnit.getOrCreateConversation, MemoryUnit.tables,
      start, h, Tables.conversationOf, Tables.write, Tables.setConversation]
  | some found =>
    simp [perform, MemoryUnit.perform, MemoryUnit.getOrCreateConversation, MemoryUnit.tables,
      start, h, Tables.conversationOf, Tables.setConversation, Rows.set_eq_self h]

theorem perform_archiveConversation {pair : PairId} {c : Conversation}
    (h : m.tables.conversations[pair]? = some c) (reason : ArchiveReason) (now : Instant) :
    m.perform (.archiveConversation pair reason now) =
      (.ok (), { m with tables := m.tables.setConversation pair (c.archive reason now) }) := by
  simp [perform, MemoryUnit.perform, MemoryUnit.archiveConversation, MemoryUnit.tables, start, h,
    Tables.write, Tables.setConversation]

theorem perform_setVisibility {pair : PairId} {c c' : Conversation} {user : UserId}
    {visible : Bool} (h : m.tables.conversations[pair]? = some c)
    (hset : c.setVisibility? user visible = some c') :
    m.perform (.setVisibility pair user visible) =
      (.ok (), { m with tables := m.tables.setConversation pair c' }) := by
  simp [perform, MemoryUnit.perform, MemoryUnit.setVisibility, MemoryUnit.tables, start, h, hset,
    Tables.write, Tables.setConversation]

/-- What a refused notification is reported as. -/
def sinkError : StorageError := .corrupt "notification sink rejected write"

/-- What a commit that is made to fail reports. -/
def conflictError : StorageError := .conflict "simulated commit conflict"

theorem perform_createNotification (recipient : UserId) (type : NotificationType)
    (payload : NotificationPayload) (now : Instant) :
    m.perform (.createNotification recipient type payload now) =
      if m.rejectsNotifications then (.error sinkError, m)
      else
        (.ok (.new (.fresh m.minted) recipient type payload now),
          { m with
            tables := m.tables.notified (.new (.fresh m.minted) recipient type payload now)
            minted := m.minted + 1 }) := by
  by_cases h : m.rejectsNotifications
  · simp [perform, MemoryUnit.perform, MemoryUnit.createNotification, start, h, sinkError]
  · simp [perform, MemoryUnit.perform, MemoryUnit.createNotification, start, h, MemoryUnit.mint,
      MemoryUnit.tables, Tables.write, Tables.notified]

end Memory

/-! ## Work, call by call -/

namespace Work

variable {α β : Type}

theorem map_eq (f : α → β) (w : Work α) : f <$> w = w.bind fun a => done (f a) := rfl

@[simp] theorem perform_done (a : α) (m : Memory) : (done a).perform m = (.ok a, m) := rfl

@[simp] theorem perform_fail (why : Failure EngineError) (m : Memory) :
    (fail why : Work α).perform m = (.error why, m) := rfl

@[simp] theorem perform_reject (e : EngineError) (m : Memory) :
    (reject e : Work α).perform m = (.error (.error e), m) := rfl

@[simp] theorem perform_fresh (m : Memory) :
    fresh.perform m = (.ok (.fresh m.minted), { m with minted := m.minted + 1 }) := rfl

@[simp] theorem perform_call (c : Call) (next : c.Reply → Work α) (m : Memory) :
    (call c next).perform m =
      match m.perform c with
      | (.ok reply, m') => (next reply).perform m'
      | (.error e, m') => (.error (.error (.ofStorage e)), m') := by
  rcases h : m.perform c with ⟨e | reply, m'⟩ <;> simp [perform, OpenUnit.perform, h] <;> rfl

@[simp] theorem perform_bind (w : Work α) (f : α → Work β) (m : Memory) :
    (w.bind f).perform m =
      match w.perform m with
      | (.ok a, m') => (f a).perform m'
      | (.error why, m') => (.error why, m') := by
  induction w generalizing m with
  | done a => rfl
  | fail why => rfl
  | newId next ih => exact ih _ _
  | call c next ih =>
    rw [call_bind, perform_call, perform_call]
    rcases m.perform c with ⟨e | reply, m'⟩
    · rfl
    · exact ih reply m'

@[simp] theorem perform_ofExcept (r : Except (Failure EngineError) α) (m : Memory) :
    (ofExcept r).perform m = (r, m) := by
  cases r <;> rfl

/-- Work that only reads gives its result, and its writes are taken back. -/
theorem look_eq (w : Work α) (m : Memory) :
    w.look m = ((w.perform m).1, { (w.perform m).2 with tables := m.tables }) := by
  rw [look, inUnit_eq, perform_bind]
  rcases w.perform m with ⟨why | a, m'⟩ <;> rfl

theorem perform_bind_ok {w : Work α} {m m' : Memory} {a : α} (h : w.perform m = (.ok a, m'))
    (f : α → Work β) : (w.bind f).perform m = (f a).perform m' := by
  rw [perform_bind, h]

@[simp] theorem orReject_some (e : EngineError) (a : α) : orReject e (some a) = done a := rfl

@[simp] theorem orReject_none (e : EngineError) : (orReject e none : Work α) = reject e := rfl

end Work

end Courtship
