import Courtship.Operation.Ending
import Courtship.Proofs.Keyed

/-! What is closed together with a match: the requests still pending on it, and its conversation. -/

namespace Courtship

/-! ## Requests -/

namespace FriendRequest

/-- The request once those still pending on a match have been closed. -/
def expiredOn (r : FriendRequest) (pair : PairId) (now : Instant) : FriendRequest :=
  if r.isPending && r.matchId = pair then r.closed .expired now else r

@[simp] theorem expiredOn_id (r : FriendRequest) (pair : PairId) (now : Instant) :
    (r.expiredOn pair now).id = r.id := by
  unfold expiredOn
  split <;> rfl

@[simp] theorem expiredOn_matchId (r : FriendRequest) (pair : PairId) (now : Instant) :
    (r.expiredOn pair now).matchId = r.matchId := by
  unfold expiredOn
  split <;> rfl

@[simp] theorem expiredOn_fromUser (r : FriendRequest) (pair : PairId) (now : Instant) :
    (r.expiredOn pair now).fromUser = r.fromUser := by
  unfold expiredOn
  split <;> rfl

@[simp] theorem expiredOn_toUser (r : FriendRequest) (pair : PairId) (now : Instant) :
    (r.expiredOn pair now).toUser = r.toUser := by
  unfold expiredOn
  split <;> rfl

end FriendRequest

namespace Tables

/-- Closes every request that is pending on the match. -/
@[simps] def expire (t : Tables) (pair : PairId) (now : Instant) : Tables :=
  { t with requests := t.requests.map fun _ r => r.expiredOn pair now }

theorem getElem?_expire (t : Tables) (pair : PairId) (now : Instant) (id : Uuid) :
    (t.expire pair now).requests[id]? = t.requests[id]?.map fun r => r.expiredOn pair now :=
  Std.ExtTreeMap.getElem?_map

/-- Closes the requests under these identifiers. -/
@[simps] def expireThese (t : Tables) (ids : List Uuid) (now : Instant) : Tables :=
  { t with requests := t.requests.map fun id r => if id ∈ ids then r.closed .expired now else r }

theorem expireThese_nil (t : Tables) (now : Instant) : t.expireThese [] now = t := by
  have hsame : t.requests.map (fun _ r => r) = t.requests := by
    apply Std.ExtTreeMap.ext_getElem?
    intro id
    rw [Std.ExtTreeMap.getElem?_map, Option.map_id']
  simp [expireThese, hsame]

theorem expireThese_cons {t : Tables} {id : Uuid} {r : FriendRequest}
    (h : t.requests[id]? = some r) (ids : List Uuid) (now : Instant) :
    (t.setRequest id (r.closed .expired now)).expireThese ids now =
      t.expireThese (id :: ids) now := by
  unfold expireThese setRequest
  congr 1
  apply Std.ExtTreeMap.ext_getElem?
  intro other
  simp only [Std.ExtTreeMap.getElem?_map, Rows.get?_set, List.mem_cons]
  by_cases hid : id = other
  · subst hid
    simp [h, FriendRequest.closed]
  · simp [hid, Ne.symm hid]

theorem Keyed.expire {t : Tables} (h : t.Keyed) (pair : PairId) (now : Instant) :
    (t.expire pair now).Keyed := by
  refine { h with request := ?_ }
  intro id r hr
  rw [getElem?_expire, Option.map_eq_some_iff] at hr
  obtain ⟨r', hr', rfl⟩ := hr
  simpa using h.request hr'

theorem Keyed.closed {t : Tables} (h : t.Keyed) {r : FriendRequest}
    (hr : t.requests[r.id]? = some r) (status : FriendRequestStatus) (now : Instant) :
    (t.setRequest r.id (r.closed status now)).Keyed := by
  have hpair := (h.request hr).2
  exact h.setRequest ⟨rfl, hpair⟩

theorem mem_pendingRequestsOn {t : Tables} {pair : PairId} {r : FriendRequest} :
    r ∈ t.pendingRequestsOn pair ↔
      (∃ id : Uuid, t.requests[id]? = some r) ∧ r.isPending = true ∧ r.matchId = pair := by
  simp only [pendingRequestsOn, oldestFirst, pendingRequests, List.mem_mergeSort, List.mem_filter,
    Rows.mem_values, decide_eq_true_eq, and_assoc]

end Tables

namespace Operation

theorem perform_expireRequests (now : Instant) (rs : List FriendRequest) (m : Memory)
    (hrs : ∀ r ∈ rs, ∃ r' : FriendRequest, m.tables.requests[r.id]? = some r') :
    (expireRequests now rs).perform m =
      (.ok (), { m with tables := m.tables.expireThese (rs.map FriendRequest.id) now }) := by
  induction rs generalizing m with
  | nil => simp [expireRequests, Work.pure_eq, Tables.expireThese_nil]
  | cons r rs ih =>
    obtain ⟨stored, hstored⟩ := hrs r List.mem_cons_self
    have hrest : ∀ r' ∈ rs, ∃ r'' : FriendRequest,
        (m.tables.setRequest r.id (stored.closed .expired now)).requests[r'.id]? = some r'' := by
      intro r' hr'
      rw [Tables.setRequest_requests, Rows.get?_set]
      split
      · exact ⟨_, rfl⟩
      · exact hrs r' (List.mem_cons_of_mem r hr')
    simp only [expireRequests, Work.bind_eq, Work.run, Work.call_bind, Work.done_bind,
      Work.perform_call, m.perform_updateRequestStatus hstored]
    rw [ih _ hrest, Tables.expireThese_cons hstored, List.map_cons]

theorem perform_expirePending (pair : PairId) (now : Instant) (m : Memory)
    (hm : m.tables.Keyed) :
    (expirePending pair now).perform m =
      (.ok (), { m with tables := m.tables.expire pair now }) := by
  have hrs : ∀ r ∈ m.tables.pendingRequestsOn pair,
      ∃ r' : FriendRequest, m.tables.requests[r.id]? = some r' := by
    intro r hr
    obtain ⟨⟨id, hid⟩, _, _⟩ := Tables.mem_pendingRequestsOn.1 hr
    exact ⟨r, by rw [(hm.request hid).1, hid]⟩
  simp only [expirePending, Work.bind_eq, Work.run, Work.call_bind, Work.done_bind,
      Work.perform_call,
    Memory.perform_pendingRequestsOn]
  rw [perform_expireRequests now _ m hrs, Tables.expireThese, Tables.expire]
  congr 3
  apply Std.ExtTreeMap.ext_getElem?
  intro id
  simp only [Std.ExtTreeMap.getElem?_map]
  cases hid : m.tables.requests[id]? with
  | none => rfl
  | some r =>
    have hmem : id ∈ (m.tables.pendingRequestsOn pair).map FriendRequest.id ↔
        r.isPending = true ∧ r.matchId = pair := by
      simp only [List.mem_map, Tables.mem_pendingRequestsOn]
      constructor
      · rintro ⟨r', ⟨⟨id', hid'⟩, hpending, hpair⟩, rfl⟩
        rw [← (hm.request hid').1, hid] at hid'
        cases hid'
        exact ⟨hpending, hpair⟩
      · rintro ⟨hpending, hpair⟩
        exact ⟨r, ⟨⟨id, hid⟩, hpending, hpair⟩, (hm.request hid).1⟩
    simp [hmem, FriendRequest.expiredOn]

end Operation

/-! ## Conversations -/

namespace Conversation

/-- The conversation once it has been archived: an archived one keeps its reason and time. -/
def archiveOnce (c : Conversation) (reason : ArchiveReason) (now : Instant) : Conversation :=
  if c.isArchived then c else c.archive reason now

/-- The conversation as it is when one of its users no longer sees it. -/
def hiddenFrom (c : Conversation) (user : UserId) : Conversation :=
  if user = c.userA then { c with accessibleToA := false } else { c with accessibleToB := false }

variable (c : Conversation) (reason : ArchiveReason) (now : Instant) (user : UserId)

@[simp] theorem archiveOnce_id : (c.archiveOnce reason now).id = c.id := by
  unfold archiveOnce
  split <;> rfl

@[simp] theorem archiveOnce_userA : (c.archiveOnce reason now).userA = c.userA := by
  unfold archiveOnce
  split <;> rfl

@[simp] theorem archiveOnce_userB : (c.archiveOnce reason now).userB = c.userB := by
  unfold archiveOnce
  split <;> rfl

@[simp] theorem archiveOnce_createdAt : (c.archiveOnce reason now).createdAt = c.createdAt := by
  unfold archiveOnce
  split <;> rfl

@[simp] theorem archiveOnce_accessibleToA :
    (c.archiveOnce reason now).accessibleToA = c.accessibleToA := by
  unfold archiveOnce
  split <;> rfl

@[simp] theorem archiveOnce_accessibleToB :
    (c.archiveOnce reason now).accessibleToB = c.accessibleToB := by
  unfold archiveOnce
  split <;> rfl

@[simp] theorem hiddenFrom_id : (c.hiddenFrom user).id = c.id := by
  unfold hiddenFrom
  split <;> rfl

@[simp] theorem hiddenFrom_userA : (c.hiddenFrom user).userA = c.userA := by
  unfold hiddenFrom
  split <;> rfl

@[simp] theorem hiddenFrom_userB : (c.hiddenFrom user).userB = c.userB := by
  unfold hiddenFrom
  split <;> rfl

@[simp] theorem hiddenFrom_createdAt : (c.hiddenFrom user).createdAt = c.createdAt := by
  unfold hiddenFrom
  split <;> rfl

@[simp] theorem hiddenFrom_archivedAt : (c.hiddenFrom user).archivedAt = c.archivedAt := by
  unfold hiddenFrom
  split <;> rfl

@[simp] theorem hiddenFrom_archiveReason :
    (c.hiddenFrom user).archiveReason = c.archiveReason := by
  unfold hiddenFrom
  split <;> rfl

theorem setVisibility?_false {c : Conversation} {a b : UserId}
    (h : PairId.of c.userA c.userB = PairId.of a b) :
    c.setVisibility? a false = some (c.hiddenFrom a) := by
  unfold setVisibility? hiddenFrom
  rcases PairId.of_eq_iff.1 h with ⟨ha, hb⟩ | ⟨ha, hb⟩
  · rw [if_pos ha.symm, if_pos ha.symm]
  · rw [if_pos hb.symm]
    split <;> rfl

end Conversation

namespace Operation

theorem perform_archiveOnce {c : Conversation} {m : Memory}
    (h : m.tables.conversations[c.id]? = some c) (reason : ArchiveReason) (now : Instant) :
    (archiveOnce c reason now).perform m =
      (.ok (), { m with
        tables := m.tables.setConversation c.id (c.archiveOnce reason now) }) := by
  unfold archiveOnce Conversation.archiveOnce
  by_cases harchived : c.isArchived
  · simp [harchived, Work.pure_eq, Tables.setConversation, Rows.set_eq_self h]
  · simp [harchived, Work.run, m.perform_archiveConversation h]

theorem perform_archiveOf (a b : UserId) (reason : ArchiveReason) (now : Instant) (m : Memory)
    (hm : m.tables.Keyed) :
    (archiveOf a b reason now).perform m =
      (.ok (), { m with
        tables := m.tables.setConversation (.of a b)
          ((m.tables.conversationOf a b now).archiveOnce reason now) }) := by
  have hid := (hm.conversationOf a b now).1
  simp only [archiveOf, Work.bind_eq, Work.run, Work.call_bind, Work.done_bind, Work.perform_call,
    Memory.perform_getOrCreateConversation]
  rw [perform_archiveOnce (by simp [hid]), hid]
  simp [Tables.setConversation, Rows.set_set]

/-! ## Notifications -/

theorem perform_notify (recipient : UserId) (payload : NotificationPayload) (now : Instant)
    (m : Memory) :
    (notify recipient payload now).perform m =
      if m.rejectsNotifications then
        (.error (.error (.storage Memory.sinkError)), m)
      else
        (.ok (), { m with
          tables := m.tables.notified (.new (.fresh m.minted) recipient payload.type payload now)
          minted := m.minted + 1 }) := by
  by_cases h : m.rejectsNotifications <;>
    simp [notify, Work.bind_eq, Work.pure_eq, Work.run, m.perform_createNotification, h,
      EngineError.ofStorage, StorageError.isConflict, Memory.sinkError]

end Operation

end Courtship
