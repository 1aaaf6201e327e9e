import Courtship.Operation.FriendZone
import Courtship.Proofs.Effect.Closing

/-! What a friend request and an answer to it leave of the tables. -/

namespace Courtship

/-! ## Proposals -/

namespace Tables

/-- Whether the pair has a match that is active. -/
def isActive (t : Tables) (arrow : Arrow) : Bool :=
  t.matchRows[PairId.of arrow.actor arrow.target]?.any fun m => m.state = .active

/-- Why a proposal is turned down: the first of the reasons that applies. -/
def proposalRefusal (t : Tables) (settings : RelationshipSettings) (arrow : Arrow)
    (message : String) (now : Instant) : Option EngineError :=
  if !t.isActive arrow then some .noActiveMatch
  else if (trimmed message.toList).length < settings.minFriendRequestLength.toNat then
    some (.messageTooShort settings.minFriendRequestLength.toNat)
  else if (t.findPendingRequest arrow (.of arrow.actor arrow.target)).isSome then
    some .requestPending
  else if settings.friendRequestsPerDay.toNat ≤
      t.countRequestsSince arrow.actor now.startOfDay then
    some (.rateLimited settings.friendRequestsPerDay.toNat)
  else none

theorem isActive_eq_true {t : Tables} {arrow : Arrow} :
    t.isActive arrow = true ↔
      ∃ m, t.matchRows[PairId.of arrow.actor arrow.target]? = some m ∧ m.state = .active := by
  simp [isActive, Option.any_eq_true]

theorem proposalRefusal_eq_none {t : Tables} {settings : RelationshipSettings} {arrow : Arrow}
    {message : String} {now : Instant} :
    t.proposalRefusal settings arrow message now = none ↔
      t.isActive arrow = true ∧
        settings.minFriendRequestLength.toNat ≤ (trimmed message.toList).length ∧
        t.findPendingRequest arrow (.of arrow.actor arrow.target) = none ∧
        t.countRequestsSince arrow.actor now.startOfDay <
          settings.friendRequestsPerDay.toNat := by
  unfold proposalRefusal
  split
  · simp_all
  split
  · rename_i hshort
    simp only [reduceCtorEq, false_iff]
    rintro ⟨_, hlong, _⟩
    omega
  split
  · rename_i hpending
    simp only [reduceCtorEq, false_iff]
    rintro ⟨_, _, hnone, _⟩
    rw [hnone] at hpending
    cases hpending
  split
  · rename_i hfull
    simp only [reduceCtorEq, false_iff]
    rintro ⟨_, _, _, hquota⟩
    omega
  · simp_all

/-- The tables with a new request, of which its receiver is told under the identifier `id`. -/
def proposed (t : Tables) (r : FriendRequest) (id : Uuid) : Tables :=
  (t.setRequest r.id r).notified
    (.new id r.toUser .friendRequest (.friendRequest r.id r.matchId r.fromUser r.message)
      r.createdAt)

theorem Keyed.proposed {t : Tables} (h : t.Keyed) (id : Uuid) (a b : UserId) (message : String)
    (now : Instant) (noticeId : Uuid) :
    (t.proposed (.new id a b message now) noticeId).Keyed := by
  have hr : (FriendRequest.new id a b message now).matchId = PairId.of a b := rfl
  exact (h.setRequest ⟨rfl, hr⟩).notified _

end Tables

namespace Operation

variable (settings : RelationshipSettings) (arrow : Arrow) (message : String) (now : Instant)
  (m : Memory)

theorem perform_requireActive :
    (requireActive arrow).perform m =
      if m.tables.isActive arrow then (.ok (), m) else (.error (.error .noActiveMatch), m) := by
  cases h : m.tables.matchRows[PairId.of arrow.actor arrow.target]? with
  | none => simp [requireActive, Work.bind_eq, Work.run, Tables.isActive, h]
  | some found =>
    by_cases hactive : found.state = .active <;>
      simp [requireActive, Work.bind_eq, Work.pure_eq, Work.run, Tables.isActive, h, hactive]

theorem perform_storedMessage :
    (storedMessage settings message).perform m =
      if (trimmed message.toList).length < settings.minFriendRequestLength.toNat then
        (.error (.error (.messageTooShort settings.minFriendRequestLength.toNat)), m)
      else (.ok (String.ofList (trimmed message.toList)), m) := by
  simp only [storedMessage]
  split <;> simp [Work.pure_eq]

theorem perform_requireNonePending :
    (requireNonePending arrow).perform m =
      if (m.tables.findPendingRequest arrow (.of arrow.actor arrow.target)).isSome then
        (.error (.error .requestPending), m)
      else (.ok (), m) := by
  simp only [requireNonePending, Work.bind_eq, Work.pure_eq, Work.run, Work.call_bind,
    Work.done_bind, Work.perform_call, Memory.perform_findPendingRequest]
  split <;> simp

theorem perform_requireQuota (sender : UserId) :
    (requireQuota settings sender now).perform m =
      if settings.friendRequestsPerDay.toNat ≤
          m.tables.countRequestsSince sender now.startOfDay then
        (.error (.error (.rateLimited settings.friendRequestsPerDay.toNat)), m)
      else (.ok (), m) := by
  simp only [requireQuota, Work.bind_eq, Work.pure_eq, Work.run, Work.call_bind,
    Work.done_bind, Work.perform_call, Memory.perform_countRequestsSince]
  split <;> simp

/-- The rest of a proposal that nothing speaks against. -/
def insertProposal (arrow : Arrow) (message : String) (now : Instant) :
    Work (Ending FriendRequest) :=
  Work.fresh.bind fun id =>
    let request := FriendRequest.new id arrow.actor arrow.target message now
    (Work.run (.insertRequest request)).bind fun _ =>
      (notify arrow.target
        (.friendRequest request.id (.of arrow.actor arrow.target) arrow.actor message)
        now).bind fun _ => .done (.commit request)

theorem perform_proposeWork :
    (proposeWork settings arrow message now).perform m =
      match m.tables.proposalRefusal settings arrow message now with
      | some e => (.error (.error e), m)
      | none => (insertProposal arrow (String.ofList (trimmed message.toList)) now).perform m := by
  simp only [proposeWork, Work.bind_eq, Work.perform_bind _ _ m, perform_requireActive,
    Tables.proposalRefusal]
  by_cases hactive : m.tables.isActive arrow
  · simp only [hactive, Bool.not_true, Bool.false_eq_true, ↓reduceIte, Work.perform_bind _ _ m,
      perform_storedMessage]
    by_cases hshort : (trimmed message.toList).length < settings.minFriendRequestLength.toNat
    · simp only [hshort, ↓reduceIte]
    · simp only [hshort, ↓reduceIte, Work.perform_bind _ _ m, perform_requireNonePending]
      by_cases hpending :
        (m.tables.findPendingRequest arrow (.of arrow.actor arrow.target)).isSome
      · simp only [hpending, ↓reduceIte]
      · simp only [hpending, Bool.false_eq_true, ↓reduceIte, Work.perform_bind _ _ m,
          perform_requireQuota]
        by_cases hfull : settings.friendRequestsPerDay.toNat ≤
            m.tables.countRequestsSince arrow.actor now.startOfDay
        · simp only [hfull, ↓reduceIte]
        · simp only [hfull, ↓reduceIte]
          rfl
  · simp only [hactive, Bool.not_false, Bool.false_eq_true, ↓reduceIte]

theorem perform_insertProposal :
    (insertProposal arrow message now).perform m =
      let request := FriendRequest.new (.fresh m.minted) arrow.actor arrow.target message now
      if m.tables.requests.contains request.id then
        (.error (.error (.storageConflict (.conflict s!"friend request {request.id.text}"))),
          { m with minted := m.minted + 1 })
      else if m.rejectsNotifications then
        (.error (.error (.storage Memory.sinkError)), { m with
          tables := m.tables.setRequest request.id request
          minted := m.minted + 1 })
      else
        (.ok (.commit request), { m with
          tables := m.tables.proposed request (.fresh (m.minted + 1))
          minted := m.minted + 2 }) := by
  simp only [insertProposal, Work.perform_bind, Work.perform_fresh, Work.run, Work.perform_call,
    Memory.perform_insertRequest]
  by_cases hstored : m.tables.requests.contains (.fresh m.minted)
  · simp [FriendRequest.new, hstored, EngineError.ofStorage, StorageError.isConflict]
  · by_cases hsink : m.rejectsNotifications <;>
      simp [FriendRequest.new, hstored, hsink, perform_notify, Tables.proposed,
        NotificationPayload.type]

/-- Where the next identifier is not in use. -/
theorem perform_insertProposal_unused {m : Memory}
    (hunused : m.tables.requests[Uuid.fresh m.minted]? = none) (arrow : Arrow) (message : String)
    (now : Instant) :
    (insertProposal arrow message now).perform m =
      let request := FriendRequest.new (.fresh m.minted) arrow.actor arrow.target message now
      if m.rejectsNotifications then
        (.error (.error (.storage Memory.sinkError)), { m with
          tables := m.tables.setRequest request.id request
          minted := m.minted + 1 })
      else
        (.ok (.commit request), { m with
          tables := m.tables.proposed request (.fresh (m.minted + 1))
          minted := m.minted + 2 }) := by
  have hnew : m.tables.requests.contains (Uuid.fresh m.minted) = false := by
    rw [Rows.contains_eq, hunused]
    rfl
  rw [perform_insertProposal]
  simp only [FriendRequest.new, hnew, Bool.false_eq_true, ↓reduceIte]

theorem inUnit_proposeWork_ok {settings : RelationshipSettings} {arrow : Arrow} {message : String}
    {now : Instant} {m m' : Memory} {answer : FriendRequest}
    (h : (proposeWork settings arrow message now).inUnit m = (.ok answer, m')) :
    m.tables.proposalRefusal settings arrow message now = none ∧
      m.tables.requests[answer.id]? = none ∧
      answer = .new (.fresh m.minted) arrow.actor arrow.target
        (String.ofList (trimmed message.toList)) now ∧
      m'.tables = m.tables.proposed answer (.fresh (m.minted + 1)) := by
  rcases Work.inUnit_ok h with h | ⟨_, h, _⟩ <;> rw [perform_proposeWork] at h <;>
    split at h <;> try cases h
  all_goals
    rename_i hrefusal
    rw [perform_insertProposal] at h
    dsimp only at h
    split at h
    · cases h
    split at h <;> cases h
  rename_i hstored _
  refine ⟨hrefusal, ?_, rfl, rfl⟩
  rw [Rows.contains_eq] at hstored
  exact Option.not_isSome_iff_eq_none.1 hstored

end Operation

/-! ## Answers -/

namespace Tables

/-- The request with its match, or the first reason why `responder` may not answer it. -/
def toAnswer (t : Tables) (id : Uuid) (responder : UserId) :
    Except EngineError (FriendRequest × Match) :=
  match t.requests[id]? with
  | none => .error .requestNotFound
  | some r =>
    if r.toUser ≠ responder then .error .notAuthorized
    else if !r.isPending then .error .alreadyResponded
    else
      match t.matchRows[r.matchId]? with
      | none => .error .matchNotFound
      | some m =>
        if m.state = .active then .ok (r, m)
        else if m.state.isTerminal then .error (.alreadyTerminal m.state)
        else .error .noActiveMatch

theorem toAnswer_ok {t : Tables} {id : Uuid} {responder : UserId} {r : FriendRequest} {m : Match}
    (h : t.toAnswer id responder = .ok (r, m)) :
    t.requests[id]? = some r ∧ r.toUser = responder ∧ r.isPending = true ∧
      t.matchRows[r.matchId]? = some m ∧ m.state = .active := by
  unfold toAnswer at h
  split at h
  · cases h
  rename_i r' hr
  split at h
  · cases h
  rename_i hto
  split at h
  · cases h
  rename_i hpending
  split at h
  · cases h
  rename_i m' hm
  split at h
  · rename_i hactive
    cases h
    exact ⟨hr, by simpa using hto, by simpa using hpending, hm, hactive⟩
  · split at h <;> cases h

/-- The tables once the request `r` on the match `m` has been answered. -/
@[simps] def answered (t : Tables) (r : FriendRequest) (m : Match) (accept : Bool)
    (now : Instant) : Tables :=
  { t with
    matchRows := t.matchRows.set r.matchId
      (some (m.moved (Operation.verdict accept).1 r.toUser (Operation.verdict accept).2.1 now))
    requests :=
      ((t.setRequest r.id (r.closed (Operation.verdict accept).2.2 now)).expire r.matchId
        now).requests
    conversations :=
      if accept then t.conversations
      else t.conversations.set r.matchId
        (some ((t.conversationOf r.fromUser r.toUser now).archiveOnce .friendZoneDeclined now)) }

theorem Keyed.answered {t : Tables} (h : t.Keyed) {r : FriendRequest} {m : Match}
    (hr : t.requests[r.id]? = some r) (hm : t.matchRows[r.matchId]? = some m) (accept : Bool)
    (now : Instant) : (t.answered r m accept now).Keyed where
  like := h.like
  matchRow := of_set h.matchRow (h.moved hm _ _ _ _)
  block := h.block
  request := ((h.closed hr _ now).expire r.matchId now).request
  conversation := by
    rw [answered_conversations]
    split
    · exact h.conversation
    · refine of_set h.conversation ?_
      rw [(h.request hr).2]
      simpa using h.conversationOf r.fromUser r.toUser now

/-- The tables once the sender of the request has been told of the answer too. -/
def responded (t : Tables) (r : FriendRequest) (m : Match) (accept : Bool) (id : Uuid)
    (now : Instant) : Tables :=
  (t.answered r m accept now).notified
    (.new id r.fromUser (Operation.answerPayload accept r r.toUser).type
      (Operation.answerPayload accept r r.toUser) now)

section Responded

variable (t : Tables) (r : FriendRequest) (m : Match) (accept : Bool) (id : Uuid) (now : Instant)

@[simp] theorem responded_matchRows :
    (t.responded r m accept id now).matchRows = (t.answered r m accept now).matchRows := rfl

@[simp] theorem responded_requests :
    (t.responded r m accept id now).requests = (t.answered r m accept now).requests := rfl

@[simp] theorem responded_conversations :
    (t.responded r m accept id now).conversations =
      (t.answered r m accept now).conversations := rfl

end Responded

theorem Keyed.responded {t : Tables} (h : t.Keyed) {r : FriendRequest} {m : Match}
    (hr : t.requests[r.id]? = some r) (hm : t.matchRows[r.matchId]? = some m) (accept : Bool)
    (id : Uuid) (now : Instant) : (t.responded r m accept id now).Keyed :=
  (h.answered hr hm accept now).notified _

end Tables

namespace Operation

theorem perform_answerable (id : Uuid) (responder : UserId) (m : Memory) :
    ((answerable id responder).bind fun r => (activeMatchOf r).bind fun c =>
        Work.done (r, c)).perform m =
      match m.tables.toAnswer id responder with
      | .error e => (.error (.error e), m)
      | .ok found => (.ok found, m) := by
  cases hr : m.tables.requests[id]? with
  | none => simp [answerable, Work.bind_eq, Work.run, Tables.toAnswer, hr]
  | some r =>
    by_cases hto : r.toUser = responder
    · by_cases hpending : r.isPending
      · cases hc : m.tables.matchRows[r.matchId]? with
        | none =>
          simp [answerable, activeMatchOf, Work.bind_eq, Work.pure_eq, Work.run, Tables.toAnswer,
            hr, hto, hpending, hc]
        | some c =>
          by_cases hactive : c.state = .active
          · simp [answerable, activeMatchOf, Work.bind_eq, Work.pure_eq, Work.run,
              Tables.toAnswer, hr, hto, hpending, hc, hactive]
          · by_cases hs : c.state.isTerminal <;>
              simp [answerable, activeMatchOf, Work.bind_eq, Work.pure_eq, Work.run,
                Tables.toAnswer, hr, hto, hpending, hc, hactive, hs]
      · simp [answerable, Work.bind_eq, Work.run, Tables.toAnswer, hr, hto, hpending]
    · simp [answerable, Work.bind_eq, Work.run, Tables.toAnswer, hr, hto]

/-- The rest of an answer that nothing speaks against. -/
def recordAnswer (r : FriendRequest) (current : Match) (responder : UserId) (accept : Bool)
    (now : Instant) : Work (Ending FriendRequest) :=
  match current.transition (verdict accept).1 responder (verdict accept).2.1 now with
  | .error e => Work.reject (.ofTransition e)
  | .ok transition =>
    (Work.run (.updateMatchState transition.result)).bind fun _ =>
      (Work.run (.updateRequestStatus r.id (verdict accept).2.2 now)).bind fun _ =>
        (expirePending transition.result.id now).bind fun _ =>
          (if accept then .done ()
            else archiveOf r.fromUser r.toUser .friendZoneDeclined now).bind fun _ =>
            (notify r.fromUser (answerPayload accept r responder) now).bind fun _ =>
              .done (.commit (r.closed (verdict accept).2.2 now))

theorem respondWork_eq (id : Uuid) (responder : UserId) (accept : Bool) (now : Instant) :
    respondWork id responder accept now =
      ((answerable id responder).bind fun r => (activeMatchOf r).bind fun c =>
        Work.done (r, c)).bind fun found =>
          recordAnswer found.1 found.2 responder accept now := by
  simp only [respondWork, recordAnswer, Work.bind_eq, Work.pure_eq, Work.bind_assoc,
    Work.done_bind]
  cases accept <;> rfl

/-- The last write of an answer, in tables that have all the others. -/
theorem perform_archiveDeclined {m : Memory} (hm : m.tables.Keyed) {r : FriendRequest}
    {current : Match} (hr : m.tables.requests[r.id]? = some r)
    (hc : m.tables.matchRows[r.matchId]? = some current) (accept : Bool) (now : Instant) :
    (if accept then Work.done () else
      archiveOf r.fromUser r.toUser .friendZoneDeclined now).perform { m with tables :=
        { m.tables.answered r current accept now with
          conversations := m.tables.conversations } } =
      (.ok (), { m with tables := m.tables.answered r current accept now }) := by
  have hpair := (hm.request hr).2
  have hbefore : ({ m.tables.answered r current accept now with
      conversations := m.tables.conversations } : Tables).Keyed :=
    { hm.answered hr hc accept now with conversation := hm.conversation }
  cases accept with
  | false =>
    simp only [Bool.false_eq_true, ↓reduceIte]
    rw [perform_archiveOf _ _ _ _ _ hbefore]
    simp [Tables.setConversation, Tables.answered, Tables.conversationOf, hpair]
  | true => simp [Tables.answered]

theorem perform_recordAnswer {m : Memory} (hm : m.tables.Keyed) {r : FriendRequest}
    {current : Match} (hr : m.tables.requests[r.id]? = some r)
    (hc : m.tables.matchRows[r.matchId]? = some current) (hs : current.state = .active)
    (accept : Bool) (now : Instant) :
    (recordAnswer r current r.toUser accept now).perform m =
      if m.rejectsNotifications then
        (.error (.error (.storage Memory.sinkError)),
          { m with tables := m.tables.answered r current accept now })
      else
        (.ok (.commit (r.closed (verdict accept).2.2 now)), { m with
          tables := m.tables.responded r current accept (.fresh m.minted) now
          minted := m.minted + 1 }) := by
  have hid := (hm.matchRow hc).1
  have hpair := (hm.request hr).2
  have hinvolved : current.involves r.toUser = true := (hm.involves (hpair ▸ hc)).2
  have hcan : current.state.canBecome (verdict accept).1 = true := by
    rw [hs]
    cases accept <;> rfl
  have htransition := Match.transition_changed hinvolved (by rw [hs]; rfl) hcan
    (verdict accept).2.1 now
  have hupdate := m.perform_updateMatchState hc hid (verdict accept).1 r.toUser
    (verdict accept).2.1 now
  have hstatus := Memory.perform_updateRequestStatus
    { m with
      tables := m.tables.setMatch r.matchId
        (current.moved (verdict accept).1 r.toUser (verdict accept).2.1 now) }
    hr (verdict accept).2.2 now
  have hmoved : (m.tables.setMatch r.matchId
      (current.moved (verdict accept).1 r.toUser (verdict accept).2.1 now)).Keyed :=
    hm.setMatch (hm.moved hc _ _ _ _)
  have hclosed := hmoved.closed (r := r) hr (verdict accept).2.2 now
  have hexpire :
      (expirePending r.matchId now).perform
        { m with
          tables :=
            (m.tables.setMatch r.matchId
              (current.moved (verdict accept).1 r.toUser (verdict accept).2.1 now)).setRequest
              r.id (r.closed (verdict accept).2.2 now) } =
      (.ok (), { m with tables := { m.tables.answered r current accept now with
        conversations := m.tables.conversations } }) :=
    perform_expirePending r.matchId now _ hclosed
  have harchive := perform_archiveDeclined hm hr hc accept now
  simp only [recordAnswer, htransition, Transition.result, Work.run, Work.call_bind,
    Work.done_bind, Work.perform_call, hupdate, hid, Match.moved_id, hstatus]
  rw [Work.perform_bind_ok hexpire, Work.perform_bind_ok harchive, Work.perform_bind,
    perform_notify]
  by_cases hsink : m.rejectsNotifications <;> simp [hsink, Tables.responded]

theorem inUnit_respondWork_ok {id : Uuid} {responder : UserId} {accept : Bool} {now : Instant}
    {m m' : Memory} {answer : FriendRequest} (hm : m.tables.Keyed)
    (h : (respondWork id responder accept now).inUnit m = (.ok answer, m')) :
    ∃ r current, m.tables.toAnswer id responder = .ok (r, current) ∧
      answer = r.closed (verdict accept).2.2 now ∧
      m'.tables = m.tables.responded r current accept (.fresh m.minted) now := by
  have hchecks := perform_answerable id responder m
  cases hfound : m.tables.toAnswer id responder with
  | error e =>
    rw [hfound] at hchecks
    rcases Work.inUnit_ok h with h | ⟨_, h, _⟩ <;>
      rw [respondWork_eq, Work.perform_bind, hchecks] at h <;> cases h
  | ok found =>
    obtain ⟨r, current⟩ := found
    rw [hfound] at hchecks
    obtain ⟨hr, rfl, _, hc, hs⟩ := Tables.toAnswer_ok hfound
    obtain rfl := (hm.request hr).1
    refine ⟨r, current, rfl, ?_⟩
    rcases Work.inUnit_ok h with h | ⟨_, h, _⟩ <;>
      rw [respondWork_eq, Work.perform_bind_ok hchecks, perform_recordAnswer hm hr hc hs] at h <;>
      split at h <;> cases h
    exact ⟨rfl, rfl⟩

end Operation

end Courtship
