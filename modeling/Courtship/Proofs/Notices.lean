import Courtship.Proofs.Requests

/-! Notifications and the records that they tell of. One is added whenever a request is made or
answered and whenever a match ends in a graceful exit, by the same step that records it, and never
otherwise. So the notifications can be read off the other tables. -/

namespace Courtship

/-! ## Notices -/

/-- What a notification says, apart from its identifier. -/
structure Notice where
  recipient : UserId
  payload : NotificationPayload
  createdAt : Instant
  deriving DecidableEq

def Notification.notice (n : Notification) : Notice := ⟨n.recipient, n.payload, n.createdAt⟩

/-- What a notification is about. -/
inductive Subject where
  | request (id : Uuid)
  | answer (id : Uuid)
  | exit (pair : PairId)
  deriving DecidableEq

def NotificationPayload.subject : NotificationPayload → Subject
  | friendRequest id .. => .request id
  | friendRequestAccepted id .. | friendRequestDeclined id .. => .answer id
  | gracefulExit pair _ => .exit pair

namespace FriendRequest

/-- What the receiver is told of the request. -/
def notice (r : FriendRequest) : Notice :=
  ⟨r.toUser, .friendRequest r.id r.matchId r.fromUser r.message, r.createdAt⟩

/-- What the sender is told of the answer, if there is one. -/
def answerNotice? (r : FriendRequest) : Option Notice :=
  match r.status, r.respondedAt with
  | .accepted, some time =>
    some ⟨r.fromUser, .friendRequestAccepted r.id r.matchId r.toUser, time⟩
  | .declined, some time =>
    some ⟨r.fromUser, .friendRequestDeclined r.id r.matchId r.toUser, time⟩
  | _, _ => none

theorem answerNotice?_of_pending {r : FriendRequest} (h : r.status = .pending) :
    r.answerNotice? = none := by
  rw [answerNotice?, h]

theorem answerNotice?_of_answered {r : FriendRequest} {accept : Bool} {time : Instant}
    (hs : r.status = (Operation.verdict accept).2.2) (htime : r.respondedAt = some time) :
    r.answerNotice? = some ⟨r.fromUser, Operation.answerPayload accept r r.toUser, time⟩ := by
  rw [answerNotice?, hs, htime]
  cases accept <;> rfl

/-- An expiry says nothing. -/
theorem notice_expiredOn (r : FriendRequest) (pair : PairId) (now : Instant) :
    (r.expiredOn pair now).notice = r.notice := by
  unfold expiredOn
  split <;> rfl

theorem answerNotice?_expiredOn (r : FriendRequest) (pair : PairId) (now : Instant) :
    (r.expiredOn pair now).answerNotice? = r.answerNotice? := by
  rcases r.expiredOn_eq_or pair now with hsame | ⟨hpending, _, hclosed⟩
  · rw [hsame]
  · rw [hclosed, answerNotice?_of_pending hpending]
    rfl

end FriendRequest

namespace Match

/-- The one of the two users that is not this one. -/
def other (m : Match) (user : UserId) : UserId := if m.userA = user then m.userB else m.userA

/-- What the other user is told of a graceful exit. -/
def exitNotice? (m : Match) : Option Notice :=
  match m.state, m.endedBy with
  | .gracefulExit, some user => some ⟨m.other user, .gracefulExit m.id user, m.stateChangedAt⟩
  | _, _ => none

theorem exitNotice?_of_ne {m : Match} (h : m.state ≠ .gracefulExit) : m.exitNotice? = none := by
  unfold exitNotice?
  split
  · contradiction
  · rfl

theorem exitNotice?_of_not_ended {m : Match} (h : m.state.isTerminal = false) :
    m.exitNotice? = none := by
  apply exitNotice?_of_ne
  intro hs
  rw [hs] at h
  cases h

theorem Lawful.other_eq {m : Match} {a b : UserId} (h : m.Lawful (.of a b)) : m.other a = b := by
  have horder := h.order
  unfold other
  rcases PairId.of_eq_iff.1 h.users with ⟨rfl, rfl⟩ | ⟨rfl, rfl⟩
  · rw [if_pos rfl]
  · rw [if_neg]
    intro hsame
    rw [hsame] at horder
    omega

theorem exitNotice?_exited {m : Match} {a b : UserId} (h : m.Lawful (.of a b)) (now : Instant) :
    (m.moved .gracefulExit a (some .gracefulExit) now).exitNotice? =
      some ⟨b, .gracefulExit (.of a b) a, now⟩ := by
  have hother : (m.moved .gracefulExit a (some .gracefulExit) now).other a = b := by
    rw [other, moved_userA, moved_userB]
    exact h.other_eq
  have hnotice : (m.moved .gracefulExit a (some .gracefulExit) now).exitNotice? =
      some ⟨(m.moved .gracefulExit a (some .gracefulExit) now).other a,
        .gracefulExit m.id a, now⟩ := rfl
  rw [hnotice, hother, h.id]

end Match

namespace Tables

/-- What there is to be told of a subject. -/
def notice? (t : Tables) : Subject → Option Notice
  | .request id => t.requests[id]?.map FriendRequest.notice
  | .answer id => t.requests[id]?.bind FriendRequest.answerNotice?
  | .exit pair => t.matchRows[pair]?.bind Match.exitNotice?

/-- The notifications about a subject. -/
def about (t : Tables) (subject : Subject) : List Notification :=
  t.notifications.filter fun n => n.payload.subject = subject

/-- Each notification is of the type of its payload, and of each subject there is told what there
is to be told, once. -/
structure Announced (t : Tables) : Prop where
  typed : ∀ n ∈ t.notifications, n.type = n.payload.type
  told : ∀ subject : Subject,
    (t.about subject).map Notification.notice = (t.notice? subject).toList

/-! ## Steps -/

/-- Nothing new is told, or one thing that there was nothing to be told of before. -/
inductive Announcing (t t' : Tables) : Prop
  | silent (hnotices : ∀ subject, t'.notice? subject = t.notice? subject)
      (hnotifications : t'.notifications = t.notifications)
  | announced (n : Notification) (htype : n.type = n.payload.type)
      (hnew : t.notice? n.payload.subject = none)
      (htold : t'.notice? n.payload.subject = some n.notice)
      (hothers : ∀ subject, n.payload.subject ≠ subject → t'.notice? subject = t.notice? subject)
      (hnotifications : t'.notifications = t.notifications ++ [n])

variable {t t' : Tables}

theorem Announced.announcing (ht : t.Announced) (h : t.Announcing t') : t'.Announced := by
  cases h with
  | silent hnotices hnotifications =>
    refine ⟨?_, ?_⟩
    · rw [hnotifications]
      exact ht.typed
    · intro subject
      rw [about, hnotifications, hnotices]
      exact ht.told subject
  | announced n htype hnew htold hothers hnotifications =>
    refine ⟨?_, ?_⟩
    · intro other hother
      rw [hnotifications, List.mem_append, List.mem_singleton] at hother
      rcases hother with hother | rfl
      · exact ht.typed other hother
      · exact htype
    · intro subject
      have hbefore := ht.told subject
      rw [about] at hbefore ⊢
      rw [hnotifications, List.filter_append, List.map_append, hbefore]
      -- The new one is the first about its subject, and about others nothing changes.
      by_cases hsubject : n.payload.subject = subject
      · subst hsubject
        simp [hnew, htold]
      · simp [hsubject, hothers subject hsubject]

/-! ### Silent steps -/

theorem Passing.exitNotice?_eq {c : Command} {found later : Option Match}
    (h : Passing c found later) (hc : ∀ arrow, c ≠ .gracefulExit arrow) :
    later.bind Match.exitNotice? = found.bind Match.exitNotice? := by
  cases h with
  | same => rfl
  | begun m hs =>
    rw [Option.bind_some, Match.exitNotice?_of_ne (by simp [hs])]
    rfl
  | ended m later hs _ _ hexit =>
    have hother : later.state ≠ .gracefulExit := by
      intro hexited
      obtain ⟨arrow, harrow⟩ := hexit hexited
      exact hc arrow harrow
    rw [Option.bind_some, Option.bind_some, Match.exitNotice?_of_ne hother,
      Match.exitNotice?_of_not_ended hs]

/-- The close of requests without an answer says nothing about them. -/
theorem Unanswered.notice?_eq {c : Command} (h : Unanswered c t t') {subject : Subject}
    (hsubject : ∀ pair, subject = .exit pair → ∀ arrow, c ≠ .gracefulExit arrow) :
    t'.notice? subject = t.notice? subject := by
  cases subject with
  | request id =>
    rcases h.requests with hsame | ⟨pair, now, hexpired, _⟩
    · rw [notice?, hsame, notice?]
    · rw [notice?, hexpired, getElem?_expire, Option.map_map, notice?]
      congr 1
      funext r
      exact r.notice_expiredOn pair now
  | answer id =>
    rcases h.requests with hsame | ⟨pair, now, hexpired, _⟩
    · rw [notice?, hsame, notice?]
    · rw [notice?, hexpired, getElem?_expire, Option.bind_map, notice?]
      congr 1
      funext r
      exact r.answerNotice?_expiredOn pair now
  | exit pair => exact (h.matchRows pair).exitNotice?_eq (hsubject pair rfl)

/-! ### Steps that tell of something -/

section Proposed

variable {r : FriendRequest} (hpending : r.status = .pending) (hfree : t.requests[r.id]? = none)
  (noticeId : Uuid)

include hpending hfree

theorem notice?_proposed_of_ne {subject : Subject} (hother : .request r.id ≠ subject) :
    (t.proposed r noticeId).notice? subject = t.notice? subject := by
  cases subject with
  | request id =>
    have hid : r.id ≠ id := fun hid => hother (congrArg Subject.request hid)
    rw [notice?, getElem?_proposed_requests, if_neg hid, notice?]
  | answer id =>
    rw [notice?, getElem?_proposed_requests, notice?]
    split
    · rename_i hid
      rw [← hid, hfree, Option.bind_some, FriendRequest.answerNotice?_of_pending hpending]
      rfl
    · rfl
  | exit pair => rfl

theorem announcing_proposed : t.Announcing (t.proposed r noticeId) := by
  refine .announced (.new noticeId r.toUser .friendRequest
    (.friendRequest r.id r.matchId r.fromUser r.message) r.createdAt) rfl ?_ ?_ ?_ rfl
  · change t.requests[r.id]?.map _ = none
    rw [hfree, Option.map_none]
  · change (t.proposed r noticeId).requests[r.id]?.map _ = _
    rw [getElem?_proposed_requests, if_pos rfl]
    rfl
  · intro subject hother
    exact notice?_proposed_of_ne hpending hfree noticeId hother

end Proposed

section Responded

variable {r : FriendRequest} {m : Match} (hr : t.requests[r.id]? = some r)
  (hm : t.matchRows[r.matchId]? = some m) (hs : m.state = .active) (accept : Bool)
  (noticeId : Uuid) (now : Instant)

include hr hm hs

theorem notice?_responded_of_ne {subject : Subject} (hother : .answer r.id ≠ subject) :
    (t.responded r m accept noticeId now).notice? subject = t.notice? subject := by
  cases subject with
  | request id =>
    rw [notice?, getElem?_responded_requests, notice?]
    split
    · rename_i hid
      rw [← hid, hr]
      rfl
    · rw [Option.map_map]
      congr 1
      funext other
      exact other.notice_expiredOn r.matchId now
  | answer id =>
    have hid : r.id ≠ id := fun hid => hother (congrArg Subject.answer hid)
    rw [notice?, getElem?_responded_requests, if_neg hid, Option.bind_map, notice?]
    congr 1
    funext other
    exact other.answerNotice?_expiredOn r.matchId now
  | exit pair =>
    rw [notice?, responded_matchRows, answered_matchRows, Rows.get?_set, notice?]
    split
    · rename_i hpair
      have hbefore : m.exitNotice? = none := Match.exitNotice?_of_ne (by simp [hs])
      rw [← hpair, hm, Option.bind_some, Option.bind_some, hbefore]
      apply Match.exitNotice?_of_ne
      rw [Match.moved_state]
      cases accept <;> simp [Operation.verdict]
    · rfl

theorem announcing_responded (hpending : r.status = .pending) :
    t.Announcing (t.responded r m accept noticeId now) := by
  have hsubject : (Operation.answerPayload accept r r.toUser).subject = .answer r.id := by
    cases accept <;> rfl
  refine .announced (.new noticeId r.fromUser (Operation.answerPayload accept r r.toUser).type
    (Operation.answerPayload accept r r.toUser) now) rfl ?_ ?_ ?_ rfl
  · change t.notice? (Operation.answerPayload accept r r.toUser).subject = none
    rw [hsubject, notice?, hr, Option.bind_some, FriendRequest.answerNotice?_of_pending hpending]
  · change (t.responded r m accept noticeId now).notice?
      (Operation.answerPayload accept r r.toUser).subject = _
    rw [hsubject, notice?, getElem?_responded_requests, if_pos rfl, Option.bind_some]
    exact FriendRequest.answerNotice?_of_answered rfl rfl
  · intro subject hother
    change (Operation.answerPayload accept r r.toUser).subject ≠ subject at hother
    rw [hsubject] at hother
    exact notice?_responded_of_ne hr hm hs accept noticeId now hother

end Responded

section Exited

variable {arrow : Arrow} {m : Match}
  (hm : t.matchRows[PairId.of arrow.actor arrow.target]? = some m)
  (hs : m.state.isTerminal = false) (noticeId : Uuid) (now : Instant)

include hm hs

theorem notice?_exited_of_ne {subject : Subject}
    (hother : .exit (.of arrow.actor arrow.target) ≠ subject) :
    (t.exited arrow m noticeId now).notice? subject = t.notice? subject := by
  have hleft : Unanswered (.gracefulExit arrow) t
      (t.left arrow m .gracefulExit .gracefulExit now) :=
    unanswered_left hm hs rfl (by simp) now fun _ => ⟨arrow, rfl⟩
  change (t.left arrow m .gracefulExit .gracefulExit now).notice? subject = _
  cases subject with
  | request id => exact hleft.notice?_eq (by simp)
  | answer id => exact hleft.notice?_eq (by simp)
  | exit pair =>
    have hpair : PairId.of arrow.actor arrow.target ≠ pair :=
      fun hpair => hother (congrArg Subject.exit hpair)
    rw [notice?, left_matchRows, Rows.getElem?_set_of_ne _ hpair, notice?]

theorem announcing_exited (hlawful : m.Lawful (.of arrow.actor arrow.target)) :
    t.Announcing (t.exited arrow m noticeId now) := by
  refine .announced (.new noticeId arrow.target .gracefulExit
    (.gracefulExit (.of arrow.actor arrow.target) arrow.actor) now) rfl ?_ ?_ ?_ rfl
  · change t.matchRows[PairId.of arrow.actor arrow.target]?.bind _ = none
    rw [hm, Option.bind_some, Match.exitNotice?_of_not_ended hs]
  · change (t.left arrow m .gracefulExit .gracefulExit now).matchRows[
      PairId.of arrow.actor arrow.target]?.bind _ = _
    rw [left_matchRows, Rows.getElem?_set_self, Option.bind_some,
      Match.exitNotice?_exited hlawful]
    rfl
  · intro subject hother
    exact notice?_exited_of_ne hm hs noticeId now hother

end Exited

end Tables

/-! ## Effects and runs -/

theorem Effect.announcing {settings : Settings} {readings : Readings} {t t' : Tables} {c : Command}
    {answer : c.Answer} (h : Effect settings readings t c answer t') (ht : t.Keyed)
    (hlawful : ∀ {pair : PairId} {m : Match}, t.matchRows[pair]? = some m → m.Lawful pair) :
    t.Announcing t' := by
  cases c with
  | propose arrow message =>
    cases h with
    | propose _ _ id noticeId _ _ hfree => exact Tables.announcing_proposed rfl hfree noticeId
  | respond requestId responder accept =>
    cases h with
    | respond _ noticeId _ _ r current hfound =>
      obtain ⟨hr, _, hpending, hm, hs⟩ := Tables.toAnswer_ok hfound
      obtain rfl := (ht.request hr).1
      exact Tables.announcing_responded hr hm hs accept noticeId _
        (FriendRequest.isPending_eq_true.1 hpending)
  | gracefulExit arrow =>
    cases h with
    | exitAgain => exact .silent (fun _ => rfl) rfl
    | exit _ current noticeId hm hs =>
      exact Tables.announcing_exited hm hs noticeId _ (hlawful hm)
  | swipe | undoLastSwipe | unmatch | block | unblock =>
    have hstep := h.unanswered (by simp) (by simp)
    refine .silent (fun _ => hstep.notice?_eq (by simp)) ?_
    cases h
    rfl

/-! ## What notifications tell -/

namespace Match

/-- A graceful exit is told to the user who did not bring it about. -/
theorem Lawful.exists_exitNotice? {m : Match} {pair : PairId} (h : m.Lawful pair)
    (hs : m.state = .gracefulExit) :
    ∃ user other, m.endedBy = some user ∧ user ≠ other ∧
      (m.userA = user ∧ m.userB = other ∨ m.userB = user ∧ m.userA = other) ∧
      m.exitNotice? = some ⟨other, .gracefulExit m.id user, m.stateChangedAt⟩ := by
  have hne : m.userA ≠ m.userB := by
    intro hsame
    have horder := h.order
    rw [hsame] at horder
    omega
  have hfits := h.fits
  rw [Fits, hs] at hfits
  have hnotice : ∀ user, m.endedBy = some user →
      m.exitNotice? = some ⟨m.other user, .gracefulExit m.id user, m.stateChangedAt⟩ := by
    intro user huser
    rw [exitNotice?, hs, huser]
  rcases hfits.2 with huser | huser
  · refine ⟨m.userA, m.userB, huser, hne, .inl ⟨rfl, rfl⟩, ?_⟩
    rw [hnotice _ huser, other, if_pos rfl]
  · refine ⟨m.userB, m.userA, huser, hne.symm, .inr ⟨rfl, rfl⟩, ?_⟩
    rw [hnotice _ huser, other, if_neg hne]

end Match

namespace Tables

/-- Whether that is stored which a notification with this payload tells of. -/
def Records (t : Tables) : NotificationPayload → Prop
  | .friendRequest id .. => ∃ r, t.requests[id]? = some r
  | .friendRequestAccepted id .. => ∃ r, t.requests[id]? = some r ∧ r.status = .accepted
  | .friendRequestDeclined id .. => ∃ r, t.requests[id]? = some r ∧ r.status = .declined
  | .gracefulExit pair _ => ∃ m, t.matchRows[pair]? = some m ∧ m.state = .gracefulExit

theorem records_of_notice? {t : Tables} {notice : Notice}
    (h : t.notice? notice.payload.subject = some notice) : t.Records notice.payload := by
  obtain ⟨recipient, payload, createdAt⟩ := notice
  cases payload with
  | friendRequest id =>
    obtain ⟨r, hr, _⟩ := Option.map_eq_some_iff.1 h
    exact ⟨r, hr⟩
  | friendRequestAccepted id =>
    obtain ⟨r, hr, hnotice⟩ := Option.bind_eq_some_iff.1 h
    unfold FriendRequest.answerNotice? at hnotice
    split at hnotice <;> cases hnotice
    exact ⟨r, hr, by assumption⟩
  | friendRequestDeclined id =>
    obtain ⟨r, hr, hnotice⟩ := Option.bind_eq_some_iff.1 h
    unfold FriendRequest.answerNotice? at hnotice
    split at hnotice <;> cases hnotice
    exact ⟨r, hr, by assumption⟩
  | gracefulExit pair =>
    obtain ⟨m, hm, hnotice⟩ := Option.bind_eq_some_iff.1 h
    unfold Match.exitNotice? at hnotice
    split at hnotice <;> cases hnotice
    exact ⟨m, hm, by assumption⟩

namespace Announced

variable {t : Tables}

theorem exists_about (h : t.Announced) {subject : Subject} {notice : Notice}
    (hnotice : t.notice? subject = some notice) :
    ∃ n, t.about subject = [n] ∧ n.type = notice.payload.type ∧ n.recipient = notice.recipient ∧
      n.payload = notice.payload ∧ n.createdAt = notice.createdAt := by
  have htold := h.told subject
  rw [hnotice, Option.toList_some, List.map_eq_singleton_iff] at htold
  obtain ⟨n, habout, rfl⟩ := htold
  have hmem : n ∈ t.about subject := by rw [habout]; exact List.mem_singleton_self n
  exact ⟨n, habout, h.typed n (List.mem_filter.1 hmem).1, rfl, rfl, rfl⟩

theorem exists_about_answer (h : t.Announced) (hrecorded : t.Recorded) {id : Uuid}
    {r : FriendRequest} (hr : t.requests[id]? = some r) (accept : Bool)
    (hs : r.status = (Operation.verdict accept).2.2) :
    ∃ n, t.about (.answer id) = [n] ∧
      n.type = (Operation.answerPayload accept r r.toUser).type ∧ n.recipient = r.fromUser ∧
      n.payload = Operation.answerPayload accept r r.toUser ∧
      r.respondedAt = some n.createdAt := by
  have hclosed : r.respondedAt ≠ none := by
    rw [ne_eq, hrecorded.respondedAt hr, hs]
    cases accept <;> simp [Operation.verdict]
  obtain ⟨time, htime⟩ := Option.ne_none_iff_exists'.1 hclosed
  have hnotice : t.notice? (.answer id) =
      some ⟨r.fromUser, Operation.answerPayload accept r r.toUser, time⟩ := by
    rw [notice?, hr, Option.bind_some, FriendRequest.answerNotice?_of_answered hs htime]
  obtain ⟨n, habout, htype, hrecipient, hpayload, hcreated⟩ := h.exists_about hnotice
  exact ⟨n, habout, htype, hrecipient, hpayload, by rw [htime, hcreated]⟩

theorem records (h : t.Announced) {n : Notification} (hn : n ∈ t.notifications) :
    t.Records n.payload := by
  have hmem : n.notice ∈ (t.about n.payload.subject).map Notification.notice :=
    List.mem_map_of_mem (List.mem_filter.2 ⟨hn, decide_eq_true rfl⟩)
  rw [h.told, Option.mem_toList] at hmem
  have hrecords : t.Records n.notice.payload := records_of_notice? hmem
  exact hrecords

end Announced

end Tables

namespace World

theorem announced_run (settings : Settings) (events : List Event) :
    (run settings events).memory.tables.Announced := by
  refine run_induction (P := fun t _ => t.Announced) ?_ ?_ ?_ events
  · refine ⟨by simp [Tables.empty], ?_⟩
    rintro (_ | _ | _) <;> simp [Tables.about, Tables.empty, Tables.notice?]
  · exact fun _ _ _ _ ih => ih
  · intro events t' c readings answer ih heffect
    exact ih.announcing (heffect.announcing (sound_run events).keyed (lawful_run events))

/-- **Notifications tell of records.** In every run there is exactly one notification of each stored
request, to its receiver; exactly one of each answer, to the sender of the request; exactly one of
each match in a graceful exit, to the user who did not bring it about; and no other. Each says what
is on record, was created at the time of it, and is of the type of its payload. -/
theorem notifications_tell_records (settings : Settings) (events : List Event) :
    let t := (run settings events).memory.tables
    (∀ (id : Uuid) (r : FriendRequest), t.requests[id]? = some r →
      ∃ n, t.about (.request id) = [n] ∧ n.type = .friendRequest ∧ n.recipient = r.toUser ∧
        n.payload = .friendRequest r.id r.matchId r.fromUser r.message ∧
        n.createdAt = r.createdAt) ∧
    (∀ (id : Uuid) (r : FriendRequest), t.requests[id]? = some r → r.status = .accepted →
      ∃ n, t.about (.answer id) = [n] ∧ n.type = .friendRequestAccepted ∧
        n.recipient = r.fromUser ∧
        n.payload = .friendRequestAccepted r.id r.matchId r.toUser ∧
        r.respondedAt = some n.createdAt) ∧
    (∀ (id : Uuid) (r : FriendRequest), t.requests[id]? = some r → r.status = .declined →
      ∃ n, t.about (.answer id) = [n] ∧ n.type = .friendRequestDeclined ∧
        n.recipient = r.fromUser ∧
        n.payload = .friendRequestDeclined r.id r.matchId r.toUser ∧
        r.respondedAt = some n.createdAt) ∧
    (∀ (pair : PairId) (m : Match), t.matchRows[pair]? = some m → m.state = .gracefulExit →
      ∃ user other n, m.endedBy = some user ∧ user ≠ other ∧
        (m.userA = user ∧ m.userB = other ∨ m.userB = user ∧ m.userA = other) ∧
        t.about (.exit pair) = [n] ∧ n.type = .gracefulExit ∧ n.recipient = other ∧
        n.payload = .gracefulExit m.id user ∧ n.createdAt = m.stateChangedAt) ∧
    (∀ n ∈ t.notifications, n.type = n.payload.type ∧ t.Records n.payload) := by
  intro t
  have hannounced : t.Announced := announced_run settings events
  have hrecorded : t.Recorded := recorded_run settings events
  refine ⟨?_, ?_, ?_, ?_, ?_⟩
  · intro id r hr
    have hnotice : t.notice? (.request id) = some r.notice := by
      rw [Tables.notice?, hr, Option.map_some]
    exact hannounced.exists_about hnotice
  · intro id r hr haccepted
    exact hannounced.exists_about_answer hrecorded hr true haccepted
  · intro id r hr hdeclined
    exact hannounced.exists_about_answer hrecorded hr false hdeclined
  · intro pair m hm hs
    obtain ⟨user, other, hended, hne, husers, hexit⟩ :=
      (lawful_run events hm).exists_exitNotice? hs
    have hnotice : t.notice? (.exit pair) =
        some ⟨other, .gracefulExit m.id user, m.stateChangedAt⟩ := by
      rw [Tables.notice?, hm, Option.bind_some, hexit]
    obtain ⟨n, habout, hn⟩ := hannounced.exists_about hnotice
    exact ⟨user, other, n, hended, hne, husers, habout, hn⟩
  · intro n hn
    exact ⟨hannounced.typed n hn, hannounced.records hn⟩

/-- One request is accepted and the friendship ends in a graceful exit, which is repeated; another
request is declined. -/
def parted : List Event :=
  inTurn .epoch [.swipe ⟨.ofNat 1, .ofNat 2⟩ .like, .swipe ⟨.ofNat 2, .ofNat 1⟩ .like,
    .propose ⟨.ofNat 1, .ofNat 2⟩ "let us be friends", .respond (.fresh 2) (.ofNat 2) true,
    .gracefulExit ⟨.ofNat 2, .ofNat 1⟩, .gracefulExit ⟨.ofNat 1, .ofNat 2⟩,
    .swipe ⟨.ofNat 1, .ofNat 3⟩ .like, .swipe ⟨.ofNat 3, .ofNat 1⟩ .like,
    .propose ⟨.ofNat 1, .ofNat 3⟩ "let us be friends", .respond (.fresh 8) (.ofNat 3) false]

theorem parted_leaves :
    let t := (run {} parted).memory.tables
    t.requests[Uuid.fresh 2]? =
        some ((FriendRequest.new (.fresh 2) (.ofNat 1) (.ofNat 2) "let us be friends"
          .epoch).closed .accepted .epoch) ∧
      t.requests[Uuid.fresh 8]? =
        some ((FriendRequest.new (.fresh 8) (.ofNat 1) (.ofNat 3) "let us be friends"
          .epoch).closed .declined .epoch) ∧
      t.matchRows[PairId.of (.ofNat 1) (.ofNat 2)]? =
        some (((Match.new (.ofNat 1) (.ofNat 2) .epoch).moved .friends (.ofNat 2) none
          .epoch).moved .gracefulExit (.ofNat 2) (some .gracefulExit) .epoch) ∧
      t.notifications.length = 5 := by
  decide +kernel

theorem notifications_tell_records_parted :
    let t := (run {} parted).memory.tables
    (∃ n, t.about (.request (.fresh 2)) = [n] ∧ n.recipient = .ofNat 2) ∧
      (∃ n, t.about (.answer (.fresh 2)) = [n] ∧ n.type = .friendRequestAccepted) ∧
      (∃ n, t.about (.answer (.fresh 8)) = [n] ∧ n.type = .friendRequestDeclined) ∧
      (∃ n, t.about (.exit (.of (.ofNat 1) (.ofNat 2))) = [n] ∧ n.recipient = .ofNat 1) ∧
      t.notifications.length = 5 := by
  obtain ⟨haccepted, hdeclined, hmatch, hcount⟩ := parted_leaves
  obtain ⟨hrequests, haccepts, hdeclines, hexits, _⟩ := notifications_tell_records {} parted
  refine ⟨?_, ?_, ?_, ?_, hcount⟩
  · obtain ⟨n, habout, _, hrecipient, _⟩ := hrequests _ _ haccepted
    exact ⟨n, habout, hrecipient⟩
  · obtain ⟨n, habout, htype, _⟩ := haccepts _ _ haccepted rfl
    exact ⟨n, habout, htype⟩
  · obtain ⟨n, habout, htype, _⟩ := hdeclines _ _ hdeclined rfl
    exact ⟨n, habout, htype⟩
  · obtain ⟨user, other, n, hended, _, husers, habout, _, hrecipient, _⟩ := hexits _ _ hmatch rfl
    cases hended
    rcases husers with ⟨huser, _⟩ | ⟨_, hother⟩
    · cases huser
    · exact ⟨n, habout, hrecipient.trans hother.symm⟩

end World

end Courtship
