import Courtship.Proofs.Requests

/-! Answers to friend requests, and the matches that they decide. One request of a match at most is
answered. A match is a friendship, or has ended over a request, by such an answer only. -/

namespace Courtship

/-! ## Records -/

namespace FriendRequest

/-- Whether the receiver has answered, with a yes or a no. -/
def IsAnswered (r : FriendRequest) : Prop := r.status = .accepted ∨ r.status = .declined

theorem IsAnswered.not_pending {r : FriendRequest} (h : r.IsAnswered) : r.status ≠ .pending := by
  rcases h with h | h <;> rw [h] <;> simp

theorem not_isAnswered_expired (r : FriendRequest) (now : Instant) :
    ¬(r.closed .expired now).IsAnswered := by
  simp [IsAnswered, closed]

end FriendRequest

theorem Match.Lawful.endReason_eq_none {m : Match} {pair : PairId} (h : m.Lawful pair)
    (hs : m.state.isTerminal = false) : m.endReason = none := by
  have hfits := h.fits
  unfold Match.Fits at hfits
  cases hstate : m.state <;> rw [hstate] at hs hfits
  case active => exact hfits.1
  case friends => exact hfits.1
  all_goals cases hs

namespace Tables

variable {t t' : Tables}

/-! ## The requests that are answered -/

/-- The same requests are answered, in the same way. -/
def SameAnswers (t t' : Tables) : Prop :=
  ∀ ⦃id : Uuid⦄ ⦃r : FriendRequest⦄, r.IsAnswered →
    (t'.requests[id]? = some r ↔ t.requests[id]? = some r)

theorem Unanswered.sameAnswers {c : Command} (h : Unanswered c t t') : t.SameAnswers t' := by
  intro id r hr
  constructor
  · intro hlater
    rcases h.requests with hsame | ⟨pair, now, hexpired, _⟩
    · rwa [hsame] at hlater
    · rw [hexpired, getElem?_expire, Option.map_eq_some_iff] at hlater
      obtain ⟨before, hbefore, rfl⟩ := hlater
      rcases before.expiredOn_eq_or pair now with hsame | ⟨_, _, hclosed⟩
      · rwa [hsame]
      · rw [hclosed] at hr
        exact absurd hr (before.not_isAnswered_expired now)
  · intro hbefore
    exact h.kept hbefore hr.not_pending

theorem sameAnswers_proposed {r : FriendRequest} (hpending : r.status = .pending)
    (hfree : t.requests[r.id]? = none) (noticeId : Uuid) :
    t.SameAnswers (t.proposed r noticeId) := by
  intro id other hanswered
  constructor
  · intro hlater
    rw [getElem?_proposed_requests] at hlater
    split at hlater
    · cases hlater
      exact absurd hpending hanswered.not_pending
    · exact hlater
  · exact kept_proposed hfree noticeId

/-- Whether a request on the match has this status. -/
def HasRequest (t : Tables) (pair : PairId) (status : FriendRequestStatus) : Prop :=
  ∃ (id : Uuid) (r : FriendRequest),
    t.requests[id]? = some r ∧ r.matchId = pair ∧ r.status = status

theorem Recorded.isSome_match (h : t.Recorded) {pair : PairId} {status : FriendRequestStatus}
    (hrequest : t.HasRequest pair status) : t.matchRows[pair]?.isSome = true := by
  obtain ⟨id, r, hr, rfl, _⟩ := hrequest
  obtain ⟨m, hm, _⟩ := h.onMatch hr
  rw [hm]
  rfl

/-- What the answers to requests have to do with the matches. -/
structure Decided (t : Tables) : Prop where
  once : ∀ {id id' : Uuid} {r r' : FriendRequest}, t.requests[id]? = some r →
    t.requests[id']? = some r' → r.matchId = r'.matchId → r.IsAnswered → r'.IsAnswered → id = id'
  befriended : ∀ {pair : PairId} {m : Match}, t.matchRows[pair]? = some m → m.state = .friends →
    t.HasRequest pair .accepted
  declined : ∀ {pair : PairId} {m : Match}, t.matchRows[pair]? = some m →
    (m.endReason = some .friendZoneDeclined ↔ t.HasRequest pair .declined)

/-- No request on an active match has been answered. -/
theorem Recorded.not_answered (h : t.Recorded) {pair : PairId} {m : Match}
    (hm : t.matchRows[pair]? = some m) (hs : m.state = .active) {id : Uuid} {r : FriendRequest}
    (hr : t.requests[id]? = some r) (hanswered : r.IsAnswered) : r.matchId ≠ pair := by
  rintro rfl
  obtain ⟨m', hm', hwaits⟩ := h.onMatch hr
  rw [hm] at hm'
  cases hm'
  exact hanswered.not_pending (hwaits hs)

theorem SameAnswers.hasRequest_iff (h : t.SameAnswers t') {status : FriendRequestStatus}
    (hstatus : status = .accepted ∨ status = .declined) (pair : PairId) :
    t'.HasRequest pair status ↔ t.HasRequest pair status := by
  constructor <;> rintro ⟨id, r, hr, hpair, rfl⟩
  · exact ⟨id, r, (h hstatus).1 hr, hpair, rfl⟩
  · exact ⟨id, r, (h hstatus).2 hr, hpair, rfl⟩

section Responded

variable {r : FriendRequest} {m : Match} (h : t.Recorded) (hr : t.requests[r.id]? = some r)
  (hpending : r.status = .pending) (hm : t.matchRows[r.matchId]? = some m)
  (hs : m.state = .active) (accept : Bool) (noticeId : Uuid) (now : Instant)

include h hm hs

/-- The only request of its match with an answer is the one just answered. -/
theorem answered_responded {id : Uuid} {later : FriendRequest}
    (hlater : (t.responded r m accept noticeId now).requests[id]? = some later)
    (hanswered : later.IsAnswered) :
    r.id = id ∧ later = r.closed (Operation.verdict accept).2.2 now ∨
      t.requests[id]? = some later ∧ later.matchId ≠ r.matchId := by
  rw [getElem?_responded_requests] at hlater
  split at hlater
  · rename_i hid
    cases hlater
    exact .inl ⟨hid, rfl⟩
  · obtain ⟨other, hother, rfl⟩ := Option.map_eq_some_iff.1 hlater
    rcases other.expiredOn_eq_or r.matchId now with hsame | ⟨_, _, hclosed⟩
    · rw [hsame] at hanswered ⊢
      exact .inr ⟨hother, h.not_answered hm hs hother hanswered⟩
    · rw [hclosed] at hanswered
      exact absurd hanswered (other.not_isAnswered_expired now)

theorem hasRequest_responded_self {status : FriendRequestStatus}
    (hstatus : status = .accepted ∨ status = .declined) :
    (t.responded r m accept noticeId now).HasRequest r.matchId status ↔
      (Operation.verdict accept).2.2 = status := by
  constructor
  · rintro ⟨id, later, hlater, hpair, rfl⟩
    rcases answered_responded h hm hs accept noticeId now hlater hstatus with
      ⟨_, rfl⟩ | ⟨_, hother⟩
    · rfl
    · exact absurd hpair hother
  · rintro rfl
    refine ⟨r.id, r.closed (Operation.verdict accept).2.2 now, ?_, rfl, rfl⟩
    rw [getElem?_responded_requests, if_pos rfl]

include hr hpending

theorem hasRequest_responded_of_ne {status : FriendRequestStatus}
    (hstatus : status = .accepted ∨ status = .declined) {pair : PairId} (hne : r.matchId ≠ pair) :
    (t.responded r m accept noticeId now).HasRequest pair status ↔ t.HasRequest pair status := by
  constructor <;> rintro ⟨id, other, hother, rfl, rfl⟩
  · rcases answered_responded h hm hs accept noticeId now hother hstatus with
      ⟨_, rfl⟩ | ⟨hbefore, _⟩
    · exact absurd rfl hne
    · exact ⟨id, other, hbefore, rfl, rfl⟩
  · have hclosed : other.status ≠ .pending := FriendRequest.IsAnswered.not_pending hstatus
    exact ⟨id, other, kept_responded hr hpending m accept noticeId now hother hclosed, rfl, rfl⟩

end Responded

namespace Decided

theorem sameAnswers {c : Command} (h : t.Decided) (hanswers : t.SameAnswers t')
    (hmatches : ∀ pair : PairId, Passing c t.matchRows[pair]? t'.matchRows[pair]?)
    (hrecorded : t.Recorded)
    (hlawful : ∀ {pair : PairId} {m : Match}, t.matchRows[pair]? = some m → m.Lawful pair) :
    t'.Decided where
  once hr hr' hpair hanswered hanswered' := by
    rw [hanswers hanswered] at hr
    rw [hanswers hanswered'] at hr'
    exact h.once hr hr' hpair hanswered hanswered'
  befriended {pair later} hlater hs := by
    rw [hanswers.hasRequest_iff (.inl rfl)]
    have hpassing := hmatches pair
    generalize hfound : t.matchRows[pair]? = found at hpassing
    rw [hlater] at hpassing
    cases hpassing with
    | same => exact h.befriended hfound hs
    | begun _ hactive =>
      rw [hs] at hactive
      cases hactive
    | ended _ _ _ hended =>
      rw [hs] at hended
      cases hended
  declined {pair later} hlater := by
    rw [hanswers.hasRequest_iff (.inr rfl)]
    have hpassing := hmatches pair
    generalize hfound : t.matchRows[pair]? = found at hpassing
    rw [hlater] at hpassing
    cases hpassing with
    | same => exact h.declined hfound
    | begun _ _ hreason =>
      -- No request was made before there was a match.
      refine iff_of_false (by simp [hreason]) fun hrequest => ?_
      have hstored := hrecorded.isSome_match hrequest
      rw [hfound] at hstored
      cases hstored
    | ended m _ hs _ hreason =>
      -- Until its end the match had no reason for one, so no request on it was declined.
      refine iff_of_false hreason fun hrequest => ?_
      have hnone := (hlawful hfound).endReason_eq_none hs
      rw [(h.declined hfound).2 hrequest] at hnone
      cases hnone

theorem responded (h : t.Decided) (hrecorded : t.Recorded) {r : FriendRequest} {m : Match}
    (hr : t.requests[r.id]? = some r) (hpending : r.status = .pending)
    (hm : t.matchRows[r.matchId]? = some m) (hs : m.state = .active)
    (hreason : m.endReason = none) (accept : Bool) (noticeId : Uuid) (now : Instant) :
    (t.responded r m accept noticeId now).Decided where
  once {id id' later later'} hlater hlater' hpair hanswered hanswered' := by
    rcases answered_responded hrecorded hm hs accept noticeId now hlater hanswered with
        ⟨hid, rfl⟩ | ⟨hbefore, hother⟩ <;>
      rcases answered_responded hrecorded hm hs accept noticeId now hlater' hanswered' with
        ⟨hid', rfl⟩ | ⟨hbefore', hother'⟩
    · exact hid.symm.trans hid'
    · exact absurd hpair.symm hother'
    · exact absurd hpair hother
    · exact h.once hbefore hbefore' hpair hanswered hanswered'
  befriended {pair later} hlater hfriends := by
    rw [responded_matchRows, answered_matchRows] at hlater
    by_cases hpair : r.matchId = pair
    · subst hpair
      rw [hasRequest_responded_self hrecorded hm hs accept noticeId now (.inl rfl)]
      rw [Rows.getElem?_set_self, Option.some_inj] at hlater
      rw [← hlater, Match.moved_state] at hfriends
      cases accept
      · cases hfriends
      · rfl
    · rw [hasRequest_responded_of_ne hrecorded hr hpending hm hs accept noticeId now (.inl rfl)
        hpair]
      rw [Rows.getElem?_set_of_ne _ hpair] at hlater
      exact h.befriended hlater hfriends
  declined {pair later} hlater := by
    rw [responded_matchRows, answered_matchRows] at hlater
    by_cases hpair : r.matchId = pair
    · subst hpair
      rw [hasRequest_responded_self hrecorded hm hs accept noticeId now (.inr rfl)]
      rw [Rows.getElem?_set_self, Option.some_inj] at hlater
      rw [← hlater]
      cases accept <;> simp [Operation.verdict, Match.moved, MatchState.isTerminal, hreason]
    · rw [hasRequest_responded_of_ne hrecorded hr hpending hm hs accept noticeId now (.inr rfl)
        hpair]
      rw [Rows.getElem?_set_of_ne _ hpair] at hlater
      exact h.declined hlater

end Decided

end Tables

/-! ## Effects and runs -/

theorem Tables.Decided.effect {settings : Settings} {readings : Readings} {t t' : Tables}
    {c : Command} {answer : c.Answer} (hdecided : t.Decided)
    (h : Effect settings readings t c answer t') (ht : t.Keyed) (hrecorded : t.Recorded)
    (hlawful : ∀ {pair : PairId} {m : Match}, t.matchRows[pair]? = some m → m.Lawful pair) :
    t'.Decided := by
  cases c with
  | propose arrow message =>
    cases h with
    | propose _ _ id noticeId _ _ hfree =>
      have hmatches : ∀ pair : PairId,
          Tables.Passing (.propose arrow message) t.matchRows[pair]? t.matchRows[pair]? :=
        fun _ => .same _
      exact hdecided.sameAnswers (Tables.sameAnswers_proposed rfl hfree noticeId) hmatches hrecorded
        hlawful
  | respond requestId responder accept =>
    cases h with
    | respond _ noticeId _ _ r current hfound =>
      obtain ⟨hr, _, hpending, hm, hs⟩ := Tables.toAnswer_ok hfound
      obtain rfl := (ht.request hr).1
      have hreason := (hlawful hm).endReason_eq_none (by rw [hs]; rfl)
      exact hdecided.responded hrecorded hr (FriendRequest.isPending_eq_true.1 hpending) hm hs
        hreason accept noticeId _
  | swipe | undoLastSwipe | gracefulExit | unmatch | block | unblock =>
    have hstep := h.unanswered (by simp) (by simp)
    exact hdecided.sameAnswers hstep.sameAnswers hstep.matchRows hrecorded hlawful

namespace World

theorem decided_run (settings : Settings) (events : List Event) :
    (run settings events).memory.tables.Decided := by
  refine run_induction (P := fun t _ => t.Decided) ?_ ?_ ?_ events
  · constructor <;> simp [Tables.empty]
  · exact fun _ _ _ _ ih => ih
  · intro events t' c readings answer ih heffect
    exact ih.effect heffect (sound_run events).keyed (recorded_run settings events)
      (lawful_run events)

/-- **Requests and the matches they decide.** In every run a user has sent another one request at
most, whatever became of it. A stored request names two users and their match, which is stored, and
has a time of response exactly if it is not pending. One request of a match at most is answered: a
friendship has exactly one that was accepted, and a match has ended over a request exactly if one of
its requests was declined. A request that is closed stays as it is for the rest of the run. -/
theorem requests_decide_matches (settings : Settings) :
    (∀ events : List Event,
      let t := (run settings events).memory.tables
      (∀ (id id' : Uuid) (r r' : FriendRequest), t.requests[id]? = some r →
        t.requests[id']? = some r' → r.fromUser = r'.fromUser → r.toUser = r'.toUser →
          id = id') ∧
      (∀ (id : Uuid) (r : FriendRequest), t.requests[id]? = some r →
        r.id = id ∧ r.fromUser ≠ r.toUser ∧ r.matchId = PairId.of r.fromUser r.toUser ∧
          (∃ m, t.matchRows[r.matchId]? = some m) ∧
          (r.respondedAt = none ↔ r.status = .pending)) ∧
      (∀ (id id' : Uuid) (r r' : FriendRequest), t.requests[id]? = some r →
        t.requests[id']? = some r' → r.matchId = r'.matchId →
        r.status = .accepted ∨ r.status = .declined →
        r'.status = .accepted ∨ r'.status = .declined → id = id') ∧
      (∀ (pair : PairId) (m : Match), t.matchRows[pair]? = some m → m.state = .friends →
        ∃! id : Uuid, ∃ r, t.requests[id]? = some r ∧ r.matchId = pair ∧
          r.status = .accepted) ∧
      (∀ (pair : PairId) (m : Match), t.matchRows[pair]? = some m →
        (m.endReason = some .friendZoneDeclined ↔ ∃ (id : Uuid) (r : FriendRequest),
          t.requests[id]? = some r ∧ r.matchId = pair ∧ r.status = .declined))) ∧
    (∀ (before after : List Event) (id : Uuid) (r : FriendRequest),
      (run settings before).memory.tables.requests[id]? = some r → r.status ≠ .pending →
        (run settings (before ++ after)).memory.tables.requests[id]? = some r) := by
  constructor
  · intro events t
    have hkeyed : t.Keyed := (sound_run events).keyed
    have hrecorded : t.Recorded := recorded_run settings events
    have hdecided : t.Decided := decided_run settings events
    refine ⟨?_, ?_, ?_, ?_, ?_⟩
    · intro id id' r r'
      exact hrecorded.unique
    · intro id r hr
      obtain ⟨hid, hpair⟩ := hkeyed.request hr
      obtain ⟨m, hm, _⟩ := hrecorded.onMatch hr
      exact ⟨hid, hrecorded.users hr, hpair, ⟨m, hm⟩, hrecorded.respondedAt hr⟩
    · intro id id' r r'
      exact hdecided.once
    · intro pair m hm hs
      obtain ⟨id, r, hr, hpair, haccepted⟩ := hdecided.befriended hm hs
      refine ⟨id, ⟨r, hr, hpair, haccepted⟩, ?_⟩
      rintro id' ⟨r', hr', hpair', haccepted'⟩
      exact hdecided.once hr' hr (hpair'.trans hpair.symm) (.inl haccepted') (.inl haccepted)
    · intro pair m
      exact hdecided.declined
  · intro before after id r
    exact closed_run before after

/-- Two requests cross; one is accepted, and the other expires. -/
def crossing : List Event :=
  inTurn .epoch [.swipe ⟨.ofNat 1, .ofNat 2⟩ .like, .swipe ⟨.ofNat 2, .ofNat 1⟩ .like,
    .propose ⟨.ofNat 1, .ofNat 2⟩ "let us be friends",
    .propose ⟨.ofNat 2, .ofNat 1⟩ "let us be friends", .respond (.fresh 2) (.ofNat 2) true]

theorem crossing_leaves :
    let t := (run {} crossing).memory.tables
    t.requests[Uuid.fresh 2]? =
        some ((FriendRequest.new (.fresh 2) (.ofNat 1) (.ofNat 2) "let us be friends"
          .epoch).closed .accepted .epoch) ∧
      t.requests[Uuid.fresh 4]? =
        some ((FriendRequest.new (.fresh 4) (.ofNat 2) (.ofNat 1) "let us be friends"
          .epoch).closed .expired .epoch) ∧
      t.matchRows[PairId.of (.ofNat 1) (.ofNat 2)]? =
        some ((Match.new (.ofNat 1) (.ofNat 2) .epoch).moved .friends (.ofNat 2) none .epoch) := by
  decide +kernel

/-- Both requests outlast the friendship, and no other one is like either of them. -/
theorem requests_decide_matches_crossing :
    let t := (run {} crossing).memory.tables
    let later := (run {} (crossing ++ inTurn .epoch [.unmatch ⟨.ofNat 1, .ofNat 2⟩])).memory.tables
    (∀ (id : Uuid) (r : FriendRequest), t.requests[id]? = some r → r.fromUser = .ofNat 1 →
      r.toUser = .ofNat 2 → id = .fresh 2) ∧
    (∃! id : Uuid, ∃ r, t.requests[id]? = some r ∧ r.matchId = .of (.ofNat 1) (.ofNat 2) ∧
      r.status = .accepted) ∧
    later.requests[Uuid.fresh 2]? = t.requests[Uuid.fresh 2]? ∧
    later.requests[Uuid.fresh 4]? = t.requests[Uuid.fresh 4]? := by
  obtain ⟨haccepted, hexpired, hmatch⟩ := crossing_leaves
  obtain ⟨hstates, hkept⟩ := requests_decide_matches {}
  obtain ⟨hunique, _, _, hfriends, _⟩ := hstates crossing
  refine ⟨?_, hfriends _ _ hmatch rfl, ?_, ?_⟩
  · intro id r hr hfrom hto
    exact hunique id _ r _ hr haccepted hfrom hto
  · rw [haccepted]
    exact hkept crossing _ _ _ haccepted (by decide)
  · rw [hexpired]
    exact hkept crossing _ _ _ hexpired (by decide)

end World

end Courtship
