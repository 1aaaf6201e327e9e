import Courtship.Proofs.Lifecycle

/-! Friend requests along a run. A request is stored with its match, waits as long as that is active
at most, and once it is closed it stays as it is. A user sends another one request at most. -/

namespace Courtship

/-! ## Records -/

namespace FriendRequest

variable {r : FriendRequest}

theorem isPending_eq_true : r.isPending = true ↔ r.status = .pending := decide_eq_true_iff

theorem expiredOn_eq (r : FriendRequest) (pair : PairId) (now : Instant) :
    r.expiredOn pair now =
      if r.status = .pending ∧ r.matchId = pair then
        { r with status := .expired, respondedAt := some now }
      else r := by
  simp [expiredOn, isPending, closed]

theorem expiredOn_of_not_pending (h : r.status ≠ .pending) (pair : PairId) (now : Instant) :
    r.expiredOn pair now = r := by
  rw [expiredOn, if_neg (by simp [isPending, h])]

theorem expiredOn_eq_or (r : FriendRequest) (pair : PairId) (now : Instant) :
    r.expiredOn pair now = r ∨
      r.status = .pending ∧ r.matchId = pair ∧ r.expiredOn pair now = r.closed .expired now := by
  unfold expiredOn
  split
  · rename_i h
    rw [Bool.and_eq_true, isPending_eq_true, decide_eq_true_eq] at h
    exact .inr ⟨h.1, h.2, rfl⟩
  · exact .inl rfl

/-- A pending request, and the record of its close. -/
structure ClosesTo (r later : FriendRequest) : Prop where
  pending : r.status = .pending
  closed : ∃ status now, status ≠ .pending ∧ later = r.closed status now

end FriendRequest

/-! ## What a step does to requests -/

namespace Tables

variable {t t' : Tables}

/-- No request is new, and those that change are closed, for their match is not active any more. -/
def ClosesOnly (t t' : Tables) : Prop :=
  ∀ ⦃id : Uuid⦄ ⦃later : FriendRequest⦄, t'.requests[id]? = some later →
    ∃ r, t.requests[id]? = some r ∧
      (later = r ∨ r.ClosesTo later ∧ ∀ m, t'.matchRows[r.matchId]? = some m → m.state ≠ .active)

/-- What a command can make of a match if no request on it is answered. -/
inductive Passing (c : Command) : Option Match → Option Match → Prop
  | same (found : Option Match) : Passing c found found
  | begun (m : Match) (hs : m.state = .active) (hreason : m.endReason = none) :
      Passing c none (some m)
  | ended (m later : Match) (hs : m.state.isTerminal = false)
      (hlater : later.state.isTerminal = true)
      (hreason : later.endReason ≠ some .friendZoneDeclined)
      (hexit : later.state = .gracefulExit → ∃ arrow, c = .gracefulExit arrow) :
      Passing c (some m) (some later)

/-- What every effect but that of a proposal and of an answer does at most. -/
structure Unanswered (c : Command) (t t' : Tables) : Prop where
  requests : t'.requests = t.requests ∨
    ∃ pair now, t'.requests = (t.expire pair now).requests ∧
      ∀ m, t'.matchRows[pair]? = some m → m.state ≠ .active
  matchRows : ∀ pair : PairId, Passing c t.matchRows[pair]? t'.matchRows[pair]?

theorem Passing.of_moved {c : Command} {m : Match} (hs : m.state.isTerminal = false)
    {target : MatchState} (htarget : target.isTerminal = true) (user : UserId)
    {reason : ArchiveReason} (hreason : reason ≠ .friendZoneDeclined) (now : Instant)
    (hexit : target = .gracefulExit → ∃ arrow, c = .gracefulExit arrow) :
    Passing c (some m) (some (m.moved target user (some reason) now)) := by
  refine .ended m _ hs ?_ ?_ ?_
  · rw [Match.moved_state, htarget]
  · rw [Match.moved, if_pos htarget]
    simpa using hreason
  · rwa [Match.moved_state]

theorem unanswered_left {c : Command} {arrow : Arrow} {m : Match}
    (hm : t.matchRows[PairId.of arrow.actor arrow.target]? = some m)
    (hs : m.state.isTerminal = false) {target : MatchState} (htarget : target.isTerminal = true)
    {reason : ArchiveReason} (hreason : reason ≠ .friendZoneDeclined) (now : Instant)
    (hexit : target = .gracefulExit → ∃ arrow, c = .gracefulExit arrow) :
    Unanswered c t (t.left arrow m target reason now) where
  requests := by
    refine .inr ⟨.of arrow.actor arrow.target, now, rfl, ?_⟩
    intro later hlater
    rw [left_matchRows, Rows.getElem?_set_self, Option.some_inj] at hlater
    rw [← hlater, Match.moved_state]
    rintro rfl
    cases htarget
  matchRows := by
    refine Rows.rel_set (R := fun _ => Passing _) ?_ fun _ => .same
    rw [hm]
    exact .of_moved hs htarget arrow.actor hreason now hexit

theorem unanswered_barred (c : Command) (t : Tables) (arrow : Arrow) (now : Instant) :
    Unanswered c t (t.barred arrow now) where
  requests := by
    rw [barred_requests]
    split
    · refine .inr ⟨.of arrow.actor arrow.target, now, rfl, ?_⟩
      intro later hlater
      rw [barred_matchRows, Rows.getElem?_set_self, Option.map_eq_some_iff] at hlater
      obtain ⟨m, _, rfl⟩ := hlater
      have hended := m.isTerminal_barredBy arrow.actor now
      intro hactive
      rw [hactive] at hended
      cases hended
    · exact .inl rfl
  matchRows := by
    refine Rows.rel_set (R := fun _ => Passing _) ?_ fun _ => .same
    cases t.matchRows[PairId.of arrow.actor arrow.target]? with
    | none => exact .same none
    | some m =>
      rw [Option.map_some, Match.barredBy]
      split
      · exact .same _
      · rename_i hs
        exact .of_moved (by simpa using hs) rfl arrow.actor (by simp) now (by simp)

end Tables

variable {settings : Settings} {readings : Readings} {t t' : Tables}

theorem Effect.unanswered {c : Command} {answer : c.Answer}
    (h : Effect settings readings t c answer t')
    (hpropose : ∀ arrow message, c ≠ .propose arrow message)
    (hrespond : ∀ id responder accept, c ≠ .respond id responder accept) :
    Tables.Unanswered c t t' := by
  cases h with
  | swipe arrow direction id =>
    refine ⟨.inl rfl, ?_⟩
    rw [Tables.swiped_matchRows]
    split
    · refine Rows.rel_set (R := fun _ => Tables.Passing _) ?_ fun _ => .same
      unfold Tables.matchOf
      cases t.matchRows[PairId.of arrow.actor arrow.target]? with
      | none => exact .begun _ rfl rfl
      | some m => exact .same _
    · exact fun _ => .same _
  | undo arrow l hl =>
    refine ⟨.inl rfl, ?_⟩
    rw [Tables.undone_matchRows, Tables.matchEnded]
    cases hend : t.matchToEnd arrow l with
    | none => exact fun _ => .same _
    | some m =>
      obtain ⟨_, hm, hactive, _⟩ := Tables.matchToEnd_eq_some.1 hend
      refine Rows.rel_set (R := fun _ => Tables.Passing _) ?_ fun _ => .same
      rw [hm]
      exact .of_moved (by rw [hactive]; rfl) rfl arrow.actor (by simp) _ (by simp)
  | propose arrow message => exact absurd rfl (hpropose arrow message)
  | respond id noticeId responder accept => exact absurd rfl (hrespond id responder accept)
  | exitAgain => exact ⟨.inl rfl, fun _ => .same _⟩
  | exit arrow current noticeId hstored hs =>
    have hleft : Tables.Unanswered (.gracefulExit arrow) t
        (t.left arrow current .gracefulExit .gracefulExit (readings 0)) :=
      Tables.unanswered_left hstored hs rfl (by simp) _ fun _ => ⟨arrow, rfl⟩
    exact ⟨hleft.requests, hleft.matchRows⟩
  | unmatch arrow current hstored hs =>
    exact Tables.unanswered_left hstored hs rfl (by simp) _ (by simp)
  | block arrow => exact Tables.unanswered_barred _ t arrow _
  | unblock => exact ⟨.inl rfl, fun _ => .same _⟩

namespace Tables

/-! ### Without an answer -/

namespace Unanswered

variable {c : Command}

theorem closesOnly (h : Unanswered c t t') : t.ClosesOnly t' := by
  intro id later hlater
  rcases h.requests with hsame | ⟨pair, now, hexpired, hstate⟩
  · rw [hsame] at hlater
    exact ⟨later, hlater, .inl rfl⟩
  · rw [hexpired, getElem?_expire, Option.map_eq_some_iff] at hlater
    obtain ⟨r, hr, rfl⟩ := hlater
    refine ⟨r, hr, ?_⟩
    rcases r.expiredOn_eq_or pair now with hsame | ⟨hpending, rfl, hclosed⟩
    · exact .inl hsame
    · rw [hclosed]
      exact .inr ⟨⟨hpending, .expired, now, by simp, rfl⟩, hstate⟩

theorem kept (h : Unanswered c t t') {id : Uuid} {r : FriendRequest}
    (hr : t.requests[id]? = some r) (hs : r.status ≠ .pending) : t'.requests[id]? = some r := by
  rcases h.requests with hsame | ⟨pair, now, hexpired, _⟩
  · rw [hsame, hr]
  · rw [hexpired, getElem?_expire, hr, Option.map_some, r.expiredOn_of_not_pending hs]

end Unanswered

/-! ### With a proposal -/

theorem getElem?_proposed_requests (t : Tables) (r : FriendRequest) (noticeId id : Uuid) :
    (t.proposed r noticeId).requests[id]? = if r.id = id then some r else t.requests[id]? :=
  Rows.get?_set ..

theorem kept_proposed {r : FriendRequest} (hfree : t.requests[r.id]? = none) (noticeId : Uuid)
    {id : Uuid} {other : FriendRequest} (hother : t.requests[id]? = some other) :
    (t.proposed r noticeId).requests[id]? = some other := by
  rw [getElem?_proposed_requests, if_neg, hother]
  rintro rfl
  rw [hfree] at hother
  cases hother

/-! ### With an answer -/

theorem getElem?_responded_requests (t : Tables) (r : FriendRequest) (m : Match) (accept : Bool)
    (noticeId : Uuid) (now : Instant) (id : Uuid) :
    (t.responded r m accept noticeId now).requests[id]? =
      if r.id = id then some (r.closed (Operation.verdict accept).2.2 now)
      else t.requests[id]?.map fun other => other.expiredOn r.matchId now := by
  rw [responded_requests, answered_requests, getElem?_expire, setRequest_requests, Rows.get?_set]
  split
  · have hclosed : (r.closed (Operation.verdict accept).2.2 now).status ≠ .pending := by
      cases accept <;> simp [Operation.verdict, FriendRequest.closed]
    rw [Option.map_some, FriendRequest.expiredOn_of_not_pending hclosed]
  · rfl

theorem closesOnly_responded {r : FriendRequest} (hr : t.requests[r.id]? = some r)
    (hpending : r.status = .pending) (m : Match) (accept : Bool) (noticeId : Uuid)
    (now : Instant) : t.ClosesOnly (t.responded r m accept noticeId now) := by
  have hstate : ∀ later,
      (t.responded r m accept noticeId now).matchRows[r.matchId]? = some later →
        later.state ≠ .active := by
    intro later hlater
    rw [responded_matchRows, answered_matchRows, Rows.getElem?_set_self, Option.some_inj] at hlater
    rw [← hlater, Match.moved_state]
    cases accept <;> simp [Operation.verdict]
  intro id later hlater
  rw [getElem?_responded_requests] at hlater
  split at hlater
  · rename_i hid
    cases hlater
    refine ⟨r, hid ▸ hr, .inr ⟨⟨hpending, _, now, ?_, rfl⟩, hstate⟩⟩
    cases accept <;> simp [Operation.verdict]
  · obtain ⟨other, hother, rfl⟩ := Option.map_eq_some_iff.1 hlater
    refine ⟨other, hother, ?_⟩
    rcases other.expiredOn_eq_or r.matchId now with hsame | ⟨hwaiting, hpair, hclosed⟩
    · exact .inl hsame
    · rw [hclosed]
      exact .inr ⟨⟨hwaiting, .expired, now, by simp, rfl⟩, by rw [hpair]; exact hstate⟩

theorem kept_responded {r : FriendRequest} (hr : t.requests[r.id]? = some r)
    (hpending : r.status = .pending) (m : Match) (accept : Bool) (noticeId : Uuid)
    (now : Instant) {id : Uuid} {other : FriendRequest} (hother : t.requests[id]? = some other)
    (hclosed : other.status ≠ .pending) :
    (t.responded r m accept noticeId now).requests[id]? = some other := by
  have hid : r.id ≠ id := by
    rintro rfl
    rw [hr] at hother
    cases hother
    exact hclosed hpending
  rw [getElem?_responded_requests, if_neg hid, hother, Option.map_some,
    other.expiredOn_of_not_pending hclosed]

/-! ## What is recorded of requests -/

/-- What holds of every stored request, and of any two. -/
structure Recorded (t : Tables) : Prop where
  users : ∀ {id : Uuid} {r : FriendRequest}, t.requests[id]? = some r → r.fromUser ≠ r.toUser
  respondedAt : ∀ {id : Uuid} {r : FriendRequest}, t.requests[id]? = some r →
    (r.respondedAt = none ↔ r.status = .pending)
  onMatch : ∀ {id : Uuid} {r : FriendRequest}, t.requests[id]? = some r →
    ∃ m, t.matchRows[r.matchId]? = some m ∧ (m.state = .active → r.status = .pending)
  unique : ∀ {id id' : Uuid} {r r' : FriendRequest}, t.requests[id]? = some r →
    t.requests[id']? = some r' → r.fromUser = r'.fromUser → r.toUser = r'.toUser → id = id'

namespace Recorded

/-- Where none is pending from one user to another that have an active match, there is none. -/
theorem none_between (h : t.Recorded) (ht : t.Keyed) {arrow : Arrow}
    (hactive : t.isActive arrow = true)
    (hnone : t.findPendingRequest arrow (.of arrow.actor arrow.target) = none) {id : Uuid}
    {r : FriendRequest} (hr : t.requests[id]? = some r) :
    ¬(r.fromUser = arrow.actor ∧ r.toUser = arrow.target) := by
  rintro ⟨hactor, htarget⟩
  have hpair := (ht.request hr).2
  rw [hactor, htarget] at hpair
  obtain ⟨m, hm, hstate⟩ := h.onMatch hr
  obtain ⟨m', hm', hs⟩ := isActive_eq_true.1 hactive
  rw [hpair, hm'] at hm
  cases hm
  -- The match is active, so the request is pending, and the search would have found it.
  have hmem : r ∈ t.pendingRequests := by
    rw [pendingRequests, List.mem_filter, Rows.mem_values, FriendRequest.isPending_eq_true]
    exact ⟨⟨id, hr⟩, hstate hs⟩
  have hfound := List.find?_eq_none.1 hnone r hmem
  simp [hactor, htarget, hpair] at hfound

/-- A new request between two users who have sent none yet. -/
theorem proposed (h : t.Recorded) {r : FriendRequest} (noticeId : Uuid)
    (hne : r.fromUser ≠ r.toUser) (hpending : r.status = .pending)
    (hunanswered : r.respondedAt = none) (hm : ∃ m, t.matchRows[r.matchId]? = some m)
    (hfirst : ∀ {id : Uuid} {other : FriendRequest}, t.requests[id]? = some other →
      ¬(other.fromUser = r.fromUser ∧ other.toUser = r.toUser)) :
    (t.proposed r noticeId).Recorded := by
  refine ⟨?_, ?_, ?_, ?_⟩
  · intro id other hother
    rw [getElem?_proposed_requests] at hother
    split at hother
    · cases hother
      exact hne
    · exact h.users hother
  · intro id other hother
    rw [getElem?_proposed_requests] at hother
    split at hother
    · cases hother
      simp [hpending, hunanswered]
    · exact h.respondedAt hother
  · intro id other hother
    rw [getElem?_proposed_requests] at hother
    split at hother
    · cases hother
      obtain ⟨m, hm⟩ := hm
      exact ⟨m, hm, fun _ => hpending⟩
    · exact h.onMatch hother
  · intro id id' other other' hother hother' hfrom hto
    rw [getElem?_proposed_requests] at hother hother'
    split at hother <;> split at hother'
    · rename_i hid hid'
      exact hid.symm.trans hid'
    · cases hother
      exact absurd ⟨hfrom.symm, hto.symm⟩ (hfirst hother')
    · cases hother'
      exact absurd ⟨hfrom, hto⟩ (hfirst hother)
    · exact h.unique hother hother' hfrom hto

theorem closing (h : t.Recorded) (hclosing : t.ClosesOnly t')
    (hmatches : ∀ {pair : PairId} {m : Match}, t.matchRows[pair]? = some m →
      ∃ later, t'.matchRows[pair]? = some later ∧ (later = m ∨ m.GoesOnTo later)) :
    t'.Recorded where
  users hlater := by
    obtain ⟨r, hr, hchange⟩ := hclosing hlater
    have husers := h.users hr
    rcases hchange with rfl | ⟨⟨_, _, _, _, rfl⟩, _⟩ <;> exact husers
  respondedAt hlater := by
    obtain ⟨r, hr, rfl | ⟨⟨_, _, _, hstatus, rfl⟩, _⟩⟩ := hclosing hlater
    · exact h.respondedAt hr
    · simpa [FriendRequest.closed] using hstatus
  onMatch hlater := by
    obtain ⟨r, hr, hchange⟩ := hclosing hlater
    obtain ⟨m, hm, hwaits⟩ := h.onMatch hr
    obtain ⟨m', hm', hon⟩ := hmatches hm
    rcases hchange with rfl | ⟨⟨_, _, _, _, rfl⟩, hstate⟩
    · refine ⟨m', hm', ?_⟩
      rcases hon with rfl | hon
      · exact hwaits
      · intro hactive
        rcases hon.state with ⟨_, hs⟩ | ⟨_, hs, _⟩ <;> exact absurd hactive hs
    · exact ⟨m', hm', fun hactive => absurd hactive (hstate m' hm')⟩
  unique hlater hlater' hfrom hto := by
    obtain ⟨r, hr, hchange⟩ := hclosing hlater
    obtain ⟨r', hr', hchange'⟩ := hclosing hlater'
    refine h.unique hr hr' ?_ ?_ <;>
      rcases hchange with rfl | ⟨⟨_, _, _, _, rfl⟩, _⟩ <;>
      rcases hchange' with rfl | ⟨⟨_, _, _, _, rfl⟩, _⟩ <;> assumption

end Recorded

end Tables

/-! ## Effects -/

/-- A request that is closed stays as it is. -/
theorem Effect.closed_kept {c : Command} {answer : c.Answer}
    (h : Effect settings readings t c answer t') (ht : t.Keyed) {id : Uuid} {r : FriendRequest}
    (hr : t.requests[id]? = some r) (hs : r.status ≠ .pending) : t'.requests[id]? = some r := by
  cases c with
  | propose arrow message =>
    cases h with
    | propose _ _ newId noticeId _ _ hfree => exact Tables.kept_proposed hfree noticeId hr
  | respond requestId responder accept =>
    cases h with
    | respond _ noticeId _ _ answered current hfound =>
      obtain ⟨hanswered, _, hpending, _⟩ := Tables.toAnswer_ok hfound
      obtain rfl := (ht.request hanswered).1
      exact Tables.kept_responded hanswered (FriendRequest.isPending_eq_true.1 hpending) current
        accept noticeId _ hr hs
  | swipe | undoLastSwipe | gracefulExit | unmatch | block | unblock =>
    exact (h.unanswered (by simp) (by simp)).kept hr hs

/-- Only a proposal adds a request. -/
theorem Effect.closesOnly {c : Command} {answer : c.Answer}
    (h : Effect settings readings t c answer t') (ht : t.Keyed)
    (hpropose : ∀ arrow message, c ≠ .propose arrow message) : t.ClosesOnly t' := by
  cases c with
  | propose arrow message => exact absurd rfl (hpropose arrow message)
  | respond requestId responder accept =>
    cases h with
    | respond _ noticeId _ _ r current hfound =>
      obtain ⟨hr, _, hpending, _⟩ := Tables.toAnswer_ok hfound
      obtain rfl := (ht.request hr).1
      exact Tables.closesOnly_responded hr (FriendRequest.isPending_eq_true.1 hpending) current
        accept noticeId (readings 0)
  | swipe | undoLastSwipe | gracefulExit | unmatch | block | unblock =>
    exact (h.unanswered (by simp) (by simp)).closesOnly

theorem Tables.Recorded.effect {c : Command} {answer : c.Answer} (hrecorded : t.Recorded)
    (h : Effect settings readings t c answer t') (ht : t.Keyed) : t'.Recorded := by
  have hmatches : ∀ {pair : PairId} {m : Match}, t.matchRows[pair]? = some m →
      ∃ later, t'.matchRows[pair]? = some later ∧ (later = m ∨ m.GoesOnTo later) := by
    intro pair m hm
    have hstep := h.matchStep ht pair
    rw [hm] at hstep
    exact hstep.goesOn
  cases c with
  | propose arrow message =>
    cases h with
    | propose _ _ id noticeId hne hopen =>
      obtain ⟨hactive, _, hnone, _⟩ := Tables.proposalRefusal_eq_none.1 hopen
      obtain ⟨m, hm, _⟩ := Tables.isActive_eq_true.1 hactive
      exact hrecorded.proposed noticeId hne rfl rfl ⟨m, hm⟩
        (hrecorded.none_between ht hactive hnone)
  | swipe | undoLastSwipe | respond | gracefulExit | unmatch | block | unblock =>
    exact hrecorded.closing (h.closesOnly ht (by simp)) hmatches

/-! ## Runs -/

namespace World

theorem recorded_run (settings : Settings) (events : List Event) :
    (run settings events).memory.tables.Recorded := by
  refine run_induction (P := fun t _ => t.Recorded) ?_ ?_ ?_ events
  · constructor <;> simp [Tables.empty]
  · exact fun _ _ _ _ ih => ih
  · intro events t' c readings answer ih heffect
    exact ih.effect heffect (sound_run events).keyed

theorem closed_run (before after : List Event) {id : Uuid} {r : FriendRequest}
    (hr : (run settings before).memory.tables.requests[id]? = some r) (hs : r.status ≠ .pending) :
    (run settings (before ++ after)).memory.tables.requests[id]? = some r := by
  refine run_append_induction (P := fun t _ => t.requests[id]? = some r) before hr ?_ ?_ after
  · exact fun _ _ _ _ ih => ih
  · intro events t' c readings answer ih heffect
    exact heffect.closed_kept (sound_run events).keyed ih hs

end World

end Courtship
