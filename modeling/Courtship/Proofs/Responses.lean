import Courtship.Proofs.Drafts
import Courtship.Proofs.Requests

/-! Answering a friend request, with anything at all going on between the look for the request and
the locks. A stored request stays, and keeps its two users and its match. So the look is right about
whose locks are needed, and what it saw decides nothing else. -/

namespace Courtship

/-! ## What stays of a request -/

namespace FriendRequest

/-- The request later on: its status and the time of its close may be others. -/
def TurnsInto (r later : FriendRequest) : Prop :=
  later = { r with status := later.status, respondedAt := later.respondedAt }

theorem TurnsInto.refl (r : FriendRequest) : r.TurnsInto r := rfl

theorem TurnsInto.trans {r next later : FriendRequest} (h : r.TurnsInto next)
    (h' : next.TurnsInto later) : r.TurnsInto later := by
  unfold TurnsInto at h h' ⊢
  rw [h', h]

theorem turnsInto_expiredOn (r : FriendRequest) (pair : PairId) (now : Instant) :
    r.TurnsInto (r.expiredOn pair now) := by
  unfold expiredOn
  split <;> rfl

end FriendRequest

section Effects

variable {settings : Settings} {readings : Readings} {t t' : Tables}

theorem Tables.Unanswered.turnsInto {c : Command} (h : t.Unanswered c t') {id : Uuid}
    {r : FriendRequest} (hr : t.requests[id]? = some r) :
    ∃ later, t'.requests[id]? = some later ∧ r.TurnsInto later := by
  rcases h.requests with hsame | ⟨pair, now, hexpired, -⟩
  · exact ⟨r, by rw [hsame, hr], .refl r⟩
  · refine ⟨r.expiredOn pair now, ?_, r.turnsInto_expiredOn pair now⟩
    rw [hexpired, getElem?_expire, hr, Option.map_some]

theorem Effect.turnsInto {c : Command} {answer : c.Answer}
    (h : Effect settings readings t c answer t') (ht : t.Keyed) {id : Uuid} {r : FriendRequest}
    (hr : t.requests[id]? = some r) :
    ∃ later, t'.requests[id]? = some later ∧ r.TurnsInto later := by
  cases c with
  | propose arrow message =>
    cases h with
    | propose _ _ newId noticeId _ _ hfree =>
      exact ⟨r, Tables.kept_proposed hfree noticeId hr, .refl r⟩
  | respond requestId responder accept =>
    cases h with
    | respond _ noticeId _ _ answered current hfound =>
      obtain ⟨hanswered, -⟩ := Tables.toAnswer_ok hfound
      obtain rfl := (ht.request hanswered).1
      rw [Tables.getElem?_responded_requests]
      split
      · rename_i hid
        rw [hid, hr] at hanswered
        cases hanswered
        exact ⟨_, rfl, rfl⟩
      · rw [hr]
        exact ⟨_, rfl, r.turnsInto_expiredOn _ _⟩
  | swipe | undoLastSwipe | gracefulExit | unmatch | block | unblock =>
    exact (h.unanswered (by simp) (by simp)).turnsInto hr

end Effects

namespace World

variable {settings : Settings}

/-- A request that was stored stays so, with the same users and the same match. -/
theorem turnsInto_run (before after : List Event) {id : Uuid} {r : FriendRequest}
    (hr : (run settings before).memory.tables.requests[id]? = some r) :
    ∃ later, (run settings (before ++ after)).memory.tables.requests[id]? = some later ∧
      r.TurnsInto later := by
  refine run_append_induction
    (P := fun t _ => ∃ later, t.requests[id]? = some later ∧ r.TurnsInto later) before
    ⟨r, hr, .refl r⟩ ?_ ?_ after
  · exact fun _ _ _ _ ih => ih
  · intro events t' c readings answer ih heffect
    obtain ⟨next, hnext, hturns⟩ := ih
    obtain ⟨later, hlater, hturns'⟩ := heffect.turnsInto (sound_run events).keyed hnext
    exact ⟨later, hlater, hturns.trans hturns'⟩

end World

/-! ## What becomes of the request -/

/-- What an answer to the request `r` on the active match `m` comes to. -/
structure Responded (t : Tables) (r : FriendRequest) (m : Match) (accept : Bool) (now : Instant)
    (noticeId : Uuid) (t' : Tables) : Prop where
  likes : t'.likes = t.likes
  blocks : t'.blocks = t.blocks
  request : t'.requests[r.id]? = some { r with
    status := if accept then .accepted else .declined
    respondedAt := some now }
  others : ∀ id, id ≠ r.id → t'.requests[id]? = t.requests[id]?.map fun other =>
    if other.status = .pending ∧ other.matchId = r.matchId then
      { other with status := .expired, respondedAt := some now }
    else other
  accepted : accept = true →
    t'.matchRows = t.matchRows.set r.matchId
      (some { m with state := .friends, stateChangedAt := now }) ∧
    t'.conversations = t.conversations
  declined : accept = false →
    t'.matchRows = t.matchRows.set r.matchId (some { m with
      state := .unmatched
      endReason := some .friendZoneDeclined
      endedBy := some r.toUser
      stateChangedAt := now }) ∧
    ∃ c, t.conversations[r.matchId]? = some c ∧ c.archivedAt = none ∧
      t'.conversations = t.conversations.set r.matchId (some { c with
        archivedAt := some now
        archiveReason := some .friendZoneDeclined })
  notified : t'.notifications = t.notifications ++ [{
    id := noticeId
    recipient := r.fromUser
    type := if accept then .friendRequestAccepted else .friendRequestDeclined
    payload :=
      if accept then .friendRequestAccepted r.id r.matchId r.toUser
      else .friendRequestDeclined r.id r.matchId r.toUser
    createdAt := now
    readAt := none
    dismissedAt := none }]

/-- How the answer of `responder` to the stored request `r` comes out, on the memory that is found
under the locks: its result and the memory that it leaves. The checks are made in the order of the
rules. -/
inductive Response (held : Memory) (responder : UserId) (accept : Bool) (now : Instant)
    (r : FriendRequest) : Except (Failure EngineError) FriendRequest × Memory → Prop
  | notAuthorized (hto : r.toUser ≠ responder) :
      Response held responder accept now r (.error (.error .notAuthorized), held)
  | alreadyResponded (hto : r.toUser = responder) (hclosed : r.status ≠ .pending) :
      Response held responder accept now r (.error (.error .alreadyResponded), held)
  | alreadyTerminal (m : Match) (hto : r.toUser = responder) (hpending : r.status = .pending)
      (hm : held.tables.matchRows[r.matchId]? = some m) (hended : m.state.isTerminal = true) :
      Response held responder accept now r (.error (.error (.alreadyTerminal m.state)), held)
  | noActiveMatch (m : Match) (hto : r.toUser = responder) (hpending : r.status = .pending)
      (hm : held.tables.matchRows[r.matchId]? = some m) (hfriends : m.state = .friends) :
      Response held responder accept now r (.error (.error .noActiveMatch), held)
  | refusedNotice (m : Match) (hto : r.toUser = responder) (hpending : r.status = .pending)
      (hm : held.tables.matchRows[r.matchId]? = some m) (hactive : m.state = .active)
      (hsink : held.rejectsNotifications = true) :
      Response held responder accept now r
        (.error (.error (.storage Memory.sinkError)), held)
  | conflict (m : Match) (hto : r.toUser = responder) (hpending : r.status = .pending)
      (hm : held.tables.matchRows[r.matchId]? = some m) (hactive : m.state = .active)
      (hsink : held.rejectsNotifications = false) (hconflict : held.commitConflicts ≠ 0) :
      Response held responder accept now r
        (.error (.error (.storageConflict Memory.conflictError)), { held with
          commitConflicts := held.commitConflicts - 1
          minted := held.minted + 1 })
  | answered (m : Match) (t' : Tables) (hto : r.toUser = responder)
      (hpending : r.status = .pending) (hm : held.tables.matchRows[r.matchId]? = some m)
      (hactive : m.state = .active) (hsink : held.rejectsNotifications = false)
      (hnone : held.commitConflicts = 0)
      (hresponded : Responded held.tables r m accept now (.fresh held.minted) t') :
      Response held responder accept now r
        (.ok { r with
            status := if accept then .accepted else .declined
            respondedAt := some now },
          { held with tables := t', minted := held.minted + 1 })

namespace Operation

variable {id : Uuid} {responder : UserId} {held : Memory}

/-- A check that fails ends the unit, and nothing is written. -/
theorem inUnit_respondWork_refused {e : EngineError}
    (h : held.tables.toAnswer id responder = .error e) (accept : Bool) (now : Instant) :
    (respondWork id responder accept now).inUnit held = (.error (.error e), held) := by
  have hchecks := perform_answerable id responder held
  rw [h] at hchecks
  have hperform : (respondWork id responder accept now).perform held =
      (.error (.error e), held) := by
    rw [respondWork_eq, Work.perform_bind, hchecks]
  exact Work.inUnit_of_error hperform

/-- All checks pass for the receiver of a request that is pending on an active match. -/
theorem inUnit_respondWork (hheld : held.tables.Keyed) {r : FriendRequest} {m : Match}
    (hr : held.tables.requests[r.id]? = some r) (hpending : r.status = .pending)
    (hm : held.tables.matchRows[r.matchId]? = some m) (hactive : m.state = .active)
    (accept : Bool) (now : Instant) :
    (respondWork r.id r.toUser accept now).inUnit held = held.settle
      (if held.rejectsNotifications then
        (.error (.error (.storage Memory.sinkError)),
          { held with tables := held.tables.answered r m accept now })
      else
        (.ok (.commit (r.closed (verdict accept).2.2 now)), { held with
          tables := held.tables.responded r m accept (.fresh held.minted) now
          minted := held.minted + 1 })) := by
  have hchecks := perform_answerable r.id r.toUser held
  have hfound : held.tables.toAnswer r.id r.toUser = .ok (r, m) := by
    simp [Tables.toAnswer, hr, FriendRequest.isPending, hpending, hm, hactive]
  rw [hfound] at hchecks
  rw [Work.inUnit_eq, respondWork_eq, Work.perform_bind_ok hchecks,
    perform_recordAnswer hheld hr hm hactive]

end Operation

namespace World

variable {settings : Settings}

theorem responded_responded (events : List Event) {r : FriendRequest} {m : Match}
    (hr : (run settings events).memory.tables.requests[r.id]? = some r)
    (hm : (run settings events).memory.tables.matchRows[r.matchId]? = some m)
    (hactive : m.state = .active) (accept : Bool) (now : Instant) (noticeId : Uuid) :
    Responded (run settings events).memory.tables r m accept now noticeId
      ((run settings events).memory.tables.responded r m accept noticeId now) := by
  have hpair := ((sound_run events).keyed.request hr).2
  obtain ⟨c, hc, hmirrors⟩ := (coupled_run settings events).conversation hm
  have hopen : m.state.isTerminal = false := by rw [hactive]; rfl
  generalize (run settings events).memory.tables = t at *
  refine ⟨rfl, rfl, ?_, ?_, ?_, ?_, ?_⟩
  · rw [Tables.getElem?_responded_requests, if_pos rfl]
    cases accept <;> rfl
  · intro id hne
    rw [Tables.getElem?_responded_requests, if_neg hne.symm]
    simp only [FriendRequest.expiredOn_eq]
  · rintro rfl
    exact ⟨rfl, rfl⟩
  · rintro rfl
    refine ⟨rfl, c, hc, (hmirrors.shown hopen).1, ?_⟩
    rw [Tables.responded_conversations, Tables.answered_conversations, Tables.conversationOf,
      ← hpair, hc, Option.getD_some, hmirrors.archiveOnce_open hopen]
    rfl
  · cases accept <;> rfl

/-- The unit of an answer, on the memory that is found under the locks. -/
theorem response_inUnit (events : List Event) {id : Uuid} {r : FriendRequest}
    (hr : (run settings events).memory.tables.requests[id]? = some r) (responder : UserId)
    (accept : Bool) (now : Instant) :
    Response (run settings events).memory responder accept now r
      ((Operation.respondWork id responder accept now).inUnit (run settings events).memory) := by
  have hkeyed : (run settings events).memory.tables.Keyed := (sound_run events).keyed
  obtain ⟨m, hm, -⟩ := (recorded_run settings events).onMatch hr
  obtain rfl := (hkeyed.request hr).1
  have hresponded := responded_responded events hr hm
  -- A stored request has a match, so the checks can fail in three ways only.
  generalize (run settings events).memory = held at *
  have hrefused := @Operation.inUnit_respondWork_refused r.id responder held
  by_cases hto : r.toUser = responder
  · subst hto
    by_cases hpending : r.status = .pending
    · cases hs : m.state with
      | active =>
        rw [Operation.inUnit_respondWork hkeyed hr hpending hm hs]
        by_cases hsink : held.rejectsNotifications = true
        · rw [if_pos hsink]
          exact .refusedNotice m rfl hpending hm hs hsink
        · have hquiet : held.rejectsNotifications = false := Bool.eq_false_iff.2 hsink
          rw [if_neg hsink, Memory.settle]
          by_cases hnone : held.commitConflicts = 0
          · have hclosed : r.closed (Operation.verdict accept).2.2 now = { r with
                status := if accept then .accepted else .declined
                respondedAt := some now } := by
              cases accept <;> rfl
            rw [if_pos hnone, hclosed]
            exact .answered m _ rfl hpending hm hs hquiet hnone (hresponded hs accept now _)
          · rw [if_neg hnone]
            exact .conflict m rfl hpending hm hs hquiet hnone
      | friends =>
        rw [hrefused (e := .noActiveMatch) (by
          simp [Tables.toAnswer, hr, FriendRequest.isPending, hpending, hm, hs,
            MatchState.isTerminal])]
        exact .noActiveMatch m rfl hpending hm hs
      | gracefulExit | unmatched | blocked =>
        rw [hrefused (e := .alreadyTerminal m.state) (by
          simp [Tables.toAnswer, hr, FriendRequest.isPending, hpending, hm, hs,
            MatchState.isTerminal])]
        exact .alreadyTerminal m rfl hpending hm (by rw [hs]; rfl)
    · rw [hrefused (e := .alreadyResponded) (by
        simp [Tables.toAnswer, hr, FriendRequest.isPending, hpending])]
      exact .alreadyResponded rfl hpending
  · rw [hrefused (e := .notAuthorized) (by simp [Tables.toAnswer, hr, hto])]
    exact .notAuthorized hto

/-- **An answer to a friend request is decided by what is found under the locks.** Let the look of
the operation be taken after any events, and its locks be held after any further ones. The look
changes nothing. A request that it does not find is turned down, and nothing is written. One that it
finds is still stored under the locks of its two users, with the same users and match. From there on
the answer comes to what it would come to had the whole of it been carried out then: it passes the
checks on the receiver, on the status and on the match in this order, or nothing is written. -/
theorem answer_decided_under_locks (settings : Settings) (before between : List Event) (id : Uuid)
    (responder : UserId) (accept : Bool) (first second : Readings) :
    let op := Operation.respond id responder accept
    let seen := (run settings before).memory
    let held := (run settings (before ++ between)).memory
    let planned := op.plan first seen
    planned.2 = seen ∧
    (seen.tables.requests[id]? = none →
      planned.1.finish second held = (.error (.error .requestNotFound), held)) ∧
    ∀ r, seen.tables.requests[id]? = some r →
      (∃ body, planned.1 = .locked r.fromUser r.toUser 0 body) ∧
      (∀ first', planned.1.finish second held = op.run first' second held) ∧
      ∃ current, held.tables.requests[id]? = some current ∧
        current = { r with status := current.status, respondedAt := current.respondedAt } ∧
        Response held responder accept (second 0) current (planned.1.finish second held) := by
  intro op seen held planned
  have hplan (first : Readings) (m : Memory) :
      op.plan first m = _ := Operation.plan_respond id responder accept first m
  have hplanned : planned = _ := hplan first seen
  refine ⟨by rw [hplanned], fun hnone => by rw [hplanned, hnone]; rfl, fun r hr => ?_⟩
  obtain ⟨current, hcurrent, hturns⟩ := turnsInto_run before between hr
  have hfinish : planned.1.finish second held =
      (Operation.respondWork id responder accept (second 0)).inUnit held := by
    rw [hplanned, hr]
    rfl
  refine ⟨⟨_, by rw [hplanned, hr]⟩, fun first' => ?_, current, hcurrent, hturns, ?_⟩
  · have hstored : held.tables.requests[id]? = some current := hcurrent
    rw [hfinish, Operation.run, hplan, hstored]
    rfl
  · rw [hfinish]
    exact response_inUnit (before ++ between) hcurrent responder accept (second 0)

/-- One of two users who match proposes a friendship to the other. -/
def proposed : List Event :=
  inTurn .epoch [.swipe ⟨.ofNat 1, .ofNat 2⟩ .like, .swipe ⟨.ofNat 2, .ofNat 1⟩ .like,
    .propose ⟨.ofNat 1, .ofNat 2⟩ "let us be friends"]

/-- The one who proposed leaves the match. -/
def leaving : List Event := inTurn .epoch [.unmatch ⟨.ofNat 1, .ofNat 2⟩]

theorem proposed_leaves :
    let r := FriendRequest.new (.fresh 2) (.ofNat 1) (.ofNat 2) "let us be friends" .epoch
    (run {} proposed).memory.tables.requests[Uuid.fresh 2]? = some r ∧
      (run {} (proposed ++ leaving)).memory.tables.requests[Uuid.fresh 2]? =
        some (r.closed .expired .epoch) := by
  decide +kernel

/-- The request expires before the locks are held, so the receiver's yes comes too late. -/
theorem answer_decided_under_locks_expired :
    let held := (run {} (proposed ++ leaving)).memory
    let planned := (Operation.respond (.fresh 2) (.ofNat 2) true).plan (.still .epoch)
      (run {} proposed).memory
    planned.1.finish (.still .epoch) held = (.error (.error .alreadyResponded), held) := by
  intro held planned
  obtain ⟨hseen, hheld⟩ := proposed_leaves
  obtain ⟨-, -, hfound⟩ := answer_decided_under_locks {} proposed leaving (.fresh 2) (.ofNat 2)
    true (.still .epoch) (.still .epoch)
  obtain ⟨-, -, current, hcurrent, -, hresponse⟩ := hfound _ hseen
  rw [hheld] at hcurrent
  cases hcurrent
  change Response held _ _ _ _ (planned.1.finish _ held) at hresponse
  generalize planned.1.finish (.still .epoch) held = come at hresponse ⊢
  cases hresponse with
  | notAuthorized hto => exact absurd rfl hto
  | alreadyResponded => rfl
  | alreadyTerminal _ _ hpending | noActiveMatch _ _ hpending | refusedNotice _ _ hpending
  | conflict _ _ hpending | answered _ _ _ hpending => cases hpending

end World

end Courtship
