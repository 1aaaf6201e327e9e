import Courtship.Proofs.Lifecycle

/-! Requests that wait for an answer, and the matches that they are about. Whatever else takes a
match out of the active state closes them; the undoing of a swipe does not. -/

namespace Courtship

namespace Tables

/-- A request that is pending once those on a match were closed is one on another match. -/
theorem pending_of_expire {t : Tables} {pair : PairId} {now : Instant} {id : Uuid}
    {r : FriendRequest} (hr : (t.expire pair now).requests[id]? = some r)
    (hpending : r.isPending = true) : t.requests[id]? = some r ∧ r.matchId ≠ pair := by
  rw [getElem?_expire, Option.map_eq_some_iff] at hr
  obtain ⟨r', hr', rfl⟩ := hr
  by_cases hclosed : (r'.isPending && decide (r'.matchId = pair)) = true
  · rw [FriendRequest.expiredOn, if_pos hclosed] at hpending
    simp [FriendRequest.isPending, FriendRequest.closed] at hpending
  · have hsame : r'.expiredOn pair now = r' := if_neg hclosed
    rw [hsame] at hpending ⊢
    refine ⟨hr', ?_⟩
    intro hpair
    simp [hpending, hpair] at hclosed

theorem getElem?_matchRows_swiped {t : Tables} {pair : PairId} {m : Match}
    (h : t.matchRows[pair]? = some m) (arrow : Arrow) (direction : Direction) (now : Instant)
    (id : Uuid) : (t.swiped arrow direction now id).matchRows[pair]? = some m := by
  rw [swiped_matchRows]
  split
  · rw [Rows.get?_set]
    split
    · rename_i hpair
      rw [matchOf, hpair, h, Option.getD_some]
    · exact h
  · exact h

end Tables

namespace World

/-- Whether this is an undoing that was answered with the end of the match. -/
def Outcome.endsMatch (pair : PairId) : Outcome → Bool
  | .done (.undoLastSwipe _) _ result => result.unmatched.any fun m => m.id = pair
  | _ => false

/-- Whether some undoing so far ended the match. -/
def endedByUndo (pair : PairId) (outcomes : List Outcome) : Bool :=
  outcomes.any (Outcome.endsMatch pair)

theorem endedByUndo_cons (pair : PairId) (o : Outcome) (outcomes : List Outcome) :
    endedByUndo pair (o :: outcomes) = (o.endsMatch pair || endedByUndo pair outcomes) :=
  List.any_cons

/-- A pending request has a match, and that is active unless an undoing ended it. -/
structure Waiting (t : Tables) (outcomes : List Outcome) : Prop where
  ended : ∀ {pair : PairId}, endedByUndo pair outcomes = true →
    ∃ m, t.matchRows[pair]? = some m ∧ m.state = .unmatched
  pending : ∀ {id : Uuid} {r : FriendRequest}, t.requests[id]? = some r → r.isPending = true →
    ∃ m, t.matchRows[r.matchId]? = some m ∧
      (m.state = .active ∨ endedByUndo r.matchId outcomes = true)

variable {settings : Settings} {readings : Readings} {t t' : Tables} {outcomes : List Outcome}

/-- The match that an undoing answers with is stored as unmatched. -/
theorem unmatched_of_endsMatch {c : Command} {answer : c.Answer}
    (h : Effect settings readings t c answer t') (ht : t.Keyed) {pair : PairId}
    (hends : Outcome.endsMatch pair (.done c readings answer) = true) :
    ∃ m, t'.matchRows[pair]? = some m ∧ m.state = .unmatched := by
  cases h with
  | undo arrow l hl =>
    obtain ⟨m', hm', hid⟩ := (Option.any_eq_true ..).1 hends
    rw [decide_eq_true_eq] at hid
    simp only [Tables.matchEnded, Option.map_eq_some_iff] at hm'
    obtain ⟨m, hend, rfl⟩ := hm'
    have hpair : PairId.of arrow.actor arrow.target = pair := by
      rw [← hid, Match.moved_id]
      exact (ht.matchRow (Tables.matchToEnd_eq_some.1 hend).2.1).1.symm
    refine ⟨m.moved .unmatched arrow.actor (some .unmatch) (readings 2), ?_, Match.moved_state ..⟩
    simp [Tables.matchEnded, hend, hpair]
  | swipe | propose | respond | exitAgain | exit | unmatch | block | unblock => cases hends

theorem Waiting.ended_effect {c : Command} {answer : c.Answer} (h : Waiting t outcomes)
    (heffect : Effect settings readings t c answer t') (ht : t.Keyed) {pair : PairId}
    (hended : endedByUndo pair (.done c readings answer :: outcomes) = true) :
    ∃ m, t'.matchRows[pair]? = some m ∧ m.state = .unmatched := by
  rw [endedByUndo_cons, Bool.or_eq_true] at hended
  rcases hended with hends | hended
  · exact unmatched_of_endsMatch heffect ht hends
  · obtain ⟨m, hm, hs⟩ := h.ended hended
    have hstep := heffect.matchStep ht pair
    rw [hm] at hstep
    obtain ⟨m', hm', rfl | hon⟩ := hstep.goesOn
    · exact ⟨m', hm', hs⟩
    · simpa [hs] using hon.state

/-- A request that was pending before, on a match that is what it was. -/
theorem Waiting.pending_kept (h : Waiting t outcomes) {o : Outcome} {id : Uuid}
    {r : FriendRequest} (hr : t.requests[id]? = some r) (hpending : r.isPending = true)
    (hsame : ∀ m, t.matchRows[r.matchId]? = some m → t'.matchRows[r.matchId]? = some m) :
    ∃ m, t'.matchRows[r.matchId]? = some m ∧
      (m.state = .active ∨ endedByUndo r.matchId (o :: outcomes) = true) := by
  obtain ⟨m, hm, hs⟩ := h.pending hr hpending
  refine ⟨m, hsame m hm, ?_⟩
  rcases hs with hs | hended
  · exact .inl hs
  · exact .inr (by rw [endedByUndo_cons, hended, Bool.or_true])

/-- The undoing of a swipe leaves a request pending whose match it ends: its answer says so. -/
theorem Waiting.pending_undone (h : Waiting t outcomes) (ht : t.Keyed) (arrow : Arrow) (l : Like)
    {id : Uuid} {r : FriendRequest} (hr : t.requests[id]? = some r)
    (hpending : r.isPending = true) :
    ∃ m, (t.undone arrow l (readings 0) (readings 2)).matchRows[r.matchId]? = some m ∧
      (m.state = .active ∨ endedByUndo r.matchId (.done (.undoLastSwipe arrow.actor) readings
        ⟨l.withdrawn (readings 0), t.matchEnded arrow l (readings 2)⟩ :: outcomes) = true) := by
  cases hend : t.matchToEnd arrow l with
  | none =>
    refine h.pending_kept hr hpending fun m hm => ?_
    simpa [Tables.matchEnded, hend] using hm
  | some ending =>
    by_cases hpair : PairId.of arrow.actor arrow.target = r.matchId
    · have hid := (ht.matchRow (Tables.matchToEnd_eq_some.1 hend).2.1).1
      have hended : t.matchEnded arrow l (readings 2) =
          some (ending.moved .unmatched arrow.actor (some .unmatch) (readings 2)) := by
        rw [Tables.matchEnded, hend, Option.map_some]
      refine ⟨ending.moved .unmatched arrow.actor (some .unmatch) (readings 2), ?_, .inr ?_⟩
      · simp [hended, hpair]
      · simp [endedByUndo_cons, Outcome.endsMatch, hended, hid, hpair]
    · refine h.pending_kept hr hpending fun m hm => ?_
      simpa [Tables.matchEnded, hend, Rows.getElem?_set_of_ne _ hpair] using hm

theorem Waiting.pending_effect {c : Command} {answer : c.Answer} (h : Waiting t outcomes)
    (heffect : Effect settings readings t c answer t') (ht : t.Keyed) {id : Uuid}
    {r : FriendRequest} (hr : t'.requests[id]? = some r) (hpending : r.isPending = true) :
    ∃ m, t'.matchRows[r.matchId]? = some m ∧
      (m.state = .active ∨
        endedByUndo r.matchId (.done c readings answer :: outcomes) = true) := by
  cases heffect with
  | swipe arrow direction likeId =>
    exact h.pending_kept hr hpending fun m hm => Tables.getElem?_matchRows_swiped hm _ _ _ _
  | undo arrow l hl => exact h.pending_undone ht arrow l hr hpending
  | propose arrow message requestId noticeId hne hopen hfree =>
    rw [Tables.proposed, Tables.notified_requests, Tables.setRequest_requests, Rows.get?_set] at hr
    split at hr
    · cases hr
      obtain ⟨m, hm, hs⟩ := Tables.isActive_eq_true.1 (Tables.proposalRefusal_eq_none.1 hopen).1
      exact ⟨m, hm, .inl hs⟩
    · exact h.pending_kept hr hpending fun _ hm => hm
  | respond requestId noticeId responder accept answered current hfound =>
    obtain ⟨hr, hother⟩ := Tables.pending_of_expire hr hpending
    rw [Tables.setRequest_requests, Rows.get?_set] at hr
    split at hr
    · cases hr
      cases accept <;> cases hpending
    · refine h.pending_kept hr hpending fun m hm => ?_
      exact (Rows.getElem?_set_of_ne _ (Ne.symm hother) _).trans hm
  | exitAgain => exact h.pending_kept hr hpending fun _ hm => hm
  | exit arrow current noticeId hstored hs =>
    obtain ⟨hr, hother⟩ := Tables.pending_of_expire hr hpending
    refine h.pending_kept hr hpending fun m hm => ?_
    exact (Rows.getElem?_set_of_ne _ (Ne.symm hother) _).trans hm
  | unmatch arrow current hstored hs =>
    obtain ⟨hr, hother⟩ := Tables.pending_of_expire hr hpending
    refine h.pending_kept hr hpending fun m hm => ?_
    exact (Rows.getElem?_set_of_ne _ (Ne.symm hother) _).trans hm
  | block arrow hne =>
    rw [Tables.barred_requests] at hr
    split at hr
    · obtain ⟨hr, hother⟩ := Tables.pending_of_expire hr hpending
      refine h.pending_kept hr hpending fun m hm => ?_
      exact (Rows.getElem?_set_of_ne _ (Ne.symm hother) _).trans hm
    · rename_i hnone
      refine h.pending_kept hr hpending fun m hm => ?_
      have hother : PairId.of arrow.actor arrow.target ≠ r.matchId := by
        intro hpair
        rw [hpair, hm] at hnone
        exact hnone rfl
      exact (Rows.getElem?_set_of_ne _ hother _).trans hm
  | unblock => exact h.pending_kept hr hpending fun _ hm => hm

theorem waiting_run (settings : Settings) (events : List Event) :
    Waiting (run settings events).memory.tables (run settings events).outcomes := by
  refine run_induction (P := Waiting) ?_ ?_ ?_ events
  · exact ⟨by simp [endedByUndo], by simp [Tables.empty]⟩
  · intro t outcomes c why h
    exact ⟨h.ended, fun hr hpending => h.pending_kept hr hpending fun _ hm => hm⟩
  · intro events t' c readings answer h heffect
    have ht : (run settings events).memory.tables.Keyed := (sound_run events).keyed
    exact ⟨h.ended_effect heffect ht, h.pending_effect heffect ht⟩

/-- **When a pending request has an active match.** In every run a stored request that is pending
has a stored match, and that is active exactly if no undoing of a swipe ended it; the match is
unmatched if one did. -/
theorem pending_request_match (settings : Settings) (events : List Event) {id : Uuid}
    {r : FriendRequest} (hr : (run settings events).memory.tables.requests[id]? = some r)
    (hpending : r.status = .pending) :
    ∃ m, (run settings events).memory.tables.matchRows[r.matchId]? = some m ∧
      (endedByUndo r.matchId (run settings events).outcomes = false → m.state = .active) ∧
      (endedByUndo r.matchId (run settings events).outcomes = true → m.state = .unmatched) := by
  have h := waiting_run settings events
  obtain ⟨m, hm, hs⟩ := h.pending hr (by simp [FriendRequest.isPending, hpending])
  refine ⟨m, hm, fun hnot => hs.resolve_right (by simp [hnot]), fun hended => ?_⟩
  obtain ⟨m', hm', hunmatched⟩ := h.ended hended
  rw [hm] at hm'
  cases hm'
  exact hunmatched

/-- Two users match, one proposes a friendship, and the other takes back the swipe. -/
def takenBack : List Event :=
  inTurn .epoch [.swipe ⟨.ofNat 1, .ofNat 2⟩ .like, .swipe ⟨.ofNat 2, .ofNat 1⟩ .like,
    .propose ⟨.ofNat 1, .ofNat 2⟩ "let us be friends", .undoLastSwipe (.ofNat 2)]

theorem takenBack_leaves :
    let w := run {} takenBack
    w.memory.tables.requests[Uuid.fresh 2]? =
        some (.new (.fresh 2) (.ofNat 1) (.ofNat 2) "let us be friends" .epoch) ∧
      w.memory.tables.matchRows[PairId.of (.ofNat 1) (.ofNat 2)]?.map Match.state =
        some .unmatched ∧
      endedByUndo (.of (.ofNat 1) (.ofNat 2)) w.outcomes = true := by
  decide +kernel

theorem pending_request_match_taken_back :
    let r := FriendRequest.new (.fresh 2) (.ofNat 1) (.ofNat 2) "let us be friends" .epoch
    (run {} takenBack).memory.tables.requests[r.id]? = some r ∧ r.status = .pending ∧
      endedByUndo r.matchId (run {} takenBack).outcomes = true ∧
      ∃ m, (run {} takenBack).memory.tables.matchRows[r.matchId]? = some m ∧
        m.state = .unmatched := by
  obtain ⟨hr, _, hended⟩ := takenBack_leaves
  obtain ⟨m, hm, _, hunmatched⟩ := pending_request_match {} takenBack hr rfl
  exact ⟨hr, rfl, hended, m, hm, hunmatched hended⟩

/-- A pending request need not have an active match. -/
theorem not_all_pending_requests_active :
    ¬∀ (settings : Settings) (events : List Event) (id : Uuid) (r : FriendRequest),
      (run settings events).memory.tables.requests[id]? = some r → r.status = .pending →
        ∃ m, (run settings events).memory.tables.matchRows[r.matchId]? = some m ∧
          m.state = .active := by
  intro hall
  obtain ⟨hr, hstate, _⟩ := takenBack_leaves
  obtain ⟨m, hm, hactive⟩ := hall {} takenBack _ _ hr rfl
  have hpair : (FriendRequest.new (.fresh 2) (.ofNat 1) (.ofNat 2) "let us be friends"
      .epoch).matchId = PairId.of (.ofNat 1) (.ofNat 2) := rfl
  rw [hpair] at hm
  rw [hm, Option.map_some, hactive] at hstate
  cases hstate

end World

end Courtship
