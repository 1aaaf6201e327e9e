import Courtship.Proofs.Effect.Closing

/-! What is left of the tables when a user ends the match with another, by a graceful exit or by an
unmatch. -/

namespace Courtship

namespace Tables

/-- The tables once the match `m` of the pair has been left. -/
@[simps] def left (t : Tables) (arrow : Arrow) (m : Match) (target : MatchState)
    (reason : ArchiveReason) (now : Instant) : Tables :=
  { t with
    matchRows := t.matchRows.set (.of arrow.actor arrow.target)
      (some (m.moved target arrow.actor (some reason) now))
    requests := (t.expire (.of arrow.actor arrow.target) now).requests
    conversations := t.conversations.set (.of arrow.actor arrow.target)
      (some ((t.conversationOf arrow.actor arrow.target now).archiveOnce reason now)) }

theorem Keyed.left {t : Tables} (h : t.Keyed) {arrow : Arrow} {m : Match}
    (hm : t.matchRows[PairId.of arrow.actor arrow.target]? = some m) (target : MatchState)
    (reason : ArchiveReason) (now : Instant) : (t.left arrow m target reason now).Keyed where
  like := h.like
  matchRow := of_set h.matchRow (h.moved hm _ _ _ _)
  block := h.block
  request := (h.expire _ now).request
  conversation := by
    refine of_set h.conversation ?_
    simpa using h.conversationOf arrow.actor arrow.target now

/-- The tables once `arrow.target` has been told of a graceful exit too. -/
def exited (t : Tables) (arrow : Arrow) (m : Match) (id : Uuid) (now : Instant) : Tables :=
  (t.left arrow m .gracefulExit .gracefulExit now).notified
    (.new id arrow.target .gracefulExit
      (.gracefulExit (.of arrow.actor arrow.target) arrow.actor) now)

theorem Keyed.exited {t : Tables} (h : t.Keyed) {arrow : Arrow} {m : Match}
    (hm : t.matchRows[PairId.of arrow.actor arrow.target]? = some m) (id : Uuid)
    (now : Instant) : (t.exited arrow m id now).Keyed :=
  (h.left hm _ _ now).notified _

end Tables

namespace Operation

variable {arrow : Arrow} {m : Memory} {current : Match}

theorem perform_leave_absent (h : m.tables.matchRows[PairId.of arrow.actor arrow.target]? = none)
    (target : MatchState) (reason : ArchiveReason) (now : Instant) :
    (leave arrow target reason now).perform m = (.error (.error .matchNotFound), m) := by
  simp [leave, Work.bind_eq, Work.run, h]

theorem perform_leave_ended (hm : m.tables.Keyed)
    (h : m.tables.matchRows[PairId.of arrow.actor arrow.target]? = some current)
    (hs : current.state.isTerminal = true) {target : MatchState}
    (hrepeat : ¬(current.state = .gracefulExit ∧ target = .gracefulExit))
    (reason : ArchiveReason) (now : Instant) :
    (leave arrow target reason now).perform m =
      (.error (.error (.alreadyTerminal current.state)), m) := by
  simp [leave, Work.bind_eq, Work.run, h,
    Match.transition_ended (hm.involves h).1 hs hrepeat, EngineError.ofTransition]

theorem perform_leave_repeated (hm : m.tables.Keyed)
    (h : m.tables.matchRows[PairId.of arrow.actor arrow.target]? = some current)
    (hs : current.state = .gracefulExit) (reason : ArchiveReason) (now : Instant) :
    (leave arrow .gracefulExit reason now).perform m = (.ok (.unchanged current), m) := by
  simp [leave, Work.bind_eq, Work.pure_eq, Work.run, h,
    Match.transition_repeated (hm.involves h).1 hs]

theorem perform_leave (hm : m.tables.Keyed)
    (h : m.tables.matchRows[PairId.of arrow.actor arrow.target]? = some current)
    (hs : current.state.isTerminal = false) {target : MatchState}
    (ht : target.isTerminal = true) (reason : ArchiveReason) (now : Instant) :
    (leave arrow target reason now).perform m =
      (.ok (.changed (current.moved target arrow.actor (some reason) now)),
        { m with tables := m.tables.left arrow current target reason now }) := by
  have hid := (hm.matchRow h).1
  have hkeyed : (m.tables.setMatch (.of arrow.actor arrow.target)
      (current.moved target arrow.actor (some reason) now)).Keyed :=
    hm.setMatch (hm.moved h _ _ _ _)
  have htransition := hm.transition_ending h hs ht (some reason) now
  have hupdate := m.perform_updateMatchState h hid target arrow.actor (some reason) now
  simp only [leave, Work.bind_eq, Work.pure_eq, Work.run, Work.call_bind, Work.done_bind,
    Work.perform_call, Memory.perform_getMatch, h, Work.orReject_some, htransition, hupdate]
  rw [Work.perform_bind, Match.moved_id, hid, perform_expirePending _ _ _ hkeyed]
  simp only
  rw [Work.perform_bind, perform_archiveOf _ _ _ _ _ (hkeyed.expire _ _)]
  rfl

/-- What a match in either kind of state makes of leaving it. -/
theorem leave_ok {target : MatchState} {reason : ArchiveReason} {now : Instant} {r : Transition}
    {m' : Memory} (hm : m.tables.Keyed) (ht : target.isTerminal = true)
    (h : (leave arrow target reason now).perform m = (.ok r, m')) :
    ∃ current, m.tables.matchRows[PairId.of arrow.actor arrow.target]? = some current ∧
      ((current.state = .gracefulExit ∧ target = .gracefulExit ∧ r = .unchanged current ∧
          m' = m) ∨
        (current.state.isTerminal = false ∧
          r = .changed (current.moved target arrow.actor (some reason) now) ∧
          m' = { m with tables := m.tables.left arrow current target reason now })) := by
  cases hstored : m.tables.matchRows[PairId.of arrow.actor arrow.target]? with
  | none =>
    rw [perform_leave_absent hstored] at h
    cases h
  | some current =>
    refine ⟨current, rfl, ?_⟩
    by_cases hs : current.state.isTerminal = true
    · by_cases hrepeat : current.state = .gracefulExit ∧ target = .gracefulExit
      · obtain ⟨hexit, rfl⟩ := hrepeat
        rw [perform_leave_repeated hm hstored hexit] at h
        cases h
        exact .inl ⟨hexit, rfl, rfl, rfl⟩
      · rw [perform_leave_ended hm hstored hs hrepeat] at h
        cases h
    · have hopen : current.state.isTerminal = false := by simpa using hs
      rw [perform_leave hm hstored hopen ht] at h
      cases h
      exact .inr ⟨hopen, rfl, rfl⟩

theorem perform_gracefulExitWork (hm : m.tables.Keyed)
    (h : m.tables.matchRows[PairId.of arrow.actor arrow.target]? = some current)
    (hs : current.state.isTerminal = false) (now : Instant) :
    (gracefulExitWork arrow now).perform m =
      if m.rejectsNotifications then
        (.error (.error (.storage Memory.sinkError)), { m with
          tables := m.tables.left arrow current .gracefulExit .gracefulExit now })
      else
        (.ok (.commit
            (current.moved .gracefulExit arrow.actor (some .gracefulExit) now)), { m with
          tables := m.tables.exited arrow current (.fresh m.minted) now
          minted := m.minted + 1 }) := by
  have hexit : MatchState.gracefulExit.isTerminal = true := rfl
  simp only [gracefulExitWork, Work.bind_eq, Work.pure_eq, Work.perform_bind,
    perform_leave hm h hs hexit, perform_notify]
  rw [Match.moved_id, (hm.matchRow h).1]
  by_cases hreject : m.rejectsNotifications <;>
    simp [hreject, Tables.exited, NotificationPayload.type]

/-- A repeated graceful exit changes nothing. -/
theorem inUnit_gracefulExitWork_ok {now : Instant} {answer : Match} {m' : Memory}
    (hm : m.tables.Keyed) (h : (gracefulExitWork arrow now).inUnit m = (.ok answer, m')) :
    ∃ current, m.tables.matchRows[PairId.of arrow.actor arrow.target]? = some current ∧
      ((current.state = .gracefulExit ∧ answer = current ∧ m'.tables = m.tables) ∨
        (current.state.isTerminal = false ∧
          answer = current.moved .gracefulExit arrow.actor (some .gracefulExit) now ∧
          m'.tables = m.tables.exited arrow current (.fresh m.minted) now)) := by
  have hexit : MatchState.gracefulExit.isTerminal = true := rfl
  rcases hleave : (leave arrow .gracefulExit .gracefulExit now).perform m with ⟨why | r, left⟩
  · rcases Work.inUnit_ok h with h | ⟨_, h, _⟩ <;>
      simp [gracefulExitWork, Work.bind_eq, hleave] at h
  · obtain ⟨current, hstored, ⟨hs, _, rfl, rfl⟩ | ⟨hs, rfl, rfl⟩⟩ := leave_ok hm hexit hleave <;>
      refine ⟨current, hstored, ?_⟩
    · rcases Work.inUnit_ok h with h | ⟨_, h, hsame⟩ <;>
        simp [gracefulExitWork, Work.bind_eq, Work.pure_eq, hleave] at h
      exact .inl ⟨hs, h.1.symm, hsame⟩
    · rcases Work.inUnit_ok h with h | ⟨_, h, _⟩ <;>
        rw [perform_gracefulExitWork hm hstored hs] at h <;> split at h <;> cases h
      exact .inr ⟨hs, rfl, rfl⟩

theorem inUnit_unmatchWork_ok {now : Instant} {answer : Match} {m' : Memory}
    (hm : m.tables.Keyed) (h : (unmatchWork arrow now).inUnit m = (.ok answer, m')) :
    ∃ current, m.tables.matchRows[PairId.of arrow.actor arrow.target]? = some current ∧
      current.state.isTerminal = false ∧
      answer = current.moved .unmatched arrow.actor (some .unmatch) now ∧
      m'.tables = m.tables.left arrow current .unmatched .unmatch now := by
  have hunmatched : MatchState.unmatched.isTerminal = true := rfl
  rcases hleave : (leave arrow .unmatched .unmatch now).perform m with ⟨why | r, left⟩ <;>
    rcases Work.inUnit_ok h with h | ⟨_, h, _⟩ <;>
    simp [unmatchWork, Work.bind_eq, Work.pure_eq, hleave] at h
  obtain ⟨rfl, rfl⟩ := h
  obtain ⟨current, hstored, ⟨_, hne, _, _⟩ | ⟨hs, rfl, rfl⟩⟩ := leave_ok hm hunmatched hleave
  · cases hne
  · exact ⟨current, hstored, hs, rfl, rfl⟩

end Operation

end Courtship
