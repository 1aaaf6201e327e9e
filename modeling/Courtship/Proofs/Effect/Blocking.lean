import Courtship.Proofs.Effect.Closing

/-! What a block does to the relationship of two users, and that lifting it only lifts it. -/

namespace Courtship

/-- The match once one of its users has blocked the other: an ended one stays as it is. -/
def Match.barredBy (m : Match) (user : UserId) (now : Instant) : Match :=
  if m.state.isTerminal then m else m.moved .blocked user (some .block) now

namespace Match

variable (m : Match) (user : UserId) (now : Instant)

@[simp] theorem barredBy_id : (m.barredBy user now).id = m.id := by
  unfold barredBy
  split <;> simp

@[simp] theorem barredBy_userA : (m.barredBy user now).userA = m.userA := by
  unfold barredBy
  split <;> simp

@[simp] theorem barredBy_userB : (m.barredBy user now).userB = m.userB := by
  unfold barredBy
  split <;> simp

theorem isTerminal_barredBy : (m.barredBy user now).state.isTerminal = true := by
  unfold barredBy
  split
  · assumption
  · rw [moved_state]
    rfl

end Match

namespace Tables

/-- The conversation that a block hides. Where there is a match but no conversation, it is a new
one. -/
def conversationToHide (t : Tables) (arrow : Arrow) (now : Instant) : Option Conversation :=
  t.conversations[PairId.of arrow.actor arrow.target]?.or
    (t.matchRows[PairId.of arrow.actor arrow.target]?.map fun _ =>
      Conversation.new arrow.actor arrow.target now)

/-- The tables once `arrow.actor` has blocked `arrow.target`. -/
@[simps] def barred (t : Tables) (arrow : Arrow) (now : Instant) : Tables where
  likes := t.likes
  matchRows := t.matchRows.set (.of arrow.actor arrow.target)
    (t.matchRows[PairId.of arrow.actor arrow.target]?.map fun m => m.barredBy arrow.actor now)
  blocks := (t.blocked arrow now).blocks
  requests :=
    if t.matchRows[PairId.of arrow.actor arrow.target]?.isSome then
      (t.expire (.of arrow.actor arrow.target) now).requests
    else t.requests
  conversations := t.conversations.set (.of arrow.actor arrow.target)
    ((t.conversationToHide arrow now).map fun c =>
      (c.archiveOnce .block now).hiddenFrom arrow.actor)
  notifications := t.notifications

theorem Keyed.conversationToHide {t : Tables} (h : t.Keyed) {arrow : Arrow} {now : Instant}
    {c : Conversation} (hc : t.conversationToHide arrow now = some c) :
    c.id = PairId.of arrow.actor arrow.target ∧
      PairId.of c.userA c.userB = PairId.of arrow.actor arrow.target := by
  unfold Tables.conversationToHide at hc
  cases hstored : t.conversations[PairId.of arrow.actor arrow.target]? with
  | some c' =>
    rw [hstored] at hc
    cases hc
    exact h.conversation hstored
  | none =>
    rw [hstored, Option.none_or, Option.map_eq_some_iff] at hc
    obtain ⟨_, _, rfl⟩ := hc
    exact ⟨Conversation.new_id _ _ _, Conversation.of_users_new _ _ _⟩

theorem Keyed.barred {t : Tables} (h : t.Keyed) (arrow : Arrow) (now : Instant) :
    (t.barred arrow now).Keyed where
  like := h.like
  matchRow := by
    rw [barred_matchRows]
    cases hm : t.matchRows[PairId.of arrow.actor arrow.target]? with
    | none => rw [Option.map_none, Rows.set_eq_self hm]; exact h.matchRow
    | some m => exact of_set h.matchRow (by simpa using h.matchRow hm)
  block := (h.blocked arrow now).block
  request := by
    rw [barred_requests]
    split
    · exact (h.expire _ now).request
    · exact h.request
  conversation := by
    rw [barred_conversations]
    cases hc : t.conversationToHide arrow now with
    | none =>
      rw [Tables.conversationToHide, Option.or_eq_none_iff] at hc
      rw [Option.map_none, Rows.set_eq_self hc.1]
      exact h.conversation
    | some c => exact of_set h.conversation (by simpa using h.conversationToHide hc)

end Tables

namespace Operation

variable (arrow : Arrow) {m : Memory}

theorem perform_blockMatch (hm : m.tables.Keyed) (now : Instant) :
    (blockMatch arrow now).perform m =
      (.ok (m.tables.matchRows[PairId.of arrow.actor arrow.target]?.map fun found =>
          found.barredBy arrow.actor now), { m with
        tables := { m.tables with matchRows := (m.tables.barred arrow now).matchRows } }) := by
  cases h : m.tables.matchRows[PairId.of arrow.actor arrow.target]? with
  | none =>
    simp [blockMatch, Work.bind_eq, Work.pure_eq, Work.run, h, Rows.set_eq_self h]
  | some found =>
    by_cases hs : found.state.isTerminal = true
    · have hrepeat : ¬(found.state = .gracefulExit ∧ MatchState.blocked = .gracefulExit) := by simp
      simp [blockMatch, Work.bind_eq, Work.pure_eq, Work.run, h, Match.barredBy, hs,
        Match.transition_ended (hm.involves h).1 hs hrepeat, Rows.set_eq_self h]
    · have hopen : found.state.isTerminal = false := by simpa using hs
      have hid := (hm.matchRow h).1
      have hended : MatchState.blocked.isTerminal = true := rfl
      have htransition := hm.transition_ending h hopen hended (some .block) now
      have hupdate := m.perform_updateMatchState h hid .blocked arrow.actor (some .block) now
      simp [blockMatch, Work.bind_eq, Work.pure_eq, Work.run, h, Match.barredBy, hopen,
        htransition, hupdate, Tables.setMatch]

theorem perform_conversationToHide (now : Instant) :
    (conversationToHide arrow
        m.tables.matchRows[PairId.of arrow.actor arrow.target]?.isSome now).perform m =
      (.ok (m.tables.conversationToHide arrow now), { m with
        tables := { m.tables with
          conversations := m.tables.conversations.set (.of arrow.actor arrow.target)
            (m.tables.conversationToHide arrow now) } }) := by
  cases hc : m.tables.conversations[PairId.of arrow.actor arrow.target]? with
  | some c =>
    simp [conversationToHide, Work.bind_eq, Work.pure_eq, Work.run, Tables.conversationToHide, hc,
      Rows.set_eq_self hc]
  | none =>
    cases h : m.tables.matchRows[PairId.of arrow.actor arrow.target]? with
    | none =>
      simp [conversationToHide, Work.bind_eq, Work.pure_eq, Work.run, Tables.conversationToHide,
        hc, h, Rows.set_eq_self hc]
    | some found =>
      simp [conversationToHide, Work.bind_eq, Work.pure_eq, Work.map_eq, Work.run,
        Tables.conversationToHide, hc, h, Tables.conversationOf, Tables.setConversation]

/-- Archives and hides the conversation, if there is one to hide. -/
theorem perform_hide {pair : PairId} {c : Conversation} {user other : UserId}
    (hid : c.id = pair ∧ PairId.of c.userA c.userB = PairId.of user other)
    (h : m.tables.conversations[pair]? = some c) (now : Instant) :
    ((archiveOnce c .block now).bind fun _ => Work.run (.setVisibility c.id user false)).perform m =
      (.ok (), { m with
        tables := m.tables.setConversation pair
          ((c.archiveOnce .block now).hiddenFrom user) }) := by
  have hstored : m.tables.conversations[c.id]? = some c := by rw [hid.1, h]
  have harchived : (m.tables.setConversation pair (c.archiveOnce .block now)).conversations[pair]? =
      some (c.archiveOnce .block now) := by simp
  have hset : (c.archiveOnce .block now).setVisibility? user false =
      some ((c.archiveOnce .block now).hiddenFrom user) :=
    Conversation.setVisibility?_false (by simpa using hid.2)
  rw [Work.perform_bind, perform_archiveOnce hstored, hid.1]
  simp only [Work.run, Work.perform_call]
  rw [Memory.perform_setVisibility _ harchived hset]
  simp [Tables.setConversation, Rows.set_set]

/-- The last part of a block. -/
def hideConversation (arrow : Arrow) (hasMatch : Bool) (now : Instant) : Work Unit :=
  (conversationToHide arrow hasMatch now).bind fun found =>
    match found with
    | some c => (archiveOnce c .block now).bind fun _ =>
        Work.run (.setVisibility c.id arrow.actor false)
    | none => .done ()

theorem perform_hideConversation (hm : m.tables.Keyed) (now : Instant) :
    (hideConversation arrow
        m.tables.matchRows[PairId.of arrow.actor arrow.target]?.isSome now).perform m =
      (.ok (), { m with tables := { m.tables with
        conversations := (m.tables.barred arrow now).conversations } }) := by
  rw [hideConversation, Work.perform_bind, perform_conversationToHide]
  cases hc : m.tables.conversationToHide arrow now with
  | none => simp [hc]
  | some c =>
    simp only
    rw [perform_hide (hm.conversationToHide hc) (by simp)]
    simp [hc, Tables.setConversation, Rows.set_set]

theorem blockWork_eq (now : Instant) :
    blockWork arrow now =
      (Work.run (.recordBlock arrow now)).bind fun _ => (blockMatch arrow now).bind fun result =>
        (if result.isSome then expirePending (.of arrow.actor arrow.target) now
          else .done ()).bind fun _ =>
          (hideConversation arrow result.isSome now).bind fun _ => .done (.commit result) := by
  simp only [blockWork, hideConversation, Work.bind_eq, Work.pure_eq, Work.bind_assoc]
  congr
  funext _
  congr
  funext result
  cases result <;> simp only [Option.isSome_none, Option.isSome_some, Bool.false_eq_true,
    ↓reduceIte, Work.done_bind]
  · congr
    funext found
    cases found <;> simp [Work.bind_assoc]
  · congr
    funext _
    congr
    funext found
    cases found <;> simp [Work.bind_assoc]

theorem perform_blockWork (hm : m.tables.Keyed) (now : Instant) :
    (blockWork arrow now).perform m =
      (.ok (.commit (m.tables.matchRows[PairId.of arrow.actor arrow.target]?.map fun found =>
          found.barredBy arrow.actor now)),
        { m with tables := m.tables.barred arrow now }) := by
  have hkeyed := hm.barred arrow now
  have hrecord : (Work.run (.recordBlock arrow now)).perform m =
      (.ok (!m.tables.blocks.contains arrow),
        { m with tables := m.tables.blocked arrow now }) := by
    simp [Work.run]
  have hmatch : (blockMatch arrow now).perform { m with tables := m.tables.blocked arrow now } =
      (.ok (m.tables.matchRows[PairId.of arrow.actor arrow.target]?.map fun found =>
          found.barredBy arrow.actor now),
        { m with tables := { m.tables.barred arrow now with
          requests := m.tables.requests, conversations := m.tables.conversations } }) :=
    perform_blockMatch arrow (hm.blocked arrow now) now
  have hexpire : (if m.tables.matchRows[PairId.of arrow.actor arrow.target]?.isSome then
        expirePending (.of arrow.actor arrow.target) now
      else .done ()).perform { m with tables := { m.tables.barred arrow now with
        requests := m.tables.requests, conversations := m.tables.conversations } } =
      (.ok (), { m with tables := { m.tables.barred arrow now with
        conversations := m.tables.conversations } }) := by
    split
    · rw [perform_expirePending]
      · simp [Tables.expire, Tables.barred, *]
      · exact { hkeyed with request := hm.request, conversation := hm.conversation }
    · simp [Tables.barred, *]
  have hhide : (hideConversation arrow
        m.tables.matchRows[PairId.of arrow.actor arrow.target]?.isSome now).perform
        { m with tables := { m.tables.barred arrow now with
          conversations := m.tables.conversations } } =
      (.ok (), { m with tables := m.tables.barred arrow now }) := by
    have h := perform_hideConversation arrow (m := { m with tables :=
        { m.tables.barred arrow now with conversations := m.tables.conversations } })
      { hkeyed with conversation := hm.conversation } now
    simp only [Tables.barred_matchRows, Rows.getElem?_set_self, Option.isSome_map] at h
    refine h.trans ?_
    simp only [Tables.barred, Tables.conversationToHide, Rows.getElem?_set_self, Option.map_map]
    rfl
  rw [blockWork_eq, Work.perform_bind_ok hrecord, Work.perform_bind_ok hmatch, Option.isSome_map,
    Work.perform_bind_ok hexpire, Work.perform_bind_ok hhide, Work.perform_done]

theorem inUnit_blockWork_ok {arrow : Arrow} {now : Instant} {answer : Option Match} {m' : Memory}
    (hm : m.tables.Keyed) (h : (blockWork arrow now).inUnit m = (.ok answer, m')) :
    (answer = m.tables.matchRows[PairId.of arrow.actor arrow.target]?.map fun found =>
        found.barredBy arrow.actor now) ∧
      m'.tables = m.tables.barred arrow now := by
  rcases Work.inUnit_ok h with h | ⟨_, h, _⟩ <;> rw [perform_blockWork arrow hm] at h <;> cases h
  exact ⟨rfl, rfl⟩

/-- What lifting a block answers, and what it leaves. -/
theorem inUnit_unblock_ok {arrow : Arrow} {answer : Bool} {m' : Memory}
    (h : (Ending.commit <$> Work.run (.removeBlock arrow)).inUnit m = (.ok answer, m')) :
    answer = m.tables.blocks.contains arrow ∧ m'.tables = m.tables.unblocked arrow := by
  rcases Work.inUnit_ok h with h | ⟨_, h, _⟩ <;>
    simp only [Work.map_eq, Work.run, Work.call_bind, Work.done_bind, Work.perform_call,
      Memory.perform_removeBlock, Work.perform_done] at h <;>
    cases h
  exact ⟨rfl, rfl⟩

end Operation

end Courtship
