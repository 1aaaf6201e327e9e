import Courtship.Proofs.Effect.Calls
import Courtship.Proofs.PairName

/-! Every record is stored under the key that it names, and a pair of users has one key. -/

namespace Courtship

/-! ## New records -/

theorem Match.new_id (a b : UserId) (now : Instant) : (Match.new a b now).id = PairId.of a b :=
  PairId.of_inOrder a b

theorem Match.of_users_new (a b : UserId) (now : Instant) :
    PairId.of (Match.new a b now).userA (Match.new a b now).userB = PairId.of a b :=
  PairId.of_inOrder a b

theorem Conversation.new_id (a b : UserId) (now : Instant) :
    (Conversation.new a b now).id = PairId.of a b :=
  PairId.of_inOrder a b

theorem Conversation.of_users_new (a b : UserId) (now : Instant) :
    PairId.of (Conversation.new a b now).userA (Conversation.new a b now).userB = PairId.of a b :=
  PairId.of_inOrder a b

/-! ## What a transition keeps -/

namespace Match

variable (m : Match) (target : MatchState) (initiator : UserId) (reason : Option ArchiveReason)
  (now : Instant)

@[simp] theorem moved_id : (m.moved target initiator reason now).id = m.id := by
  unfold moved
  split <;> rfl

@[simp] theorem moved_userA : (m.moved target initiator reason now).userA = m.userA := by
  unfold moved
  split <;> rfl

@[simp] theorem moved_userB : (m.moved target initiator reason now).userB = m.userB := by
  unfold moved
  split <;> rfl

@[simp] theorem moved_createdAt :
    (m.moved target initiator reason now).createdAt = m.createdAt := by
  unfold moved
  split <;> rfl

@[simp] theorem moved_state : (m.moved target initiator reason now).state = target := by
  unfold moved
  split <;> rfl

end Match

/-! ## Transitions of a user of the match -/

theorem MatchState.canBecome_terminal {source target : MatchState} (hs : source.isTerminal = false)
    (ht : target.isTerminal = true) : source.canBecome target = true := by
  cases source <;> cases target <;> simp_all [isTerminal, canBecome]

namespace Match

variable {m : Match} {target : MatchState} {initiator : UserId}

theorem transition_changed (hi : m.involves initiator = true) (hs : m.state.isTerminal = false)
    (hcan : m.state.canBecome target = true) (reason : Option ArchiveReason) (now : Instant) :
    m.transition target initiator reason now =
      .ok (.changed (m.moved target initiator reason now)) := by
  have hrepeat : ¬(m.state = .gracefulExit ∧ target = .gracefulExit) := by
    rintro ⟨h, _⟩
    simp [h, MatchState.isTerminal] at hs
  simp [transition, hi, hs, hcan, hrepeat]

theorem transition_ended (hi : m.involves initiator = true) (hs : m.state.isTerminal = true)
    (hrepeat : ¬(m.state = .gracefulExit ∧ target = .gracefulExit))
    (reason : Option ArchiveReason) (now : Instant) :
    m.transition target initiator reason now = .error (.alreadyTerminal m.state) := by
  simp [transition, hi, hs, hrepeat]

theorem transition_repeated (hi : m.involves initiator = true) (hs : m.state = .gracefulExit)
    (reason : Option ArchiveReason) (now : Instant) :
    m.transition .gracefulExit initiator reason now = .ok (.unchanged m) := by
  simp [transition, hi, hs]

end Match

/-! ## Keys -/

namespace Tables

structure Keyed (t : Tables) : Prop where
  like : ∀ {arrow : Arrow} {l : Like}, t.likes[arrow]? = some l → l.arrow = arrow
  matchRow : ∀ {pair : PairId} {m : Match}, t.matchRows[pair]? = some m →
    m.id = pair ∧ PairId.of m.userA m.userB = pair
  block : ∀ {arrow : Arrow} {b : Block}, t.blocks[arrow]? = some b → b.arrow = arrow
  request : ∀ {id : Uuid} {r : FriendRequest}, t.requests[id]? = some r →
    r.id = id ∧ r.matchId = PairId.of r.fromUser r.toUser
  conversation : ∀ {pair : PairId} {c : Conversation}, t.conversations[pair]? = some c →
    c.id = pair ∧ PairId.of c.userA c.userB = pair

theorem keyed_empty : empty.Keyed where
  like h := by simp [empty] at h
  matchRow h := by simp [empty] at h
  block h := by simp [empty] at h
  request h := by simp [empty] at h
  conversation h := by simp [empty] at h

namespace Keyed

variable {t : Tables}

/-- Rows that are the old ones but for a row under its own key are again under their keys. -/
theorem of_set {κ ν : Type} [Ord κ] [Std.TransOrd κ] [Std.LawfulEqOrd κ] [DecidableEq κ]
    {P : κ → ν → Prop} {rows : Rows κ ν} (h : ∀ {key row}, rows[key]? = some row → P key row)
    {key : κ} {row : ν} (hrow : P key row) {key' : κ} {row' : ν}
    (h' : (rows.set key (some row))[key']? = some row') : P key' row' := by
  rw [Rows.get?_set] at h'
  split at h'
  · rename_i hkey
    cases h'
    rwa [← hkey]
  · exact h h'

theorem setLike (h : t.Keyed) {arrow : Arrow} {l : Like} (hl : l.arrow = arrow) :
    (t.setLike arrow l).Keyed :=
  { h with like := of_set h.like hl }

theorem setMatch (h : t.Keyed) {pair : PairId} {m : Match}
    (hm : m.id = pair ∧ PairId.of m.userA m.userB = pair) : (t.setMatch pair m).Keyed :=
  { h with matchRow := of_set h.matchRow hm }

theorem setRequest (h : t.Keyed) {id : Uuid} {r : FriendRequest}
    (hr : r.id = id ∧ r.matchId = PairId.of r.fromUser r.toUser) : (t.setRequest id r).Keyed :=
  { h with request := of_set h.request hr }

theorem setConversation (h : t.Keyed) {pair : PairId} {c : Conversation}
    (hc : c.id = pair ∧ PairId.of c.userA c.userB = pair) : (t.setConversation pair c).Keyed :=
  { h with conversation := of_set h.conversation hc }

theorem blocked (h : t.Keyed) (arrow : Arrow) (now : Instant) : (t.blocked arrow now).Keyed := by
  refine { h with block := ?_ }
  intro other b hb
  rw [blocked_blocks] at hb
  split at hb
  · exact h.block hb
  · have hnew : (⟨arrow.actor, arrow.target, now⟩ : Block).arrow = arrow := rfl
    exact of_set h.block hnew hb

theorem unblocked (h : t.Keyed) (arrow : Arrow) : (t.unblocked arrow).Keyed := by
  refine { h with block := ?_ }
  intro other b hb
  rw [unblocked_blocks, Rows.get?_set] at hb
  split at hb
  · cases hb
  · exact h.block hb

theorem notified (h : t.Keyed) (n : Notification) : (t.notified n).Keyed := { h with }

/-! ## Records of a pair -/

theorem moved (h : t.Keyed) {pair : PairId} {m : Match} (hm : t.matchRows[pair]? = some m)
    (target : MatchState) (initiator : UserId) (reason : Option ArchiveReason) (now : Instant) :
    (m.moved target initiator reason now).id = pair ∧
      PairId.of (m.moved target initiator reason now).userA
        (m.moved target initiator reason now).userB = pair := by
  rw [Match.moved_id, Match.moved_userA, Match.moved_userB]
  exact h.matchRow hm

theorem involves (h : t.Keyed) {a b : UserId} {m : Match}
    (hm : t.matchRows[PairId.of a b]? = some m) : m.involves a = true ∧ m.involves b = true := by
  unfold Match.involves
  rcases PairId.of_eq_iff.1 (h.matchRow hm).2 with ⟨ha, hb⟩ | ⟨ha, hb⟩ <;> simp [ha, hb]

/-- Either user can end a match of the two that has not ended yet. -/
theorem transition_ending (h : t.Keyed) {a b : UserId} {m : Match}
    (hm : t.matchRows[PairId.of a b]? = some m) (hs : m.state.isTerminal = false)
    {target : MatchState} (htarget : target.isTerminal = true) (reason : Option ArchiveReason)
    (now : Instant) :
    m.transition target a reason now = .ok (.changed (m.moved target a reason now)) := by
  have hcan := MatchState.canBecome_terminal hs htarget
  exact Match.transition_changed (h.involves hm).1 hs hcan reason now

theorem upserted (h : t.Keyed) (arrow : Arrow) (direction : Direction) (now : Instant)
    (id : Uuid) : (t.upserted arrow direction now id).arrow = arrow := by
  unfold Tables.upserted
  split
  · rename_i l hl
    have harrow : l.arrow = arrow := h.like hl
    exact harrow
  · rfl

theorem matchOf (h : t.Keyed) (a b : UserId) (now : Instant) :
    (t.matchOf a b now).id = PairId.of a b ∧
      PairId.of (t.matchOf a b now).userA (t.matchOf a b now).userB = PairId.of a b := by
  unfold Tables.matchOf
  cases hm : t.matchRows[PairId.of a b]? with
  | none => exact ⟨Match.new_id a b now, Match.of_users_new a b now⟩
  | some m => exact h.matchRow hm

theorem conversationOf (h : t.Keyed) (a b : UserId) (now : Instant) :
    (t.conversationOf a b now).id = PairId.of a b ∧
      PairId.of (t.conversationOf a b now).userA (t.conversationOf a b now).userB =
        PairId.of a b := by
  unfold Tables.conversationOf
  cases hc : t.conversations[PairId.of a b]? with
  | none => exact ⟨Conversation.new_id a b now, Conversation.of_users_new a b now⟩
  | some c => exact h.conversation hc

end Keyed

end Tables

end Courtship
