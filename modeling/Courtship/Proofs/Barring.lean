import Courtship.Proofs.Blocks
import Courtship.Proofs.Drafts
import Courtship.Proofs.Requests

/-! What a block does, and all that it does. Once it is made it has nothing left to do: as long as
it is not lifted, nobody can bring about anything that blocking once more would change. -/

namespace Courtship

/-! ## Hidden conversations -/

namespace Conversation

variable {c : Conversation} {a b : UserId}

theorem hiddenFrom_hiddenFrom (c : Conversation) (user : UserId) :
    (c.hiddenFrom user).hiddenFrom user = c.hiddenFrom user := by
  unfold hiddenFrom
  split <;> simp [*]

theorem isArchived_archiveOnce (c : Conversation) (reason : ArchiveReason) (now : Instant) :
    (c.archiveOnce reason now).isArchived = true := by
  unfold archiveOnce
  split
  · assumption
  · rfl

theorem isArchived_hiddenFrom (c : Conversation) (user : UserId) :
    (c.hiddenFrom user).isArchived = c.isArchived := by
  rw [isArchived, hiddenFrom_archivedAt, hiddenFrom_archiveReason, isArchived]

theorem archiveOnce_of_isArchived (h : c.isArchived = true) (reason : ArchiveReason)
    (now : Instant) : c.archiveOnce reason now = c := if_pos h

/-- Of the two users, the one who hides the conversation no longer sees it, and for the other one
nothing changes. -/
theorem isAccessibleTo_hiddenFrom (h : PairId.of c.userA c.userB = PairId.of a b) (hne : a ≠ b) :
    (c.hiddenFrom a).isAccessibleTo a = false ∧
      (c.hiddenFrom a).isAccessibleTo b = c.isAccessibleTo b := by
  unfold isAccessibleTo hiddenFrom
  rcases PairId.of_eq_iff.1 h with ⟨rfl, rfl⟩ | ⟨rfl, rfl⟩
  · simp [hne.symm]
  · simp [hne]

/-- A conversation that is hidden from a user stays so when it is hidden from another one. -/
theorem hiddenFrom_comm (c : Conversation) (user other : UserId) :
    (c.hiddenFrom other).hiddenFrom user = (c.hiddenFrom user).hiddenFrom other := by
  unfold hiddenFrom
  split <;> split <;> rfl

theorem archiveOnce_hiddenFrom (c : Conversation) (reason : ArchiveReason) (now : Instant)
    (user : UserId) :
    (c.archiveOnce reason now).hiddenFrom user = (c.hiddenFrom user).archiveOnce reason now := by
  unfold archiveOnce
  rw [isArchived_hiddenFrom]
  split
  · rfl
  · unfold hiddenFrom archive
    split <;> rfl

end Conversation

theorem FriendRequest.expiredOn_not_pending (r : FriendRequest) {pair : PairId}
    (h : r.matchId = pair) (now : Instant) : (r.expiredOn pair now).status ≠ .pending := by
  unfold expiredOn
  split
  · simp [closed]
  · rename_i hnot
    intro hpending
    exact hnot (by simp [isPending, hpending, h])

/-! ## Nothing left to do -/

namespace Tables

variable {t t' : Tables} {arrow : Arrow}

/-- The block is stored and everything that comes with it is done. -/
structure IsBarred (t : Tables) (arrow : Arrow) : Prop where
  stored : t.blocks.contains arrow = true
  ended : t.Apart (.of arrow.actor arrow.target)
  closed : ∀ {id : Uuid} {r : FriendRequest}, t.requests[id]? = some r →
    r.matchId = PairId.of arrow.actor arrow.target →
    t.matchRows[PairId.of arrow.actor arrow.target]?.isSome = true → r.status ≠ .pending
  talked : t.matchRows[PairId.of arrow.actor arrow.target]?.isSome = true →
    t.conversations[PairId.of arrow.actor arrow.target]?.isSome = true
  archived : ∀ {c : Conversation},
    t.conversations[PairId.of arrow.actor arrow.target]? = some c → c.isArchived = true
  hidden : ∀ {c : Conversation},
    t.conversations[PairId.of arrow.actor arrow.target]? = some c → c.hiddenFrom arrow.actor = c

theorem expire_eq_self {pair : PairId}
    (h : ∀ {id : Uuid} {r : FriendRequest}, t.requests[id]? = some r → r.matchId = pair →
      r.status ≠ .pending) (now : Instant) : (t.expire pair now).requests = t.requests := by
  apply Std.ExtTreeMap.ext_getElem?
  intro id
  rw [getElem?_expire]
  cases hr : t.requests[id]? with
  | none => rfl
  | some r =>
    rw [Option.map_some, Option.some_inj]
    by_cases hpair : r.matchId = pair
    · exact r.expiredOn_of_not_pending (h hr hpair) pair now
    · exact if_neg (by simp [hpair])

/-- Then another block changes nothing. -/
theorem IsBarred.barred_eq (h : t.IsBarred arrow) (now : Instant) : t.barred arrow now = t := by
  have hmatches : (t.barred arrow now).matchRows = t.matchRows := by
    rw [barred_matchRows]
    apply Rows.set_eq_self
    cases hm : t.matchRows[PairId.of arrow.actor arrow.target]? with
    | none => rfl
    | some m => rw [Option.map_some, Match.barredBy, if_pos (h.ended m hm)]
  have hblocks : (t.barred arrow now).blocks = t.blocks := by
    rw [barred_blocks, blocked_blocks, if_pos h.stored]
  have hrequests : (t.barred arrow now).requests = t.requests := by
    rw [barred_requests]
    split
    · rename_i hm
      exact expire_eq_self (fun hr hpair => h.closed hr hpair hm) now
    · rfl
  have hconversations : (t.barred arrow now).conversations = t.conversations := by
    rw [barred_conversations]
    apply Rows.set_eq_self
    cases hc : t.conversations[PairId.of arrow.actor arrow.target]? with
    | none =>
      -- A match would have a conversation.
      have hm : t.matchRows[PairId.of arrow.actor arrow.target]? = none := by
        cases hm : t.matchRows[PairId.of arrow.actor arrow.target]? with
        | none => rfl
        | some m =>
          have htalked := h.talked (by rw [hm]; rfl)
          rw [hc] at htalked
          cases htalked
      rw [conversationToHide, hc, hm]
      rfl
    | some c =>
      rw [conversationToHide, hc, Option.some_or, Option.map_some,
        Conversation.archiveOnce_of_isArchived (h.archived hc), h.hidden hc]
  change Tables.mk t.likes (t.barred arrow now).matchRows (t.barred arrow now).blocks
    (t.barred arrow now).requests (t.barred arrow now).conversations t.notifications = t
  rw [hmatches, hblocks, hrequests, hconversations]

theorem isBarred_barred (t : Tables) (arrow : Arrow) (now : Instant) :
    (t.barred arrow now).IsBarred arrow where
  stored := by
    rw [barred_blocks, Rows.contains_eq, getElem?_blocked_blocks, if_pos rfl, Option.isSome_or,
      Option.isSome_some, Bool.or_true]
  ended := t.apart_barred arrow now
  closed {id r} hr hpair hm := by
    rw [barred_matchRows, Rows.getElem?_set_self, Option.isSome_map] at hm
    rw [barred_requests, if_pos hm, getElem?_expire, Option.map_eq_some_iff] at hr
    obtain ⟨before, -, rfl⟩ := hr
    rw [FriendRequest.expiredOn_matchId] at hpair
    exact before.expiredOn_not_pending hpair now
  talked hm := by
    rw [barred_matchRows, Rows.getElem?_set_self, Option.isSome_map] at hm
    rw [barred_conversations, Rows.getElem?_set_self, Option.isSome_map, conversationToHide,
      Option.isSome_or, Option.isSome_map, hm, Bool.or_true]
  archived {c} hc := by
    rw [barred_conversations, Rows.getElem?_set_self, Option.map_eq_some_iff] at hc
    obtain ⟨before, -, rfl⟩ := hc
    rw [Conversation.isArchived_hiddenFrom, Conversation.isArchived_archiveOnce]
  hidden {c} hc := by
    rw [barred_conversations, Rows.getElem?_set_self, Option.map_eq_some_iff] at hc
    obtain ⟨before, -, rfl⟩ := hc
    exact Conversation.hiddenFrom_hiddenFrom _ _

/-- A conversation belongs to a match. -/
theorem Coupled.matchRow (ht : t.Coupled) {pair : PairId} {c : Conversation}
    (hc : t.conversations[pair]? = some c) : ∃ m, t.matchRows[pair]? = some m ∧ c.Mirrors m := by
  have hpair := ht pair
  rw [hc] at hpair
  cases hm : t.matchRows[pair]? with
  | none =>
    rw [hm] at hpair
    cases hpair
  | some m =>
    rw [hm] at hpair
    cases hpair with
    | some hmirrors => exact ⟨m, rfl, hmirrors⟩

end Tables

namespace World

variable {settings : Settings} {readings : Readings} {t t' : Tables} {a b : UserId}

/-- Nothing of what a block did can be undone while it stands. -/
theorem isBarred_of_blocked {c : Command} {answer : c.Answer}
    (h : Effect settings readings t c answer t') (ht : t.Keyed) (hcoupled : t.Coupled)
    (hbarred : t.IsBarred ⟨a, b⟩) (hstored : t'.blocks.contains ⟨a, b⟩ = true) :
    t'.IsBarred ⟨a, b⟩ := by
  have hblocked : t.isBlocked a b = true := by
    rw [Tables.isBlocked, hbarred.stored, Bool.true_or]
  have hended : t'.Apart (.of a b) := apart_of_blocked h ht hblocked hbarred.ended
  have hnone := none_of_blocked h hblocked
  have hcoupled' : t'.Coupled := fun pair => (h.pairStep ht hcoupled pair).coupled (hcoupled pair)
  refine ⟨hstored, hended, ?_, ?_, ?_, ?_⟩ <;> dsimp only
  · -- A request that is stored now was stored before, unless it was just proposed.
    intro id r hr hpair hm
    have hbefore : t.matchRows[PairId.of a b]?.isSome = true := by
      rw [Option.isSome_iff_ne_none]
      intro hmissing
      rw [hnone hmissing] at hm
      cases hm
    cases c with
    | propose arrow message =>
      cases h with
      | propose _ _ newId noticeId hne hopen hfree =>
        rw [Tables.getElem?_proposed_requests] at hr
        split at hr
        · -- It would be on an active match, but that of these two has ended.
          cases hr
          have hnew : PairId.of arrow.actor arrow.target = PairId.of a b := hpair
          obtain ⟨m, hm, hactive⟩ :=
            Tables.isActive_eq_true.1 (Tables.proposalRefusal_eq_none.1 hopen).1
          have hover := hbarred.ended m (hnew ▸ hm)
          rw [hactive] at hover
          cases hover
        · exact hbarred.closed hr hpair hbefore
    | swipe | undoLastSwipe | respond | gracefulExit | unmatch | block | unblock =>
      obtain ⟨before, hr, rfl | ⟨⟨-, _, _, hstatus, rfl⟩, -⟩⟩ := h.closesOnly ht (by simp) hr
      · exact hbarred.closed hr hpair hbefore
      · exact hstatus
  · intro hm
    obtain ⟨m, hm⟩ := Option.isSome_iff_exists.1 hm
    obtain ⟨c, hc, -⟩ := hcoupled'.conversation hm
    rw [hc]
    rfl
  · intro c hc
    obtain ⟨m, hm, hmirrors⟩ := hcoupled'.matchRow hc
    exact (hmirrors.archived (hended m hm)).2.2
  · -- Whatever happens to a conversation, it is not shown again.
    intro c hc
    have hstep := h.pairStep ht hcoupled (.of a b)
    rw [hc] at hstep
    generalize hm : t.matchRows[PairId.of a b]? = m, hc₀ : t.conversations[PairId.of a b]? = c₀,
      hm' : t'.matchRows[PairId.of a b]? = m' at hstep
    cases hstep with
    | same => exact hbarred.hidden hc₀
    | begun =>
      rw [hnone hm] at hm'
      cases hm'
    | befriended => exact hbarred.hidden hc₀
    | ended _ before _ _ reason now =>
      rw [Conversation.archiveOnce_hiddenFrom, hbarred.hidden hc₀]
    | barred _ before arrow now =>
      rw [Conversation.hiddenFrom_comm, Conversation.archiveOnce_hiddenFrom, hbarred.hidden hc₀]

/-- In a run, a block that is stored has nothing left to do. -/
theorem isBarred_run {events : List Event}
    (h : (run settings events).memory.tables.blocks.contains ⟨a, b⟩ = true) :
    (run settings events).memory.tables.IsBarred ⟨a, b⟩ := by
  revert h
  refine run_induction (P := fun t _ => t.blocks.contains ⟨a, b⟩ = true → t.IsBarred ⟨a, b⟩)
    ?_ ?_ ?_ events
  · simp [Tables.empty]
  · exact fun _ _ _ _ ih => ih
  · intro events t' c readings answer ih heffect hstored
    rcases stored_or_made heffect hstored with hbefore | rfl
    · exact isBarred_of_blocked heffect (sound_run events).keyed (coupled_run settings events)
        (ih hbefore) hstored
    · exact Tables.isBarred_barred _ _ _

/-- While a block stands, the match of its users stays what it is, or there stays none. -/
theorem matchRow_of_blocked {events : List Event} {e : Event}
    (h : (run settings events).memory.tables.blocks.contains ⟨a, b⟩ = true) :
    (run settings (events ++ [e])).memory.tables.matchRows[PairId.of a b]? =
      (run settings events).memory.tables.matchRows[PairId.of a b]? := by
  have hsound : (run settings events).Sound settings := sound_run events
  rw [run_concat]
  cases stepResult hsound e with
  | kept htables => rw [htables]
  | failed c why htables => rw [htables]
  | done c readings answer heffect =>
    cases hm : (run settings events).memory.tables.matchRows[PairId.of a b]? with
    | none =>
      have hblocked : (run settings events).memory.tables.isBlocked a b = true := by
        rw [Tables.isBlocked, h, Bool.true_or]
      exact none_of_blocked heffect hblocked hm
    | some m =>
      have hstep := heffect.matchStep hsound.keyed (.of a b)
      rw [hm] at hstep
      obtain ⟨later, hlater, rfl | hon⟩ := hstep.goesOn
      · exact hlater
      · have hended := apart_run h m hm
        rw [hon.not_ended] at hended
        cases hended

/-- That goes for as long as it stands. -/
theorem matchRow_while_blocked (before after : List Event)
    (h : ∀ n ≤ after.length,
      (run settings (before ++ after.take n)).memory.tables.blocks.contains ⟨a, b⟩ = true) :
    (run settings (before ++ after)).memory.tables.matchRows[PairId.of a b]? =
      (run settings before).memory.tables.matchRows[PairId.of a b]? := by
  induction after using List.reverseRecOn with
  | nil => rw [List.append_nil]
  | append_singleton after e ih =>
    have hearlier : ∀ n ≤ after.length,
        (run settings (before ++ after.take n)).memory.tables.blocks.contains ⟨a, b⟩ = true := by
      intro n hn
      have hstored := h n (by rw [List.length_append]; omega)
      rwa [List.take_append_of_le_length hn] at hstored
    have hlast := hearlier after.length (Nat.le_refl _)
    rw [List.take_length] at hlast
    rw [← List.append_assoc, matchRow_of_blocked hlast, ih hearlier]

end World

/-! ## The effect of a block -/

/-- What the block of `b` by `a` comes to at this time, and all of it. -/
structure Barring (t : Tables) (a b : UserId) (now : Instant) (result : Option Match)
    (t' : Tables) : Prop where
  blocks : t'.blocks =
    t.blocks.set ⟨a, b⟩ (some (t.blocks[(⟨a, b⟩ : Arrow)]?.getD ⟨a, b, now⟩))
  likes : t'.likes = t.likes
  notifications : t'.notifications = t.notifications
  unmatched : t.matchRows[PairId.of a b]? = none →
    result = none ∧ t'.matchRows = t.matchRows ∧ t'.requests = t.requests ∧
      t'.conversations = t.conversations
  matched : ∀ m, t.matchRows[PairId.of a b]? = some m →
    (∃ last, result = some last ∧ t'.matchRows = t.matchRows.set (.of a b) (some last) ∧
      (m.state.isTerminal = true → last = m) ∧
      (m.state.isTerminal = false → last = { m with
        state := .blocked
        endReason := some .block
        endedBy := some a
        stateChangedAt := now })) ∧
    (∀ id : Uuid, t'.requests[id]? = t.requests[id]?.map fun r =>
      if r.status = .pending ∧ r.matchId = .of a b then
        { r with status := .expired, respondedAt := some now }
      else r) ∧
    ∃ c last, t.conversations[PairId.of a b]? = some c ∧
      t'.conversations = t.conversations.set (.of a b) (some last) ∧
      last.id = c.id ∧ last.userA = c.userA ∧ last.userB = c.userB ∧
      last.createdAt = c.createdAt ∧
      (m.state.isTerminal = true →
        last.archivedAt = c.archivedAt ∧ last.archiveReason = c.archiveReason) ∧
      (m.state.isTerminal = false →
        last.archivedAt = some now ∧ last.archiveReason = some .block) ∧
      last.isAccessibleTo a = false ∧ last.isAccessibleTo b = c.isAccessibleTo b

namespace Tables

variable {t : Tables} {a b : UserId}

theorem blocks_barred (t : Tables) (a b : UserId) (now : Instant) :
    (t.barred ⟨a, b⟩ now).blocks =
      t.blocks.set ⟨a, b⟩ (some (t.blocks[(⟨a, b⟩ : Arrow)]?.getD ⟨a, b, now⟩)) := by
  rw [barred_blocks, blocked_blocks, Rows.contains_eq]
  cases hstored : t.blocks[(⟨a, b⟩ : Arrow)]? with
  | none => rfl
  | some block => exact (Rows.set_eq_self hstored).symm

/-- The archive of the conversation, by whether its match has ended before. -/
theorem archived_barred {c : Conversation} {m : Match} (h : c.Mirrors m) (now : Instant)
    (user : UserId) :
    let last := (c.archiveOnce .block now).hiddenFrom user
    (m.state.isTerminal = true →
      last.archivedAt = c.archivedAt ∧ last.archiveReason = c.archiveReason) ∧
    (m.state.isTerminal = false →
      last.archivedAt = some now ∧ last.archiveReason = some .block) := by
  intro last
  rw [Conversation.hiddenFrom_archivedAt, Conversation.hiddenFrom_archiveReason]
  refine ⟨fun hended => ?_, fun hopen => ?_⟩
  · rw [h.archiveOnce_ended hended]
    exact ⟨rfl, rfl⟩
  · rw [h.archiveOnce_open hopen]
    exact ⟨rfl, rfl⟩

theorem barring_barred (ht : t.Keyed) (hcoupled : t.Coupled) (hne : a ≠ b) (now : Instant) :
    Barring t a b now (t.matchRows[PairId.of a b]?.map fun m => m.barredBy a now)
      (t.barred ⟨a, b⟩ now) := by
  refine ⟨t.blocks_barred a b now, rfl, rfl, fun hnone => ?_, fun m hm => ?_⟩
  · have hc : t.conversations[PairId.of a b]? = none := by
      rw [Option.eq_none_iff_forall_ne_some]
      intro c hc
      obtain ⟨m, hm, -⟩ := hcoupled.matchRow hc
      rw [hnone] at hm
      cases hm
    refine ⟨by rw [hnone]; rfl, ?_, ?_, ?_⟩
    · rw [barred_matchRows, hnone]
      exact Rows.set_eq_self hnone
    · rw [barred_requests, hnone]
      rfl
    · rw [barred_conversations, conversationToHide, hnone, hc]
      exact Rows.set_eq_self hc
  · obtain ⟨c, hc, hmirrors⟩ := hcoupled.conversation hm
    obtain ⟨hended, hopen⟩ := archived_barred hmirrors now a
    have husers : PairId.of (c.archiveOnce .block now).userA (c.archiveOnce .block now).userB =
        PairId.of a b := by
      rw [Conversation.archiveOnce_userA, Conversation.archiveOnce_userB]
      exact (ht.conversation hc).2
    obtain ⟨hhidden, hshown⟩ := Conversation.isAccessibleTo_hiddenFrom husers hne
    refine ⟨⟨m.barredBy a now, by rw [hm]; rfl, ?_, fun h => if_pos h, fun h => ?_⟩,
      fun id => ?_, c, (c.archiveOnce .block now).hiddenFrom a, hc, ?_, by simp, by simp, by simp,
      by simp, hended, hopen, hhidden, ?_⟩
    · rw [barred_matchRows, hm]
      rfl
    · rw [Match.barredBy, h]
      rfl
    · rw [barred_requests, hm]
      simp only [← FriendRequest.expiredOn_eq]
      exact t.getElem?_expire (.of a b) now id
    · rw [barred_conversations, conversationToHide, hc]
      rfl
    · rw [hshown]
      unfold Conversation.archiveOnce
      split <;> rfl

end Tables

namespace Operation

variable {m : Memory} {a b : UserId}

theorem run_block (hm : m.tables.Keyed) (hne : a ≠ b) (hnone : m.commitConflicts = 0)
    (first second : Readings) :
    (block ⟨a, b⟩).run first second m =
      (.ok (m.tables.matchRows[PairId.of a b]?.map fun found => found.barredBy a (second 0)),
        { m with tables := m.tables.barred ⟨a, b⟩ (second 0) }) := by
  rw [block, if_neg hne]
  exact Work.inUnit_of_commit (perform_blockWork ⟨a, b⟩ hm (second 0)) hnone

theorem run_block_of_isBarred (hm : m.tables.Keyed) (hne : a ≠ b) (hnone : m.commitConflicts = 0)
    (h : m.tables.IsBarred ⟨a, b⟩) (first second : Readings) :
    (block ⟨a, b⟩).run first second m = (.ok m.tables.matchRows[PairId.of a b]?, m) := by
  have hsame : (m.tables.matchRows[PairId.of a b]?.map fun found => found.barredBy a (second 0)) =
      m.tables.matchRows[PairId.of a b]? := by
    cases hfound : m.tables.matchRows[PairId.of a b]? with
    | none => rfl
    | some found => rw [Option.map_some, Match.barredBy, if_pos (h.ended found hfound)]
  rw [run_block hm hne hnone, h.barred_eq, hsame]

end Operation

namespace World

variable {settings : Settings}

/-- **A block has its effect once.** On the memory after any run, without a fault, it stores the
block if there is none yet; it ends the match of the pair unless that has ended before, closes the
requests that are pending on it, and archives the conversation and hides it from the one who blocks;
and it does nothing else. Blocking again at once changes nothing and is answered with the same
match. So it does at any later point of the run, whatever happens in between, if only the block is
not lifted. -/
theorem block_effect (settings : Settings) {a b : UserId} (hne : a ≠ b) :
    let blocking (first second : Readings) (m : Memory) :=
      (Operation.block ⟨a, b⟩).run first second m
    (∀ (events : List Event) (first second : Readings),
      let held := (run settings events).memory
      held.commitConflicts = 0 →
        ∃ (result : Option Match) (t' : Tables),
          blocking first second held = (.ok result, { held with tables := t' }) ∧
          Barring held.tables a b (second 0) result t' ∧
          ∀ first' second', blocking first' second' { held with tables := t' } =
            (.ok result, { held with tables := t' })) ∧
    ∀ (before after : List Event) (e : Event) (readings : Readings) (answer : Option Match),
      (run settings (before ++ [e])).outcomes =
        .done (.block ⟨a, b⟩) readings answer :: (run settings before).outcomes →
      (∀ n ≤ after.length, (run settings
        (before ++ [e] ++ after.take n)).memory.tables.blocks.contains ⟨a, b⟩ = true) →
      let later := (run settings (before ++ [e] ++ after)).memory
      later.commitConflicts = 0 →
        ∀ first second, blocking first second later = (.ok answer, later) := by
  intro blocking
  refine ⟨fun events first second => ?_, fun before after e readings answer hblock hstands => ?_⟩
  · intro held hnone
    have hkeyed : held.tables.Keyed := (sound_run events).keyed
    refine ⟨_, _, Operation.run_block hkeyed hne hnone first second,
      Tables.barring_barred hkeyed (coupled_run settings events) hne (second 0), ?_⟩
    intro first' second'
    refine (Operation.run_block_of_isBarred
      (m := { held with tables := held.tables.barred ⟨a, b⟩ (second 0) })
      (hkeyed.barred _ _) hne hnone (held.tables.isBarred_barred _ _) first' second').trans ?_
    rw [Tables.barred_matchRows, Rows.getElem?_set_self]
  · intro later hnone first second
    have hstored := hstands after.length (Nat.le_refl _)
    rw [List.take_length] at hstored
    have hanswer : (run settings (before ++ [e])).memory.tables.matchRows[PairId.of a b]? =
        answer := by
      have heffect := effect_of_outcome hblock
      generalize (run settings (before ++ [e])).memory.tables = t at heffect
      cases heffect with
      | block => rw [Tables.barred_matchRows, Rows.getElem?_set_self]
    have hrow : later.tables.matchRows[PairId.of a b]? = answer :=
      (matchRow_while_blocked (before ++ [e]) after hstands).trans hanswer
    rw [← hrow]
    exact Operation.run_block_of_isBarred (sound_run _).keyed hne hnone (isBarred_run hstored)
      first second

/-- The other one blocks too. -/
def blockingBack : List Event := inTurn .epoch [.block ⟨.ofNat 2, .ofNat 1⟩]

theorem blockingBack_leaves :
    (run {} beforeBlock).memory.commitConflicts = 0 ∧
      (run {} beforeBlock).memory.tables.matchRows[PairId.of (.ofNat 1) (.ofNat 2)]? =
        some (.new (.ofNat 1) (.ofNat 2) .epoch) ∧
      (run {} (afterBlock ++ blockingBack)).memory.commitConflicts = 0 ∧
      ∀ n ≤ blockingBack.length, (run {}
        (afterBlock ++ blockingBack.take n)).memory.tables.blocks.contains
          (⟨.ofNat 1, .ofNat 2⟩ : Arrow) = true := by
  decide +kernel

/-- The block ends an active match. After the other one has blocked as well, blocking once more
changes nothing. -/
theorem block_effect_back :
    let blocking := (Operation.block ⟨.ofNat 1, .ofNat 2⟩).run (.still .epoch) (.still .epoch)
    let held := (run {} beforeBlock).memory
    let later := (run {} (afterBlock ++ blockingBack)).memory
    (∃ (result : Option Match) (t' : Tables),
      blocking held = (.ok result, { held with tables := t' }) ∧
      result.map Match.state = some .blocked ∧ t'.notifications = held.tables.notifications) ∧
    ∃ answer, blocking later = (.ok answer, later) := by
  intro blocking held later
  obtain ⟨hnone, hmatch, hnone', hstands⟩ := blockingBack_leaves
  have hne : UserId.ofNat 1 ≠ .ofNat 2 := by decide
  obtain ⟨honce, hagain⟩ := block_effect {} hne
  obtain ⟨result, t', hrun, hbarring, -⟩ := honce beforeBlock (.still .epoch) (.still .epoch) hnone
  obtain ⟨⟨last, hresult, -, -, hopen⟩, -, -⟩ := hbarring.matched _ hmatch
  obtain ⟨-, hnot, hmade, -⟩ := afterBlock_leaves
  obtain ⟨readings, answer, hblock⟩ := made_of_blockStands hnot hmade
  refine ⟨⟨result, t', hrun, ?_, hbarring.notifications⟩, answer, ?_⟩
  · rw [hresult, hopen rfl]
    rfl
  · exact hagain beforeBlock blockingBack _ readings answer hblock hstands hnone' _ _

end World

end Courtship
