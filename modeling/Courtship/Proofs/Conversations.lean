import Courtship.Proofs.World

/-! Conversations and the matches that they belong to. The two are stored together and name the same
users since the same time. A conversation is open as long as its match has not ended, and is
archived with it, at the time and for the reason of that end; only a block hides it. So a user may
write to another exactly when their match is active or a friendship. -/

namespace Courtship

/-! ## Records -/

namespace Match

variable (m : Match) {target : MatchState} (user : UserId) (now : Instant)

theorem canMessage_eq : m.canMessage = !m.state.isTerminal := by
  rw [canMessage]
  cases m.state <;> rfl

theorem moved_stateChangedAt (target : MatchState) (reason : Option ArchiveReason) :
    (m.moved target user reason now).stateChangedAt = now := by
  unfold moved
  split <;> rfl

theorem moved_endReason (ht : target.isTerminal = true) (reason : ArchiveReason) :
    (m.moved target user (some reason) now).endReason = some reason := by
  rw [moved, if_pos ht]
  rfl

end Match

namespace Conversation

/-- The conversation is the one of the match: open if that has not ended, and else archived since
then and for the same reason. -/
structure Mirrors (c : Conversation) (m : Match) : Prop where
  id : c.id = m.id
  userA : c.userA = m.userA
  userB : c.userB = m.userB
  createdAt : c.createdAt = m.createdAt
  shown : m.state.isTerminal = false →
    c.archivedAt = none ∧ c.archiveReason = none ∧ c.accessibleToA = true ∧ c.accessibleToB = true
  archived : m.state.isTerminal = true →
    c.archivedAt = some m.stateChangedAt ∧ c.archiveReason = m.endReason ∧ c.isArchived = true

theorem mirrors_new (a b : UserId) (now : Instant) : (new a b now).Mirrors (.new a b now) where
  id := rfl
  userA := rfl
  userB := rfl
  createdAt := rfl
  shown _ := ⟨rfl, rfl, rfl, rfl⟩
  archived h := by cases h

namespace Mirrors

variable {c : Conversation} {m : Match}

theorem unarchived (h : c.Mirrors m) (hs : m.state.isTerminal = false) : c.isArchived = false := by
  simp [isArchived, (h.shown hs).1]

theorem archiveOnce_open (h : c.Mirrors m) (hs : m.state.isTerminal = false)
    (reason : ArchiveReason) (now : Instant) :
    c.archiveOnce reason now = { c with archivedAt := some now, archiveReason := some reason } := by
  rw [archiveOnce, h.unarchived hs]
  rfl

theorem archiveOnce_ended (h : c.Mirrors m) (hs : m.state.isTerminal = true)
    (reason : ArchiveReason) (now : Instant) : c.archiveOnce reason now = c :=
  if_pos (h.archived hs).2.2

theorem befriended (h : c.Mirrors m) (hs : m.state.isTerminal = false) (user : UserId)
    (now : Instant) : c.Mirrors (m.moved .friends user none now) where
  id := by rw [Match.moved_id, h.id]
  userA := by rw [Match.moved_userA, h.userA]
  userB := by rw [Match.moved_userB, h.userB]
  createdAt := by rw [Match.moved_createdAt, h.createdAt]
  shown _ := h.shown hs
  archived hended := by cases hended

/-- A match and its conversation end together. -/
theorem ended (h : c.Mirrors m) (hs : m.state.isTerminal = false) {target : MatchState}
    (ht : target.isTerminal = true) (user : UserId) (reason : ArchiveReason) (now : Instant) :
    (c.archiveOnce reason now).Mirrors (m.moved target user (some reason) now) where
  id := by rw [archiveOnce_id, Match.moved_id, h.id]
  userA := by rw [archiveOnce_userA, Match.moved_userA, h.userA]
  userB := by rw [archiveOnce_userB, Match.moved_userB, h.userB]
  createdAt := by rw [archiveOnce_createdAt, Match.moved_createdAt, h.createdAt]
  shown hopen := by
    rw [Match.moved_state, ht] at hopen
    cases hopen
  archived _ := by
    rw [Match.moved_stateChangedAt, m.moved_endReason user now ht, h.archiveOnce_open hs]
    exact ⟨rfl, rfl, rfl⟩

/-- Only after its end may the conversation be hidden from a user. -/
theorem hidden (h : c.Mirrors m) (hs : m.state.isTerminal = true) (user : UserId) :
    (c.hiddenFrom user).Mirrors m where
  id := by rw [hiddenFrom_id, h.id]
  userA := by rw [hiddenFrom_userA, h.userA]
  userB := by rw [hiddenFrom_userB, h.userB]
  createdAt := by rw [hiddenFrom_createdAt, h.createdAt]
  shown hopen := by
    rw [hs] at hopen
    cases hopen
  archived _ := by
    rw [isArchived, hiddenFrom_archivedAt, hiddenFrom_archiveReason]
    exact h.archived hs

theorem barred (h : c.Mirrors m) (user : UserId) (now : Instant) :
    ((c.archiveOnce .block now).hiddenFrom user).Mirrors (m.barredBy user now) := by
  unfold Match.barredBy
  split
  · rename_i hs
    rw [h.archiveOnce_ended hs]
    exact h.hidden hs user
  · rename_i hs
    have hopen : m.state.isTerminal = false := by simpa using hs
    exact (h.ended hopen rfl user .block now).hidden (by rw [Match.moved_state]; rfl) user

end Mirrors

end Conversation

/-! ## Steps -/

/-- What a command can make of the match and the conversation of a pair. -/
inductive PairStep (command : Command) (pair : PairId) :
    Option Match → Option Conversation → Option Match → Option Conversation → Prop
  | same (m : Option Match) (c : Option Conversation) : PairStep command pair m c m c
  | begun (m : Match) (c : Conversation) (a b : UserId) (now : Instant)
      (hm : m = .new a b now) (hc : c = .new a b now) :
      PairStep command pair none none (some m) (some c)
  | befriended (m : Match) (c : Option Conversation) (user : UserId) (now : Instant)
      (hs : m.state.isTerminal = false) :
      PairStep command pair (some m) c (some (m.moved .friends user none now)) c
  | ended (m : Match) (c : Conversation) (target : MatchState) (user : UserId)
      (reason : ArchiveReason) (now : Instant) (hs : m.state.isTerminal = false)
      (ht : target.isTerminal = true) :
      PairStep command pair (some m) (some c) (some (m.moved target user (some reason) now))
        (some (c.archiveOnce reason now))
  | barred (m : Match) (c : Conversation) (arrow : Arrow) (now : Instant)
      (hcommand : command = .block arrow)
      (hpair : PairId.of arrow.actor arrow.target = pair) :
      PairStep command pair (some m) (some c) (some (m.barredBy arrow.actor now))
        (some ((c.archiveOnce .block now).hiddenFrom arrow.actor))

/-- Either there is neither a match nor a conversation, or they belong together. -/
abbrev Coupled (m : Option Match) (c : Option Conversation) : Prop :=
  Option.Rel (fun m c => c.Mirrors m) m c

namespace PairStep

variable {command : Command}

/-- Writes under the key of a pair are a step there, and nothing happens elsewhere. -/
theorem of_set {t : Tables} {key : PairId} {m : Option Match} {c : Option Conversation}
    (h : PairStep command key t.matchRows[key]? t.conversations[key]? m c) (pair : PairId) :
    PairStep command pair t.matchRows[pair]? t.conversations[pair]?
      (t.matchRows.set key m)[pair]? (t.conversations.set key c)[pair]? := by
  rw [Rows.get?_set, Rows.get?_set]
  split
  · rename_i hkey
    rw [← hkey]
    exact h
  · exact .same _ _

/-- The match alone is written. -/
theorem of_set_match {t : Tables} {key : PairId} {m : Option Match}
    (h : PairStep command key t.matchRows[key]? t.conversations[key]? m t.conversations[key]?)
    (pair : PairId) :
    PairStep command pair t.matchRows[pair]? t.conversations[pair]?
      (t.matchRows.set key m)[pair]? t.conversations[pair]? := by
  have hset := of_set h pair
  rwa [Rows.set_eq_self rfl] at hset

theorem coupled {pair : PairId} {m m' : Option Match} {c c' : Option Conversation}
    (h : PairStep command pair m c m' c') (hmc : Coupled m c) : Coupled m' c' := by
  cases h with
  | same => exact hmc
  | begun m c a b now hm hc =>
    rw [hm, hc]
    exact .some (Conversation.mirrors_new a b now)
  | befriended m c user now hs =>
    cases hmc with
    | some hmirrors => exact .some (hmirrors.befriended hs user now)
  | ended m c target user reason now hs ht =>
    cases hmc with
    | some hmirrors => exact .some (hmirrors.ended hs ht user reason now)
  | barred m c arrow now =>
    cases hmc with
    | some hmirrors => exact .some (hmirrors.barred arrow.actor now)

end PairStep

/-! ## Conversations that are hidden -/

namespace World

/-- Whether `user` has blocked `other` so far, be it lifted again or not. -/
def HasBlocked (user other : UserId) (outcomes : List Outcome) : Prop :=
  ∃ readings answer, Outcome.done (.block ⟨user, other⟩) readings answer ∈ outcomes

theorem HasBlocked.cons {user other : UserId} {outcomes : List Outcome}
    (h : HasBlocked user other outcomes) (o : Outcome) : HasBlocked user other (o :: outcomes) := by
  obtain ⟨readings, answer, hmem⟩ := h
  exact ⟨readings, answer, List.mem_cons_of_mem o hmem⟩

/-- A user does not see the conversation only after a block of the other one. -/
structure HiddenByBlock (outcomes : List Outcome) (c : Conversation) : Prop where
  userA : c.accessibleToA = false → HasBlocked c.userA c.userB outcomes
  userB : c.accessibleToB = false → HasBlocked c.userB c.userA outcomes

namespace HiddenByBlock

variable {outcomes : List Outcome} {c : Conversation}

theorem new (a b : UserId) (now : Instant) : HiddenByBlock outcomes (.new a b now) where
  userA h := by cases h
  userB h := by cases h

theorem cons (h : HiddenByBlock outcomes c) (o : Outcome) : HiddenByBlock (o :: outcomes) c where
  userA hhidden := (h.userA hhidden).cons o
  userB hhidden := (h.userB hhidden).cons o

theorem archiveOnce (h : HiddenByBlock outcomes c) (reason : ArchiveReason) (now : Instant) :
    HiddenByBlock outcomes (c.archiveOnce reason now) where
  userA hhidden := by
    rw [Conversation.archiveOnce_accessibleToA] at hhidden
    rw [Conversation.archiveOnce_userA, Conversation.archiveOnce_userB]
    exact h.userA hhidden
  userB hhidden := by
    rw [Conversation.archiveOnce_accessibleToB] at hhidden
    rw [Conversation.archiveOnce_userA, Conversation.archiveOnce_userB]
    exact h.userB hhidden

theorem hiddenFrom (h : HiddenByBlock outcomes c) {arrow : Arrow}
    (husers : PairId.of arrow.actor arrow.target = PairId.of c.userA c.userB)
    (hblocked : HasBlocked arrow.actor arrow.target outcomes) :
    HiddenByBlock outcomes (c.hiddenFrom arrow.actor) := by
  unfold Conversation.hiddenFrom
  rcases PairId.of_eq_iff.1 husers with ⟨ha, hb⟩ | ⟨hb, ha⟩ <;> rw [ha, hb] at hblocked
  · rw [if_pos ha]
    exact ⟨fun _ => hblocked, h.userB⟩
  · split
    · rename_i hsame
      have husers : c.userB = c.userA := hb.symm.trans hsame
      rw [husers] at hblocked
      exact ⟨fun _ => husers ▸ hblocked, h.userB⟩
    · exact ⟨h.userA, fun _ => hblocked⟩

end HiddenByBlock

/-- A block is the only step that hides a conversation. -/
theorem hiddenByBlock_of_pairStep {command : Command} {pair : PairId} {m m' : Option Match}
    {c : Option Conversation} {c' : Conversation} {outcomes : List Outcome}
    (h : PairStep command pair m c m' (some c'))
    (hkeyed : ∀ before, c = some before → PairId.of before.userA before.userB = pair)
    (hc : ∀ before, c = some before → HiddenByBlock outcomes before) (readings : Readings)
    (answer : command.Answer) : HiddenByBlock (.done command readings answer :: outcomes) c' := by
  cases h with
  | same => exact (hc c' rfl).cons _
  | begun m c a b now hm hc =>
    rw [hc]
    exact .new a b now
  | befriended => exact (hc c' rfl).cons _
  | ended m before target user reason now =>
    exact ((hc before rfl).cons _).archiveOnce reason now
  | barred m before arrow now hcommand hpair =>
    subst hcommand
    refine (((hc before rfl).cons _).archiveOnce .block now).hiddenFrom ?_ ?_
    · rw [Conversation.archiveOnce_userA, Conversation.archiveOnce_userB, hpair,
        hkeyed before rfl]
    · exact ⟨readings, answer, List.mem_cons_self⟩

end World

/-! ## Effects -/

variable {settings : Settings} {readings : Readings} {t t' : Tables}

/-- The tables of matches and conversations belong together, pair by pair. -/
def Tables.Coupled (t : Tables) : Prop :=
  ∀ pair : PairId, Courtship.Coupled t.matchRows[pair]? t.conversations[pair]?

theorem Tables.Coupled.conversation (ht : t.Coupled) {pair : PairId} {m : Match}
    (hm : t.matchRows[pair]? = some m) :
    ∃ c, t.conversations[pair]? = some c ∧ c.Mirrors m := by
  have hpair := ht pair
  rw [hm] at hpair
  cases hc : t.conversations[pair]? with
  | none =>
    rw [hc] at hpair
    cases hpair
  | some c =>
    rw [hc] at hpair
    cases hpair with
    | some hmirrors => exact ⟨c, rfl, hmirrors⟩

/-- The end of a match that has a conversation is a step. -/
theorem PairStep.of_end {command : Command} (ht : t.Coupled) {a b : UserId} {m : Match}
    (hm : t.matchRows[PairId.of a b]? = some m) (hs : m.state.isTerminal = false)
    {target : MatchState} (htarget : target.isTerminal = true) (user : UserId)
    (reason : ArchiveReason) (now : Instant) :
    PairStep command (.of a b) t.matchRows[PairId.of a b]? t.conversations[PairId.of a b]?
      (some (m.moved target user (some reason) now))
      (some ((t.conversationOf a b now).archiveOnce reason now)) := by
  obtain ⟨c, hc, _⟩ := ht.conversation hm
  rw [Tables.conversationOf, hm, hc, Option.getD_some]
  exact .ended m c target user reason now hs htarget

theorem Effect.pairStep {command : Command} {answer : command.Answer}
    (h : Effect settings readings t command answer t') (hkeyed : t.Keyed) (ht : t.Coupled)
    (pair : PairId) :
    PairStep command pair t.matchRows[pair]? t.conversations[pair]?
      t'.matchRows[pair]? t'.conversations[pair]? := by
  cases h with
  | swipe arrow direction id hne hopen =>
    rw [Tables.swiped_matchRows, Tables.swiped_conversations]
    split
    · refine .of_set ?_ pair
      have hpair := ht (.of arrow.actor arrow.target)
      unfold Tables.matchOf Tables.conversationOf
      cases hm : t.matchRows[PairId.of arrow.actor arrow.target]? <;>
        cases hc : t.conversations[PairId.of arrow.actor arrow.target]? <;>
        rw [hm, hc] at hpair <;> cases hpair
      · exact .begun _ _ arrow.actor arrow.target (readings 0) rfl rfl
      · exact .same _ _
    · exact .same _ _
  | undo arrow l hl =>
    rw [Tables.undone_matchRows, Tables.undone_conversations, Tables.matchEnded]
    cases hend : t.matchToEnd arrow l with
    | none => exact .same _ _
    | some m =>
      obtain ⟨_, hm, hactive, _⟩ := Tables.matchToEnd_eq_some.1 hend
      obtain ⟨c, hc, _⟩ := ht.conversation hm
      refine .of_set ?_ pair
      rw [hm, hc]
      exact .ended m c .unmatched _ .unmatch _ (by rw [hactive]; rfl) rfl
  | propose => exact .same _ _
  | respond id noticeId responder accept r current hfound =>
    obtain ⟨hr, _, _, hm, hactive⟩ := Tables.toAnswer_ok hfound
    have hpair := (hkeyed.request hr).2
    have hs : current.state.isTerminal = false := by rw [hactive]; rfl
    rw [Tables.responded_matchRows, Tables.responded_conversations, Tables.answered_matchRows,
      Tables.answered_conversations]
    cases accept with
    | true =>
      refine .of_set_match ?_ pair
      rw [hm]
      exact .befriended current _ r.toUser _ hs
    | false =>
      rw [if_neg Bool.false_ne_true]
      refine .of_set ?_ pair
      rw [hpair] at hm ⊢
      exact .of_end ht hm hs rfl r.toUser .friendZoneDeclined _
  | exitAgain => exact .same _ _
  | exit arrow current noticeId hstored hs =>
    exact .of_set (.of_end ht hstored hs rfl arrow.actor .gracefulExit _) pair
  | unmatch arrow current hstored hs =>
    exact .of_set (.of_end ht hstored hs rfl arrow.actor .unmatch _) pair
  | block arrow hne =>
    refine .of_set ?_ pair
    cases hm : t.matchRows[PairId.of arrow.actor arrow.target]? with
    | none =>
      have hpair := ht (.of arrow.actor arrow.target)
      rw [hm] at hpair
      -- Where there is no match there is no conversation, and none is made to be hidden.
      cases hc : t.conversations[PairId.of arrow.actor arrow.target]? with
      | none =>
        rw [Tables.conversationToHide, hm, hc]
        exact .same _ _
      | some c =>
        rw [hc] at hpair
        cases hpair
    | some m =>
      obtain ⟨c, hc, _⟩ := ht.conversation hm
      rw [Tables.conversationToHide, hc]
      exact .barred m c arrow _ rfl rfl
  | unblock => exact .same _ _

/-! ## Messages -/

namespace Tables

/-- Whether the actor may write to the target. -/
def canMessage (t : Tables) (arrow : Arrow) : Bool :=
  (t.matchRows[PairId.of arrow.actor arrow.target]?.any fun m =>
    m.canMessage && m.involves arrow.actor) &&
  t.conversations[PairId.of arrow.actor arrow.target]?.any fun c =>
    !c.isArchived && c.isAccessibleTo arrow.actor

/-- With a conversation that belongs to it, the match alone decides. -/
theorem Coupled.canMessage_eq (ht : t.Coupled) (hkeyed : t.Keyed) (a b : UserId) :
    t.canMessage ⟨a, b⟩ = t.matchRows[PairId.of a b]?.any Match.canMessage := by
  unfold canMessage
  cases hm : t.matchRows[PairId.of a b]? with
  | none => rfl
  | some m =>
    obtain ⟨c, hc, hmirrors⟩ := ht.conversation hm
    have hinvolved := (hkeyed.involves hm).1
    rw [hc, Option.any_some, Option.any_some, Option.any_some, hinvolved, Bool.and_true]
    cases hs : m.state.isTerminal with
    | true => rw [m.canMessage_eq, hs, Bool.not_true, Bool.false_and]
    | false =>
      obtain ⟨_, _, hA, hB⟩ := hmirrors.shown hs
      have husers : a = c.userA ∨ a = c.userB := by
        simp only [Match.involves, Bool.or_eq_true, decide_eq_true_eq] at hinvolved
        rw [hmirrors.userA, hmirrors.userB]
        exact hinvolved.imp Eq.symm Eq.symm
      have haccessible : c.isAccessibleTo a = true := by
        rcases husers with rfl | rfl <;> simp [Conversation.isAccessibleTo, hA, hB]
      rw [haccessible, hmirrors.unarchived hs]
      simp

end Tables

namespace Question

theorem perform_canMessageWork (arrow : Arrow) (m : Memory) :
    (canMessageWork arrow).perform m = (.ok (m.tables.canMessage arrow), m) := by
  cases hm : m.tables.matchRows[PairId.of arrow.actor arrow.target]? with
  | none => simp [canMessageWork, Work.bind_eq, Work.pure_eq, Work.run, Tables.canMessage, hm]
  | some found =>
    cases hopen : found.canMessage <;> cases hinvolved : found.involves arrow.actor <;>
      simp [canMessageWork, Work.bind_eq, Work.pure_eq, Work.run, Tables.canMessage, hm, hopen,
        hinvolved]

theorem look_canMessage (arrow : Arrow) (m : Memory) :
    (canMessage arrow).work.look m = (.ok (m.tables.canMessage arrow), m) := by
  rw [work, Work.look_eq, perform_canMessageWork]

end Question

/-! ## Runs -/

namespace World

theorem coupled_run (settings : Settings) (events : List Event) :
    (run settings events).memory.tables.Coupled := by
  refine run_induction (P := fun t _ => t.Coupled) ?_ ?_ ?_ events
  · intro pair
    simp only [Tables.empty, Std.ExtTreeMap.getElem?_empty]
    exact .none
  · exact fun _ _ _ _ ih => ih
  · intro events t' c readings answer ih heffect pair
    exact (heffect.pairStep (sound_run events).keyed ih pair).coupled (ih pair)

theorem hiddenByBlock_run (events : List Event) {pair : PairId} {c : Conversation}
    (h : (run settings events).memory.tables.conversations[pair]? = some c) :
    HiddenByBlock (run settings events).outcomes c := by
  revert c
  refine run_induction
    (P := fun t outcomes => ∀ {c}, t.conversations[pair]? = some c → HiddenByBlock outcomes c)
    ?_ ?_ ?_ events
  · intro c h
    simp [Tables.empty] at h
  · intro t outcomes command why ih c h
    exact (ih h).cons _
  · intro events t' command readings answer ih heffect c h
    have hkeyed : (run settings events).memory.tables.Keyed := (sound_run events).keyed
    have hstep := heffect.pairStep hkeyed (coupled_run settings events) pair
    rw [h] at hstep
    exact hiddenByBlock_of_pairStep hstep (fun _ hbefore => (hkeyed.conversation hbefore).2)
      (fun _ => ih) readings answer

/-- A user may write to another exactly when they have a match that has not ended. -/
theorem canMessage_run (events : List Event) (a b : UserId) :
    (run settings events).memory.tables.canMessage ⟨a, b⟩ =
      (run settings events).memory.tables.matchRows[PairId.of a b]?.any Match.canMessage :=
  (coupled_run settings events).canMessage_eq (sound_run events).keyed a b

/-- **A conversation follows its match.** In every run two users have a conversation exactly if they
have a match, and it is the one of that match. It is open to both as long as the match is active or
a friendship, and is archived with the end of the match; it is hidden from a user only if that user
has blocked the other. So either user may write to the other exactly when the match is active or a
friendship. -/
theorem conversation_follows_match (settings : Settings) (events : List Event) (a b : UserId) :
    let w := run settings events
    let t := w.memory.tables
    t.conversations[PairId.of a b]?.isSome = t.matchRows[PairId.of a b]?.isSome ∧
    (∀ (m : Match) (c : Conversation), t.matchRows[PairId.of a b]? = some m →
      t.conversations[PairId.of a b]? = some c →
        c.id = m.id ∧ c.userA = m.userA ∧ c.userB = m.userB ∧ c.createdAt = m.createdAt ∧
        (m.state = .active ∨ m.state = .friends → c.archivedAt = none ∧ c.archiveReason = none ∧
          c.accessibleToA = true ∧ c.accessibleToB = true) ∧
        (m.state = .gracefulExit ∨ m.state = .unmatched ∨ m.state = .blocked →
          c.archivedAt = some m.stateChangedAt ∧ c.archiveReason = m.endReason) ∧
        (c.accessibleToA = false → HasBlocked c.userA c.userB w.outcomes) ∧
        (c.accessibleToB = false → HasBlocked c.userB c.userA w.outcomes)) ∧
    ∃ allowed : Bool,
      (Question.canMessage ⟨a, b⟩).work.look w.memory = (.ok allowed, w.memory) ∧
      (Question.canMessage ⟨b, a⟩).work.look w.memory = (.ok allowed, w.memory) ∧
      (allowed = true ↔ ∃ m, t.matchRows[PairId.of a b]? = some m ∧
        (m.state = .active ∨ m.state = .friends)) := by
  intro w t
  have hcoupled : t.Coupled := coupled_run settings events
  refine ⟨?_, ?_, ?_⟩
  · have hpair := hcoupled (.of a b)
    cases hm : t.matchRows[PairId.of a b]? <;> cases hc : t.conversations[PairId.of a b]? <;>
      rw [hm, hc] at hpair <;> cases hpair <;> rfl
  · intro m c hm hc
    obtain ⟨c', hc', hmirrors⟩ := hcoupled.conversation hm
    rw [hc] at hc'
    cases hc'
    have hhidden : HiddenByBlock w.outcomes c := hiddenByBlock_run events hc
    refine ⟨hmirrors.id, hmirrors.userA, hmirrors.userB, hmirrors.createdAt, ?_, ?_,
      hhidden.userA, hhidden.userB⟩
    · intro hs
      exact hmirrors.shown (by rcases hs with hs | hs <;> rw [hs] <;> rfl)
    · intro hs
      have hended := hmirrors.archived (by rcases hs with hs | hs | hs <;> rw [hs] <;> rfl)
      exact ⟨hended.1, hended.2.1⟩
  · refine ⟨_, Question.look_canMessage ⟨a, b⟩ w.memory, ?_, ?_⟩
    · rw [Question.look_canMessage, canMessage_run, canMessage_run, PairId.of_comm]
    · rw [canMessage_run, Option.any_eq_true]
      refine exists_congr fun m => and_congr_right fun _ => ?_
      cases hs : m.state <;> simp [Match.canMessage, MatchState.canMessage, hs]

/-- Two users match, one leaves the match, and the other then blocks that one. -/
def leftThenBlocked : List Event :=
  inTurn .epoch [.swipe ⟨.ofNat 1, .ofNat 2⟩ .like, .swipe ⟨.ofNat 2, .ofNat 1⟩ .like,
    .unmatch ⟨.ofNat 2, .ofNat 1⟩, .block ⟨.ofNat 1, .ofNat 2⟩]

theorem leftThenBlocked_leaves :
    let t := (run {} leftThenBlocked).memory.tables
    t.matchRows[PairId.of (.ofNat 1) (.ofNat 2)]? =
        some ((Match.new (.ofNat 1) (.ofNat 2) .epoch).moved .unmatched (.ofNat 2) (some .unmatch)
          .epoch) ∧
      t.conversations[PairId.of (.ofNat 1) (.ofNat 2)]? =
        some (((Conversation.new (.ofNat 1) (.ofNat 2) .epoch).archive .unmatch .epoch).hiddenFrom
          (.ofNat 1)) := by
  decide +kernel

/-- The conversation stays archived for the end of the match, and the block hides it. -/
theorem conversation_follows_match_left_then_blocked :
    let w := run {} leftThenBlocked
    ∃ (m : Match) (c : Conversation),
      w.memory.tables.matchRows[PairId.of (.ofNat 1) (.ofNat 2)]? = some m ∧
      w.memory.tables.conversations[PairId.of (.ofNat 1) (.ofNat 2)]? = some c ∧
      m.state = .unmatched ∧ c.archivedAt = some m.stateChangedAt ∧
      c.archiveReason = m.endReason ∧ c.accessibleToA = false ∧
      HasBlocked c.userA c.userB w.outcomes := by
  obtain ⟨hm, hc⟩ := leftThenBlocked_leaves
  obtain ⟨_, hrecords, _⟩ := conversation_follows_match {} leftThenBlocked (.ofNat 1) (.ofNat 2)
  obtain ⟨_, _, _, _, _, harchived, hhidden, _⟩ := hrecords _ _ hm hc
  obtain ⟨hat, hreason⟩ := harchived (.inr (.inl rfl))
  have hinvisible : (((Conversation.new (.ofNat 1) (.ofNat 2) .epoch).archive .unmatch
      .epoch).hiddenFrom (.ofNat 1)).accessibleToA = false := by
    decide
  exact ⟨_, _, hm, hc, rfl, hat, hreason, hinvisible, hhidden hinvisible⟩

end World

end Courtship
