import Courtship.Operation.Swiping
import Courtship.Proofs.Effect.Closing

/-! What a swipe leaves of the tables. -/

namespace Courtship

namespace Tables

/-- Why a swipe is turned down. -/
def swipeRefusal (t : Tables) (arrow : Arrow) : Option EngineError :=
  if t.isBlocked arrow.actor arrow.target then some .blocked
  else
    match t.matchRows[PairId.of arrow.actor arrow.target]? with
    | some m =>
      if m.state = .blocked then some .blocked
      else if m.state.isTerminal then some (.relationshipTerminated m.state)
      else none
    | none => none

theorem swipeRefusal_of_isBlocked {t : Tables} {arrow : Arrow}
    (h : t.isBlocked arrow.actor arrow.target = true) : t.swipeRefusal arrow = some .blocked :=
  if_pos h

theorem swipeRefusal_eq_none {t : Tables} {arrow : Arrow} :
    t.swipeRefusal arrow = none ↔
      t.isBlocked arrow.actor arrow.target = false ∧
        ∀ m, t.matchRows[PairId.of arrow.actor arrow.target]? = some m →
          m.state.isTerminal = false := by
  unfold swipeRefusal
  split
  · simp_all
  split
  · rename_i m hm
    split
    · rename_i hbarred
      simp [hm, hbarred, MatchState.isTerminal]
    · split <;> simp_all
  · simp_all

/-- Whether the swipe answers a live like with a like. -/
def answersLike (t : Tables) (arrow : Arrow) (direction : Direction) : Bool :=
  direction = .like && t.hasLiveLike ⟨arrow.target, arrow.actor⟩

/-- The tables after a swipe; `id` is for one that is not stored yet. -/
@[simps] def swiped (t : Tables) (arrow : Arrow) (direction : Direction) (now : Instant)
    (id : Uuid) : Tables :=
  { t with
    likes := t.likes.set arrow (some (t.upserted arrow direction now id))
    matchRows :=
      if t.answersLike arrow direction then
        t.matchRows.set (.of arrow.actor arrow.target)
          (some (t.matchOf arrow.actor arrow.target now))
      else t.matchRows
    conversations :=
      if t.answersLike arrow direction then
        t.conversations.set (.of arrow.actor arrow.target)
          (some (t.conversationOf arrow.actor arrow.target now))
      else t.conversations }

/-- What the swipe is answered with. -/
def swipeResult (t : Tables) (arrow : Arrow) (direction : Direction) (now : Instant)
    (id : Uuid) : SwipeResult where
  matched := t.answersLike arrow direction
  matchOf :=
    if t.answersLike arrow direction then some (t.matchOf arrow.actor arrow.target now) else none
  like := t.upserted arrow direction now id
  newMatch :=
    t.answersLike arrow direction && t.matchRows[PairId.of arrow.actor arrow.target]?.isNone

theorem Keyed.swiped {t : Tables} (h : t.Keyed) (arrow : Arrow) (direction : Direction)
    (now : Instant) (id : Uuid) : (t.swiped arrow direction now id).Keyed where
  like := of_set h.like (h.upserted arrow direction now id)
  matchRow := by
    rw [swiped_matchRows]
    split
    · exact of_set h.matchRow (h.matchOf arrow.actor arrow.target now)
    · exact h.matchRow
  block := h.block
  request := h.request
  conversation := by
    rw [swiped_conversations]
    split
    · exact of_set h.conversation (h.conversationOf arrow.actor arrow.target now)
    · exact h.conversation

theorem isLiveLike_upserted (t : Tables) (arrow : Arrow) (direction : Direction) (now : Instant)
    (id : Uuid) :
    (t.upserted arrow direction now id).isLiveLike = decide (direction = .like) := by
  unfold upserted
  split
  · simp [Like.isLiveLike, Like.isDeleted]
  · simp [Like.isLiveLike, Like.isDeleted, Like.new]
    rfl

/-- The identifier that is offered for a swipe counts only if the swipe is not stored yet. -/
theorem upserted_of_contains (t : Tables) {arrow : Arrow} (h : t.likes.contains arrow = true)
    (direction : Direction) (now : Instant) (id id' : Uuid) :
    t.upserted arrow direction now id = t.upserted arrow direction now id' := by
  rw [Rows.contains_eq] at h
  obtain ⟨l, hl⟩ := Option.isSome_iff_exists.1 h
  rw [upserted, upserted, hl]

end Tables

namespace Operation

variable {arrow : Arrow}

theorem perform_requireSwipeable (arrow : Arrow) (m : Memory) :
    (requireSwipeable arrow).perform m =
      match m.tables.swipeRefusal arrow with
      | some e => (.error (.error e), m)
      | none => (.ok (), m) := by
  by_cases hblocked : m.tables.isBlocked arrow.actor arrow.target
  · simp [requireSwipeable, Work.bind_eq, Work.run, Tables.swipeRefusal, hblocked]
  · cases h : m.tables.matchRows[PairId.of arrow.actor arrow.target]? with
    | none =>
      simp [requireSwipeable, Work.bind_eq, Work.pure_eq, Work.run, Tables.swipeRefusal, hblocked,
        h]
    | some found =>
      by_cases hbarred : found.state = .blocked
      · simp [requireSwipeable, Work.bind_eq, Work.run, Tables.swipeRefusal, hblocked, h, hbarred]
      · by_cases hs : found.state.isTerminal <;>
          simp [requireSwipeable, Work.bind_eq, Work.pure_eq, Work.run, Tables.swipeRefusal,
            hblocked, h, hbarred, hs]

/-- The swipe is stored already, and is not the one of the other user. -/
theorem findMutualLike_upserted (hne : arrow.actor ≠ arrow.target) (t : Tables)
    (direction : Direction) (now : Instant) (id : Uuid) :
    let t' := t.setLike arrow (t.upserted arrow direction now id)
    (t'.hasLiveLike ⟨arrow.target, arrow.actor⟩ && t'.hasLiveLike ⟨arrow.actor, arrow.target⟩) =
      t.answersLike arrow direction := by
  have hback : arrow ≠ ⟨arrow.target, arrow.actor⟩ := fun h => hne (congrArg Arrow.actor h)
  simp only [Tables.hasLiveLike, Tables.setLike_likes, Rows.getElem?_set_of_ne _ hback]
  rw [Rows.getElem?_set_self, Option.any_some, Tables.isLiveLike_upserted, Bool.and_comm]
  rfl

theorem perform_matchOnMutualLike (hne : arrow.actor ≠ arrow.target) (direction : Direction)
    (now : Instant) (id : Uuid) (m : Memory) (minted : Nat) :
    (matchOnMutualLike arrow direction now).perform
        { m with
          tables := m.tables.setLike arrow (m.tables.upserted arrow direction now id)
          minted := minted } =
      (.ok (if m.tables.answersLike arrow direction then
          some (m.tables.matchOf arrow.actor arrow.target now,
            m.tables.matchRows[PairId.of arrow.actor arrow.target]?.isNone)
        else none),
        { m with tables := m.tables.swiped arrow direction now id, minted := minted }) := by
  have hfind := findMutualLike_upserted hne m.tables direction now id
  by_cases hlike : direction = .like
  · simp only [matchOnMutualLike, hlike, ↓reduceIte, Work.bind_eq, Work.pure_eq, Work.run,
      Work.call_bind, Work.done_bind, Work.perform_call, Memory.perform_findMutualLike]
    rw [← hlike, hfind]
    by_cases hanswers : m.tables.answersLike arrow direction <;>
      simp [hanswers, Tables.swiped, Tables.setMatch, Tables.setConversation, Tables.setLike,
        Tables.matchOf, Tables.conversationOf]
  · simp [matchOnMutualLike, Work.pure_eq, hlike, Tables.answersLike, Tables.swiped,
      Tables.setLike]

theorem perform_swipeWork (hne : arrow.actor ≠ arrow.target) (direction : Direction)
    (now : Instant) (m : Memory) :
    (swipeWork arrow direction now).perform m =
      match m.tables.swipeRefusal arrow with
      | some e => (.error (.error e), m)
      | none =>
        (.ok (.commit (m.tables.swipeResult arrow direction now (.fresh m.minted))), { m with
          tables := m.tables.swiped arrow direction now (.fresh m.minted)
          minted := if m.tables.likes.contains arrow then m.minted else m.minted + 1 }) := by
  cases hrefusal : m.tables.swipeRefusal arrow with
  | some e =>
    simp only [swipeWork, Work.bind_eq, Work.perform_bind _ _ m, perform_requireSwipeable, hrefusal]
  | none =>
    simp only [swipeWork, Work.bind_eq, Work.pure_eq, Work.perform_bind _ _ m,
      perform_requireSwipeable, hrefusal, Work.run, Work.call_bind, Work.done_bind,
      Work.perform_call, Memory.perform_upsertLike]
    rw [Work.perform_bind, perform_matchOnMutualLike hne]
    by_cases hanswers : m.tables.answersLike arrow direction <;>
      simp [Tables.swipeResult, hanswers]

/-- A swipe that is turned down leaves no trace. -/
theorem inUnit_swipeWork_refused (hne : arrow.actor ≠ arrow.target) {m : Memory} {e : EngineError}
    (h : m.tables.swipeRefusal arrow = some e) (direction : Direction) (now : Instant) :
    (swipeWork arrow direction now).inUnit m = (.error (.error e), m) := by
  rw [Work.inUnit_eq, perform_swipeWork hne, h]
  rfl

theorem inUnit_swipeWork_ok (hne : arrow.actor ≠ arrow.target) {direction : Direction}
    {now : Instant} {m m' : Memory} {answer : SwipeResult}
    (h : (swipeWork arrow direction now).inUnit m = (.ok answer, m')) :
    m.tables.swipeRefusal arrow = none ∧
      answer = m.tables.swipeResult arrow direction now (.fresh m.minted) ∧
      m'.tables = m.tables.swiped arrow direction now (.fresh m.minted) := by
  rcases Work.inUnit_ok h with h | ⟨_, h, _⟩ <;> rw [perform_swipeWork hne] at h <;>
    split at h <;> cases h
  rename_i hrefusal
  exact ⟨hrefusal, rfl, rfl⟩

end Operation

end Courtship
