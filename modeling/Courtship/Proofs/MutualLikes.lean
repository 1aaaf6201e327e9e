import Courtship.Proofs.World

/-! Matches and the likes that they come from: two users who hold a live like toward each other have
a match, and only the swipe that made it is told that it is new. -/

namespace Courtship

/-! ## Effects on likes and on the presence of matches -/

namespace Tables

theorem hasLiveLike_swiped_self (t : Tables) (arrow : Arrow) (direction : Direction)
    (now : Instant) (id : Uuid) :
    (t.swiped arrow direction now id).hasLiveLike arrow = decide (direction = .like) := by
  rw [hasLiveLike, swiped_likes, Rows.getElem?_set_self, Option.any_some, isLiveLike_upserted]

theorem hasLiveLike_swiped_of_ne (t : Tables) {arrow other : Arrow} (h : arrow ≠ other)
    (direction : Direction) (now : Instant) (id : Uuid) :
    (t.swiped arrow direction now id).hasLiveLike other = t.hasLiveLike other := by
  rw [hasLiveLike, swiped_likes, Rows.getElem?_set_of_ne _ h, hasLiveLike]

theorem isSome_likes_swiped (t : Tables) (arrow other : Arrow) (direction : Direction)
    (now : Instant) (id : Uuid) :
    (t.swiped arrow direction now id).likes[other]?.isSome =
      (decide (arrow = other) || t.likes[other]?.isSome) := by
  rw [swiped_likes, Rows.get?_set]
  by_cases h : arrow = other <;> simp [h]

theorem isSome_matchRows_swiped (t : Tables) (arrow : Arrow) (direction : Direction)
    (now : Instant) (id : Uuid) (pair : PairId) :
    (t.swiped arrow direction now id).matchRows[pair]?.isSome =
      (t.matchRows[pair]?.isSome ||
        (t.answersLike arrow direction && decide (PairId.of arrow.actor arrow.target = pair))) := by
  rw [swiped_matchRows]
  split
  · rename_i hanswers
    rw [Rows.get?_set]
    by_cases h : PairId.of arrow.actor arrow.target = pair <;> simp [h, hanswers]
  · rename_i hanswers
    simp [hanswers]

/-- What every effect but that of a swipe does at most: withdraw likes, and change matches. -/
structure Quiet (t t' : Tables) : Prop where
  live : ∀ arrow, t'.hasLiveLike arrow = true → t.hasLiveLike arrow = true
  likes : ∀ arrow : Arrow, t'.likes[arrow]?.isSome = t.likes[arrow]?.isSome
  matchRows : ∀ pair : PairId, t'.matchRows[pair]?.isSome = t.matchRows[pair]?.isSome

/-- Changes to matches alone. -/
theorem Quiet.of_matchRows {t t' : Tables} (hlikes : t'.likes = t.likes)
    (hmatchRows : ∀ pair : PairId, t'.matchRows[pair]?.isSome = t.matchRows[pair]?.isSome) :
    Quiet t t' where
  live arrow h := by
    rw [hasLiveLike, hlikes] at h
    exact h
  likes arrow := by rw [hlikes]
  matchRows := hmatchRows

theorem quiet_undone (t : Tables) {arrow : Arrow} {l : Like} (hl : t.likes[arrow]? = some l)
    (now ended : Instant) : Quiet t (t.undone arrow l now ended) where
  live other h := by
    rw [hasLiveLike, undone_likes, Rows.get?_set] at h
    split at h
    · simp [Like.isLiveLike, Like.isDeleted, Like.withdrawn] at h
    · exact h
  likes other := by
    rw [undone_likes, Rows.isSome_getElem?_set (by rw [hl]; rfl)]
  matchRows pair := by
    rw [undone_matchRows, matchEnded]
    cases hend : t.matchToEnd arrow l with
    | none => rfl
    | some m => exact Rows.isSome_getElem?_set (by rw [(matchToEnd_eq_some.1 hend).2.1]; rfl) pair

end Tables

theorem Effect.quiet {settings : Settings} {readings : Readings} {t t' : Tables} {c : Command}
    {answer : c.Answer} (h : Effect settings readings t c answer t')
    (hc : ∀ arrow direction, c ≠ .swipe arrow direction) : t.Quiet t' := by
  cases h with
  | swipe arrow direction => exact absurd rfl (hc arrow direction)
  | undo arrow l hl => exact t.quiet_undone (Tables.toWithdraw_ok hl).1 _ _
  | propose => exact .of_matchRows rfl fun _ => rfl
  | respond id noticeId responder accept r current hfound =>
    obtain ⟨_, _, _, hm, _⟩ := Tables.toAnswer_ok hfound
    exact .of_matchRows rfl (Rows.isSome_getElem?_set (by rw [hm]; rfl))
  | exitAgain => exact .of_matchRows rfl fun _ => rfl
  | exit arrow current noticeId hstored =>
    exact .of_matchRows rfl (Rows.isSome_getElem?_set (by rw [hstored]; rfl))
  | unmatch arrow current hstored =>
    exact .of_matchRows rfl (Rows.isSome_getElem?_set (by rw [hstored]; rfl))
  | block arrow =>
    exact .of_matchRows rfl (Rows.isSome_getElem?_set (by rw [Option.isSome_map]))
  | unblock => exact .of_matchRows rfl fun _ => rfl

/-! ## The invariant -/

namespace World

/-- Whether a swipe between the two users was told that its match is new. -/
def Outcome.isNewMatch (a b : UserId) : Outcome → Bool
  | .done (.swipe arrow _) _ result => (arrow = ⟨a, b⟩ || arrow = ⟨b, a⟩) && result.newMatch
  | _ => false

variable {settings : Settings} {a b : UserId}

structure Mutual (a b : UserId) (t : Tables) (outcomes : List Outcome) : Prop where
  stored : t.hasLiveLike ⟨a, b⟩ = true → t.hasLiveLike ⟨b, a⟩ = true →
    t.matchRows[PairId.of a b]?.isSome = true
  liked : t.matchRows[PairId.of a b]?.isSome = true →
    t.likes[(⟨a, b⟩ : Arrow)]?.isSome = true ∧ t.likes[(⟨b, a⟩ : Arrow)]?.isSome = true
  count : outcomes.countP (Outcome.isNewMatch a b) =
    if t.matchRows[PairId.of a b]?.isSome then 1 else 0

/-- A swipe between two users is one of either toward the other. -/
theorem of_eq_of_iff {arrow : Arrow} :
    PairId.of arrow.actor arrow.target = PairId.of a b ↔ arrow = ⟨a, b⟩ ∨ arrow = ⟨b, a⟩ := by
  obtain ⟨actor, target⟩ := arrow
  simp [PairId.of_eq_iff]

theorem Mutual.swiped {t : Tables} {outcomes : List Outcome} (h : Mutual a b t outcomes)
    (hne : a ≠ b) (arrow : Arrow) (direction : Direction) (readings : Readings) (id : Uuid) :
    Mutual a b (t.swiped arrow direction (readings 0) id)
      (.done (.swipe arrow direction) readings
        (t.swipeResult arrow direction (readings 0) id) :: outcomes) where
  stored := by
    have hab : (⟨a, b⟩ : Arrow) ≠ ⟨b, a⟩ := fun e => hne (congrArg Arrow.actor e)
    intro hlive hback
    rw [Tables.isSome_matchRows_swiped, Bool.or_eq_true]
    by_cases hfirst : arrow = ⟨a, b⟩
    · subst hfirst
      rw [Tables.hasLiveLike_swiped_self] at hlive
      rw [Tables.hasLiveLike_swiped_of_ne _ hab] at hback
      exact .inr (by simp [Tables.answersLike, of_decide_eq_true hlive, hback])
    by_cases hsecond : arrow = ⟨b, a⟩
    · subst hsecond
      rw [Tables.hasLiveLike_swiped_of_ne _ hab.symm] at hlive
      rw [Tables.hasLiveLike_swiped_self] at hback
      exact .inr (by simp [Tables.answersLike, of_decide_eq_true hback, hlive, PairId.of_comm b a])
    · rw [Tables.hasLiveLike_swiped_of_ne _ hfirst] at hlive
      rw [Tables.hasLiveLike_swiped_of_ne _ hsecond] at hback
      exact .inl (h.stored hlive hback)
  liked := by
    intro hstored
    rw [Tables.isSome_matchRows_swiped, Bool.or_eq_true, Bool.and_eq_true, decide_eq_true_eq,
      of_eq_of_iff] at hstored
    rw [Tables.isSome_likes_swiped, Tables.isSome_likes_swiped, Bool.or_eq_true, Bool.or_eq_true]
    rcases hstored with hstored | ⟨hanswers, hbetween⟩
    · obtain ⟨hlike, hback⟩ := h.liked hstored
      exact ⟨.inr hlike, .inr hback⟩
    · have hother : t.likes[(⟨arrow.target, arrow.actor⟩ : Arrow)]?.isSome = true := by
        simp only [Tables.answersLike, Bool.and_eq_true, Tables.hasLiveLike] at hanswers
        obtain ⟨l, hl, _⟩ := (Option.any_eq_true ..).1 hanswers.2
        rw [hl]
        rfl
      rcases hbetween with rfl | rfl
      · exact ⟨.inl (by simp), .inr hother⟩
      · exact ⟨.inr hother, .inl (by simp)⟩
  count := by
    rw [List.countP_cons, h.count, Tables.isSome_matchRows_swiped]
    by_cases hbetween : PairId.of arrow.actor arrow.target = PairId.of a b
    · have hnew : Outcome.isNewMatch a b (.done (.swipe arrow direction) readings
          (t.swipeResult arrow direction (readings 0) id)) =
          (t.answersLike arrow direction && t.matchRows[PairId.of a b]?.isNone) := by
        have harrow : (decide (arrow = ⟨a, b⟩) || decide (arrow = ⟨b, a⟩)) = true := by
          simpa using of_eq_of_iff.1 hbetween
        rw [Outcome.isNewMatch, harrow, Bool.true_and, ← hbetween]
        rfl
      rw [hnew]
      cases t.answersLike arrow direction <;> cases t.matchRows[PairId.of a b]? <;>
        simp [hbetween]
    · have hnew : Outcome.isNewMatch a b (.done (.swipe arrow direction) readings
          (t.swipeResult arrow direction (readings 0) id)) = false := by
        have harrow : (decide (arrow = ⟨a, b⟩) || decide (arrow = ⟨b, a⟩)) = false := by
          simpa using fun e => hbetween (of_eq_of_iff.2 e)
        rw [Outcome.isNewMatch, harrow, Bool.false_and]
      rw [hnew]
      simp [hbetween]

theorem Mutual.quiet {t t' : Tables} {outcomes : List Outcome} (h : Mutual a b t outcomes)
    (hquiet : t.Quiet t') {o : Outcome} (ho : o.isNewMatch a b = false) :
    Mutual a b t' (o :: outcomes) where
  stored hlive hback := by
    rw [hquiet.matchRows]
    exact h.stored (hquiet.live _ hlive) (hquiet.live _ hback)
  liked hstored := by
    rw [hquiet.matchRows] at hstored
    rw [hquiet.likes, hquiet.likes]
    exact h.liked hstored
  count := by
    rw [List.countP_cons, ho, h.count, hquiet.matchRows]
    rfl

theorem mutual_run (settings : Settings) (hne : a ≠ b) (events : List Event) :
    Mutual a b (run settings events).memory.tables (run settings events).outcomes := by
  refine run_induction (P := Mutual a b) ?_ ?_ ?_ events
  · exact ⟨by simp [Tables.hasLiveLike, Tables.empty], by simp [Tables.empty],
      by simp [Tables.empty]⟩
  · intro t outcomes c why h
    exact h.quiet (.of_matchRows rfl fun _ => rfl) rfl
  · intro events t' c readings answer h heffect
    cases c with
    | swipe arrow direction =>
      cases heffect with
      | swipe _ _ id => exact h.swiped hne arrow direction readings id
    | undoLastSwipe | propose | respond | gracefulExit | unmatch | block | unblock =>
      exact h.quiet (heffect.quiet (by simp)) rfl

/-- What a swipe is answered, by the tables that it finds. -/
theorem swipe_answer {events : List Event} {e : Event} {readings : Readings}
    {direction : Direction} {result : SwipeResult}
    (h : (run settings (events ++ [e])).outcomes =
      .done (.swipe ⟨a, b⟩ direction) readings result :: (run settings events).outcomes) :
    (result.matched = true ↔ direction = .like ∧
        (run settings events).memory.tables.hasLiveLike ⟨b, a⟩ = true) ∧
      result.matchOf.isSome = result.matched ∧
      (result.newMatch = true ↔ result.matched = true ∧
        (run settings events).memory.tables.matchRows[PairId.of a b]? = none) := by
  have heffect := effect_of_outcome h
  generalize (run settings events).memory.tables = t at heffect ⊢
  generalize (run settings (events ++ [e])).memory.tables = t' at heffect
  cases heffect with
  | swipe arrow direction id =>
    refine ⟨?_, ?_, ?_⟩
    · simp [Tables.swipeResult, Tables.answersLike]
    · cases hanswers : t.answersLike ⟨a, b⟩ direction <;> simp [Tables.swipeResult, hanswers]
    · simp [Tables.swipeResult]

/-- **No match is missed, and none is made twice.** In every run two users who hold live likes
toward each other have a match, and two users with a match have both swiped; of the swipes between
them one was told that the match is new if there is a match, and none if there is not. A swipe
matches when it is a like and answers a live one, and its match is new when there was none. -/
theorem mutual_likes_match (settings : Settings) {a b : UserId} (hne : a ≠ b) :
    (∀ events : List Event,
      let w := run settings events
      (w.memory.tables.hasLiveLike ⟨a, b⟩ = true → w.memory.tables.hasLiveLike ⟨b, a⟩ = true →
        w.memory.tables.matchRows[PairId.of a b]?.isSome = true) ∧
      (w.memory.tables.matchRows[PairId.of a b]?.isSome = true →
        w.memory.tables.likes[(⟨a, b⟩ : Arrow)]?.isSome = true ∧
          w.memory.tables.likes[(⟨b, a⟩ : Arrow)]?.isSome = true) ∧
      w.outcomes.countP (Outcome.isNewMatch a b) =
        if w.memory.tables.matchRows[PairId.of a b]?.isSome then 1 else 0) ∧
    (∀ (events : List Event) (e : Event) (readings : Readings) (direction : Direction)
      (result : SwipeResult),
      (run settings (events ++ [e])).outcomes =
        .done (.swipe ⟨a, b⟩ direction) readings result :: (run settings events).outcomes →
      let t := (run settings events).memory.tables
      (result.matched = true ↔ direction = .like ∧ t.hasLiveLike ⟨b, a⟩ = true) ∧
        result.matchOf.isSome = result.matched ∧
        (result.newMatch = true ↔
          result.matched = true ∧ t.matchRows[PairId.of a b]? = none)) := by
  constructor
  · intro events
    have h := mutual_run settings hne events
    exact ⟨h.stored, h.liked, h.count⟩
  · intro events e readings direction result h
    exact swipe_answer h

/-- The second of two likes makes the match. -/
theorem mutual_likes_match_second :
    let a := UserId.ofNat 1
    let b := UserId.ofNat 2
    let first := inTurn .epoch [.swipe ⟨b, a⟩ .like]
    let called := first ++ [.call (.swipe ⟨a, b⟩ .like) fun _ => .epoch]
    let both := called ++ [.attempt 0 fun _ => .epoch]
    let result : SwipeResult :=
      ⟨true, some (.new a b .epoch), .new (.fresh 1) a b .like .epoch, true⟩
    (run {} both).memory.tables.matchRows[PairId.of a b]?.isSome = true ∧
      (run {} both).memory.tables.likes[(⟨b, a⟩ : Arrow)]?.isSome = true ∧
      (run {} called).memory.tables.matchRows[PairId.of a b]? = none ∧
      (result.matched = true ↔ Direction.like = .like ∧
        (run {} called).memory.tables.hasLiveLike ⟨b, a⟩ = true) ∧
      (run {} both).outcomes =
        .done (.swipe ⟨a, b⟩ .like) (fun _ => .epoch) result :: (run {} called).outcomes := by
  intro a b first called both result
  have hne : a ≠ b := by decide
  obtain ⟨hstates, hswipes⟩ := mutual_likes_match {} hne
  have hlast : (run {} both).outcomes =
      .done (.swipe ⟨a, b⟩ .like) (fun _ => .epoch) result :: (run {} called).outcomes := rfl
  obtain ⟨hmatched, _, hnew⟩ := hswipes called _ _ _ _ hlast
  obtain ⟨hstored, hliked, _⟩ := hstates both
  have hrow : (run {} both).memory.tables.matchRows[PairId.of a b]?.isSome = true := by
    apply hstored <;> decide +kernel
  exact ⟨hrow, (hliked hrow).2, (hnew.1 rfl).2, hmatched, hlast⟩

end World

end Courtship
