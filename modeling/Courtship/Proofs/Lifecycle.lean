import Courtship.Proofs.World

/-! The life of a match along a run: it begins active, may turn into a friendship, and ends at most
once. What its record says of that fits its state. -/

namespace Courtship

/-! ## Records -/

namespace Match

/-- The match `later` has gone on from `m`, and names the same two users since the same time. -/
structure GoesOnTo (m later : Match) : Prop where
  state : (m.state = .active ∧ later.state ≠ .active) ∨
    (m.state = .friends ∧ later.state ≠ .active ∧ later.state ≠ .friends)
  id : later.id = m.id
  userA : later.userA = m.userA
  userB : later.userB = m.userB
  createdAt : later.createdAt = m.createdAt

/-- An end was brought about by one of the two users. -/
def EndedByUser (m : Match) : Prop := m.endedBy = some m.userA ∨ m.endedBy = some m.userB

/-- What the record says of an end fits its state. -/
def Fits (m : Match) : Prop :=
  match m.state with
  | .active => m.endReason = none ∧ m.endedBy = none ∧ m.stateChangedAt = m.createdAt
  | .friends => m.endReason = none ∧ m.endedBy = none
  | .gracefulExit => m.endReason = some .gracefulExit ∧ m.EndedByUser
  | .unmatched =>
    (m.endReason = some .unmatch ∨ m.endReason = some .friendZoneDeclined) ∧ m.EndedByUser
  | .blocked => m.endReason = some .block ∧ m.EndedByUser

/-- A record as it may be found under `pair`. -/
structure Lawful (m : Match) (pair : PairId) : Prop where
  id : m.id = pair
  users : PairId.of m.userA m.userB = pair
  order : m.userA.toNat < m.userB.toNat
  fits : m.Fits

theorem lawful_new {a b : UserId} (hne : a ≠ b) (now : Instant) :
    (new a b now).Lawful (PairId.of a b) where
  id := new_id a b now
  users := of_users_new a b now
  order := inOrder_lt hne
  fits := ⟨rfl, rfl, rfl⟩

theorem GoesOnTo.trans {m next later : Match} (h : m.GoesOnTo next) (h' : next.GoesOnTo later) :
    m.GoesOnTo later where
  state := by
    rcases h.state with ⟨hactive, hnext⟩ | ⟨hfriends, hnext, hnext'⟩ <;>
      rcases h'.state with ⟨hactive', hlater⟩ | ⟨hfriends', hlater, hlater'⟩
    · exact .inl ⟨hactive, hlater⟩
    · exact .inl ⟨hactive, hlater⟩
    · exact absurd hactive' hnext
    · exact absurd hfriends' hnext'
  id := h'.id.trans h.id
  userA := h'.userA.trans h.userA
  userB := h'.userB.trans h.userB
  createdAt := h'.createdAt.trans h.createdAt

end Match

namespace MatchState

/-- The reasons that a match in this state may have ended for. -/
def allows : MatchState → ArchiveReason → Bool
  | gracefulExit, .gracefulExit => true
  | unmatched, .unmatch => true
  | unmatched, .friendZoneDeclined => true
  | blocked, .block => true
  | _, _ => false

end MatchState

/-! ## Steps -/

/-- What an effect can make of the match under `pair`. -/
inductive MatchStep (pair : PairId) : Option Match → Option Match → Prop
  | same (found : Option Match) : MatchStep pair found found
  | created (m : Match) (a b : UserId) (now : Instant) (hne : a ≠ b)
      (hpair : PairId.of a b = pair) (hnew : m = Match.new a b now) :
      MatchStep pair none (some m)
  | moved (m : Match) (target : MatchState) (user : UserId) (reason : Option ArchiveReason)
      (now : Instant) (huser : m.involves user = true)
      (hcan : m.state.canBecome target = true)
      (hreason : target.isTerminal = true → ∃ r, reason = some r ∧ target.allows r = true) :
      MatchStep pair (some m) (some (m.moved target user reason now))

namespace MatchStep

/-- A write under the key of a pair is a step there, and nothing happens elsewhere. -/
theorem of_set {t : Tables} {key : PairId} {row : Option Match}
    (h : MatchStep key t.matchRows[key]? row) (pair : PairId) :
    MatchStep pair t.matchRows[pair]? (t.matchRows.set key row)[pair]? :=
  Rows.rel_set h (fun _ => .same) pair

theorem lawful {pair : PairId} {found : Option Match} {m' : Match}
    (h : MatchStep pair found (some m')) (hfound : ∀ m, found = some m → m.Lawful pair) :
    m'.Lawful pair := by
  cases h with
  | same => exact hfound m' rfl
  | created _ a b now hne hpair hnew =>
    rw [hnew, ← hpair]
    exact Match.lawful_new hne now
  | moved m target user reason now huser hcan hreason =>
    have hm := hfound m rfl
    refine ⟨?_, ?_, ?_, ?_⟩
    · rw [Match.moved_id]
      exact hm.id
    · rw [Match.moved_userA, Match.moved_userB]
      exact hm.users
    · rw [Match.moved_userA, Match.moved_userB]
      exact hm.order
    · have huser' : some user = some m.userA ∨ some user = some m.userB := by
        simp only [Match.involves, Bool.or_eq_true, decide_eq_true_eq] at huser
        rcases huser with rfl | rfl
        · exact .inl rfl
        · exact .inr rfl
      cases target with
      | active => cases hs : m.state <;> simp [hs, MatchState.canBecome] at hcan
      | friends =>
        have hactive : m.state = .active := by
          cases hs : m.state <;> simp [hs, MatchState.canBecome] at hcan ⊢
        have hfits := hm.fits
        simp only [Match.Fits, hactive] at hfits
        exact ⟨hfits.1, hfits.2.1⟩
      | gracefulExit =>
        obtain ⟨r, rfl, hr⟩ := hreason rfl
        cases r <;> simp [MatchState.allows] at hr
        exact ⟨rfl, huser'⟩
      | unmatched =>
        obtain ⟨r, rfl, hr⟩ := hreason rfl
        cases r <;> simp [MatchState.allows] at hr
        · exact ⟨.inr rfl, huser'⟩
        · exact ⟨.inl rfl, huser'⟩
      | blocked =>
        obtain ⟨r, rfl, hr⟩ := hreason rfl
        cases r <;> simp [MatchState.allows] at hr
        exact ⟨rfl, huser'⟩

/-- A stored match stays as it is or goes on. -/
theorem goesOn {pair : PairId} {m : Match} {later : Option Match}
    (h : MatchStep pair (some m) later) :
    ∃ m', later = some m' ∧ (m' = m ∨ m.GoesOnTo m') := by
  cases h with
  | same => exact ⟨m, rfl, .inl rfl⟩
  | moved _ target user reason now huser hcan hreason =>
    refine ⟨_, rfl, .inr ⟨?_, ?_, ?_, ?_, ?_⟩⟩
    · rw [Match.moved_state]
      cases hs : m.state <;> cases target <;> simp [hs, MatchState.canBecome] at hcan ⊢
    · rw [Match.moved_id]
    · rw [Match.moved_userA]
    · rw [Match.moved_userB]
    · rw [Match.moved_createdAt]

theorem active_of_none {pair : PairId} {m : Match} (h : MatchStep pair none (some m)) :
    m.state = .active := by
  cases h with
  | created _ a b now hne hpair hnew =>
    rw [hnew]
    rfl

end MatchStep

/-! ## Effects -/

variable {settings : Settings}

theorem Effect.matchStep {readings : Readings} {t t' : Tables} {c : Command} {answer : c.Answer}
    (h : Effect settings readings t c answer t') (ht : t.Keyed) (pair : PairId) :
    MatchStep pair t.matchRows[pair]? t'.matchRows[pair]? := by
  cases h with
  | swipe arrow direction id hne hopen =>
    rw [Tables.swiped_matchRows]
    split
    · refine .of_set ?_ pair
      unfold Tables.matchOf
      cases t.matchRows[PairId.of arrow.actor arrow.target]? with
      | none => exact .created _ _ _ _ hne rfl rfl
      | some m => exact .same _
    · exact .same _
  | undo arrow l hl =>
    rw [Tables.undone_matchRows, Tables.matchEnded]
    cases hend : t.matchToEnd arrow l with
    | none => exact .same _
    | some m =>
      obtain ⟨_, hm, hactive, _⟩ := Tables.matchToEnd_eq_some.1 hend
      refine .of_set ?_ pair
      rw [hm]
      exact .moved m .unmatched _ _ _ (ht.involves hm).1 (by rw [hactive]; rfl)
        fun _ => ⟨_, rfl, rfl⟩
  | propose => exact .same _
  | respond id noticeId responder accept r current hfound =>
    obtain ⟨hr, _, _, hm, hactive⟩ := Tables.toAnswer_ok hfound
    have hpair := (ht.request hr).2
    refine .of_set ?_ pair
    rw [hm]
    refine .moved current _ _ _ _ (ht.involves (hpair ▸ hm)).2 ?_ ?_
    · rw [hactive]
      cases accept <;> rfl
    · intro hterminal
      cases accept
      · exact ⟨_, rfl, rfl⟩
      · cases hterminal
  | exitAgain => exact .same _
  | exit arrow current noticeId hstored hs =>
    refine .of_set ?_ pair
    rw [hstored]
    exact .moved current .gracefulExit _ _ _ (ht.involves hstored).1
      (MatchState.canBecome_terminal hs rfl) fun _ => ⟨_, rfl, rfl⟩
  | unmatch arrow current hstored hs =>
    refine .of_set ?_ pair
    rw [hstored]
    exact .moved current .unmatched _ _ _ (ht.involves hstored).1
      (MatchState.canBecome_terminal hs rfl) fun _ => ⟨_, rfl, rfl⟩
  | block arrow =>
    refine .of_set ?_ pair
    cases hm : t.matchRows[PairId.of arrow.actor arrow.target]? with
    | none => exact .same _
    | some m =>
      rw [Option.map_some, Match.barredBy]
      split
      · exact .same _
      · rename_i hs
        exact .moved m .blocked _ _ _ (ht.involves hm).1
          (MatchState.canBecome_terminal (by simpa using hs) rfl) fun _ => ⟨_, rfl, rfl⟩
  | unblock => exact .same _

/-! ## Runs -/

namespace World

theorem lawful_run (events : List Event) {pair : PairId} {m : Match}
    (h : (run settings events).memory.tables.matchRows[pair]? = some m) : m.Lawful pair := by
  revert m
  refine run_induction (P := fun t _ => ∀ {m}, t.matchRows[pair]? = some m → m.Lawful pair)
    ?_ ?_ ?_ events
  · intro m h
    simp [Tables.empty] at h
  · exact fun _ _ _ _ ih => ih
  · intro events t' c readings answer ih heffect m h
    have hstep := heffect.matchStep (sound_run events).keyed pair
    rw [h] at hstep
    exact hstep.lawful fun _ => ih

/-- Along the rest of a run a stored match stays as it is or goes on. -/
theorem goesOn_run (before after : List Event) {pair : PairId} {m : Match}
    (h : (run settings before).memory.tables.matchRows[pair]? = some m) :
    ∃ m', (run settings (before ++ after)).memory.tables.matchRows[pair]? = some m' ∧
      (m' = m ∨ m.GoesOnTo m') := by
  refine run_append_induction
    (P := fun t _ => ∃ m', t.matchRows[pair]? = some m' ∧ (m' = m ∨ m.GoesOnTo m'))
    before ⟨m, h, .inl rfl⟩ ?_ ?_ after
  · exact fun _ _ _ _ ih => ih
  · rintro events t' c readings answer ⟨next, hnext, hbefore⟩ heffect
    have hstep := heffect.matchStep (sound_run events).keyed pair
    rw [hnext] at hstep
    obtain ⟨later, hlater, hafter⟩ := hstep.goesOn
    refine ⟨later, hlater, ?_⟩
    rcases hbefore with rfl | hbefore
    · exact hafter
    · rcases hafter with rfl | hafter
      · exact .inr hbefore
      · exact .inr (hbefore.trans hafter)

theorem active_of_first (events : List Event) (e : Event) {pair : PairId} {m : Match}
    (hnone : (run settings events).memory.tables.matchRows[pair]? = none)
    (h : (run settings (events ++ [e])).memory.tables.matchRows[pair]? = some m) :
    m.state = .active := by
  rw [run_concat] at h
  cases stepResult (sound_run events) e with
  | kept htables => rw [htables, hnone] at h; cases h
  | failed c why htables => rw [htables, hnone] at h; cases h
  | done c readings answer heffect =>
    have hstep := heffect.matchStep (sound_run events).keyed pair
    rw [hnone, h] at hstep
    exact hstep.active_of_none

/-- **The life of a match.** In every run the match under an identifier is first stored as active.
Whatever comes after, it stays stored, and its record stays as it is or goes on: from active, or
from a friendship to an end. An ended match keeps its record. At any time the record names two
users in order, has their identifier, and says of its end what its state allows. -/
theorem match_lifecycle (settings : Settings) (pair : PairId) :
    (∀ (events : List Event) (e : Event) (m : Match),
      (run settings events).memory.tables.matchRows[pair]? = none →
      (run settings (events ++ [e])).memory.tables.matchRows[pair]? = some m →
        m.state = .active) ∧
    (∀ (before after : List Event) (m : Match),
      (run settings before).memory.tables.matchRows[pair]? = some m →
        ∃ m', (run settings (before ++ after)).memory.tables.matchRows[pair]? = some m' ∧
          (m' = m ∨ m.GoesOnTo m')) ∧
    (∀ (before after : List Event) (m : Match),
      (run settings before).memory.tables.matchRows[pair]? = some m →
      m.state = .unmatched ∨ m.state = .gracefulExit ∨ m.state = .blocked →
        (run settings (before ++ after)).memory.tables.matchRows[pair]? = some m) ∧
    (∀ (events : List Event) (m : Match),
      (run settings events).memory.tables.matchRows[pair]? = some m → m.Lawful pair) := by
  refine ⟨?_, ?_, ?_, ?_⟩
  · intro events e m hnone h
    exact active_of_first events e hnone h
  · intro before after m h
    exact goesOn_run before after h
  · intro before after m h hended
    obtain ⟨m', h', rfl | hon⟩ := goesOn_run before after h
    · exact h'
    · rcases hended with hs | hs | hs <;> simpa [hs] using hon.state
  · intro events m h
    exact lawful_run events h

/-- A match that one user leaves outlasts a block by the other. -/
theorem match_lifecycle_left_then_blocked :
    let a := UserId.ofNat 1
    let b := UserId.ofNat 2
    let answering := inTurn .epoch [.swipe ⟨a, b⟩ .like] ++
      [.call (.swipe ⟨b, a⟩ .like) fun _ => .epoch]
    let liked := answering ++ [.attempt 0 fun _ => .epoch]
    let left := inTurn .epoch [.unmatch ⟨a, b⟩]
    let blocked := inTurn .epoch [.block ⟨b, a⟩]
    let begun := Match.new a b .epoch
    let ended := begun.moved .unmatched a (some .unmatch) .epoch
    begun.state = .active ∧
      (run {} ((liked ++ left) ++ blocked)).memory.tables.matchRows[PairId.of a b]? = some ended ∧
      ended.Lawful (PairId.of a b) ∧
      ∃ m', (run {} (liked ++ left)).memory.tables.matchRows[PairId.of a b]? = some m' ∧
        (m' = begun ∨ begun.GoesOnTo m') := by
  intro a b answering liked left blocked begun ended
  obtain ⟨hfirst, hgoesOn, hended, hlawful⟩ := match_lifecycle {} (PairId.of a b)
  have hnone : (run {} answering).memory.tables.matchRows[PairId.of a b]? = none := by
    decide +kernel
  have hliked : (run {} liked).memory.tables.matchRows[PairId.of a b]? = some begun := by
    decide +kernel
  have hleft : (run {} (liked ++ left)).memory.tables.matchRows[PairId.of a b]? = some ended := by
    decide +kernel
  refine ⟨?_, ?_, ?_, ?_⟩
  · exact hfirst answering _ begun hnone hliked
  · exact hended (liked ++ left) blocked ended hleft (.inl rfl)
  · exact hlawful (liked ++ left) ended hleft
  · exact hgoesOn liked left begun hliked

end World

end Courtship
