import Courtship.Proofs.Agreement

/-! Undoing a like that found the match of its pair already there. Whether the match ends with it
hangs on the state of the match alone, and not on the swipe that made the match: a friendship stays
as it was, but an active match of any age ends. -/

namespace Courtship

namespace World

variable {settings : Settings}

/-! ## Steps about others -/

/-- Along these events no command succeeds that is about one of the users. -/
def LeaveOut (settings : Settings) (users : List UserId) : World → List Event → Prop
  | _, [] => True
  | w, e :: events =>
    (∀ c readings answer a b,
      (w.step settings e).outcomes = .done c readings answer :: w.outcomes →
        c.About w.memory.tables answer a b → a ∉ users ∧ b ∉ users) ∧
    LeaveOut settings users (w.step settings e) events

/-- No command succeeds when it is called: it waits for its locks first. -/
theorem outcomes_call_ne (w : World) (called : Command) (readings : Readings) {c : Command}
    {later : Readings} {answer : c.Answer} :
    (w.step settings (.call called readings)).outcomes ≠ .done c later answer :: w.outcomes := by
  have hanswer := plan_ne_answer_ok settings called readings w.memory
  rw [step, World.called]
  rcases hplan : (called.operation settings).plan readings w.memory with
    ⟨⟨why | result⟩ | _, m⟩ <;> rw [hplan] at hanswer
  · intro h
    cases h
  · exact absurd rfl (hanswer result)
  · exact (List.cons_ne_self _ _).symm

theorem agreeOn_step {users : List UserId} {w : World} (hw : w.Sound settings) {e : Event}
    (h : ∀ c readings answer a b,
      (w.step settings e).outcomes = .done c readings answer :: w.outcomes →
        c.About w.memory.tables answer a b → a ∉ users ∧ b ∉ users) :
    w.memory.tables.AgreeOn users (w.step settings e).memory.tables := by
  cases stepResult hw e with
  | kept htables =>
    rw [htables]
    exact .refl users _
  | failed c why htables =>
    rw [htables]
    exact .refl users _
  | done c readings answer heffect houtcomes =>
    obtain ⟨a, b, habout, hwrites⟩ := heffect.writesUnder hw.keyed
    obtain ⟨ha, hb⟩ := h c readings answer a b houtcomes habout
    exact hwrites.agreeOn ha hb

theorem agreeOn_of_leaveOut {users : List UserId} {w : World} (hw : w.Sound settings)
    {events : List Event} (h : LeaveOut settings users w events) :
    w.memory.tables.AgreeOn users (events.foldl (step settings) w).memory.tables := by
  induction events generalizing w with
  | nil => exact .refl users _
  | cons e events ih => exact (agreeOn_step hw h.1).trans (ih (hw.step e) h.2)

end World

/-! ## The swipe and its undoing -/

variable {settings : Settings} {readings : Readings} {t t' : Tables}

/-- A like between two users whose match is stored refreshes the swipe and changes neither the match
nor the conversation. -/
theorem Effect.like_again {arrow : Arrow} {answer : SwipeResult} {m : Match}
    (h : Effect settings readings t (.swipe arrow .like) answer t') (ht : t.Coupled)
    (hm : t.matchRows[PairId.of arrow.actor arrow.target]? = some m) :
    m.state.isTerminal = false ∧ answer.newMatch = false ∧ answer.like.direction = .like ∧
      t'.likes[arrow]? = some answer.like ∧ t'.matchRows[PairId.of arrow.actor arrow.target]? =
        t.matchRows[PairId.of arrow.actor arrow.target]? ∧
      t'.conversations[PairId.of arrow.actor arrow.target]? =
        t.conversations[PairId.of arrow.actor arrow.target]? := by
  cases h with
  | swipe _ _ id hne hopen =>
    obtain ⟨c, hc, -⟩ := ht.conversation hm
    refine ⟨(Tables.swipeRefusal_eq_none.1 hopen).2 m hm, ?_, ?_, ?_, ?_, ?_⟩
    · simp [Tables.swipeResult, hm]
    · simp only [Tables.swipeResult, Tables.upserted]
      split <;> rfl
    · simp [Tables.swipeResult]
    · rw [Tables.swiped_matchRows, Tables.matchOf, hm, Option.getD_some]
      split <;> simp [hm]
    · rw [Tables.swiped_conversations, Tables.conversationOf, hc, Option.getD_some]
      split <;> simp [hc]

/-- An undo that withdraws the swipe of `arrow` withdraws the one that is stored. -/
theorem Effect.undo_along (arrow : Arrow) {answer : UndoResult}
    (h : Effect settings readings t (.undoLastSwipe arrow.actor) answer t') (ht : t.Keyed)
    (htarget : answer.undone.toUser = arrow.target) {l : Like} (hl : t.likes[arrow]? = some l) :
    answer = ⟨l.withdrawn (readings 0), t.matchEnded arrow l (readings 2)⟩ ∧
      t' = t.undone arrow l (readings 0) (readings 2) := by
  obtain ⟨user, target⟩ := arrow
  cases h with
  | undo arrow l' hfound =>
    obtain ⟨hstored, -⟩ := Tables.toWithdraw_ok hfound
    have hkey : l'.arrow.target = target := htarget
    rw [ht.like hstored] at hkey
    subst hkey
    rw [hstored] at hl
    cases hl
    exact ⟨rfl, by with_unfolding_all rfl⟩

namespace Tables

variable (arrow : Arrow) {l : Like} {m : Match}

/-- Withdrawing a like ends an active match that nothing has happened to. -/
theorem undone_active (hlike : l.direction = .like)
    (hm : t.matchRows[PairId.of arrow.actor arrow.target]? = some m) (hactive : m.state = .active)
    (hsince : m.stateChangedAt = m.createdAt) {c : Conversation}
    (hc : t.conversations[PairId.of arrow.actor arrow.target]? = some c)
    (hopen : c.isArchived = false) (now ended : Instant) :
    let last := m.moved .unmatched arrow.actor (some .unmatch) ended
    let t' := t.undone arrow l now ended
    t.matchEnded arrow l ended = some last ∧
      t'.matchRows[PairId.of arrow.actor arrow.target]? = some last ∧
      t'.conversations[PairId.of arrow.actor arrow.target]? = some (c.archive .unmatch ended) := by
  have hend := matchToEnd_eq_some.2 ⟨hlike, hm, hactive, hsince⟩
  simp [undone_matchRows, undone_conversations, matchEnded, hend, hc, Conversation.archiveOnce,
    hopen]

/-- Withdrawing a swipe leaves a friendship as it was. -/
theorem undone_friends (hm : t.matchRows[PairId.of arrow.actor arrow.target]? = some m)
    (hfriends : m.state = .friends) (now ended : Instant) :
    t.matchEnded arrow l ended = none ∧
      (t.undone arrow l now ended).matchRows = t.matchRows ∧
      (t.undone arrow l now ended).conversations = t.conversations := by
  have hnone : t.matchToEnd arrow l = none := by
    refine matchToEnd_eq_none (.inr fun m' hm' => ?_)
    rw [hm] at hm'
    cases hm'
    simp [hfriends]
  simp [undone_matchRows, undone_conversations, matchEnded, hnone]

end Tables

namespace World

variable {settings : Settings}

/-- **Undoing a like that found a match spares a friendship and ends an active match.** A like
between two users whose match is stored says that it made no new one; if it is later withdrawn, and
nothing has come about in between that is about either user, then the match and the conversation are
as they were before exactly if the two are friends. An active match, whoever made it and however
long ago, ends as if it had been left, and its conversation is archived. -/
theorem undo_of_reswipe (settings : Settings) (before between : List Event) (swipe undo : Event)
    {u v : UserId} {m : Match} {r₁ r₂ : Readings} {liked : SwipeResult} {withdrawn : UndoResult}
    (hstored : (run settings before).memory.tables.matchRows[PairId.of u v]? = some m)
    (hswipe : (run settings (before ++ [swipe])).outcomes =
      .done (.swipe ⟨u, v⟩ .like) r₁ liked :: (run settings before).outcomes)
    (hbetween : LeaveOut settings [u, v] (run settings (before ++ [swipe])) between)
    (hundo : (run settings (before ++ [swipe] ++ between ++ [undo])).outcomes =
      .done (.undoLastSwipe u) r₂ withdrawn ::
        (run settings (before ++ [swipe] ++ between)).outcomes)
    (htarget : withdrawn.undone.toUser = v) :
    let old := (run settings before).memory.tables
    let new := (run settings (before ++ [swipe] ++ between ++ [undo])).memory.tables
    let ended := m.moved .unmatched u (some .unmatch) (r₂ 2)
    liked.newMatch = false ∧ withdrawn.undone = liked.like.withdrawn (r₂ 0) ∧
      ((m.state = .friends ∧ withdrawn.unmatched = none ∧
          new.matchRows[PairId.of u v]? = old.matchRows[PairId.of u v]? ∧
          new.conversations[PairId.of u v]? = old.conversations[PairId.of u v]?) ∨
        (m.state = .active ∧ withdrawn.unmatched = some ended ∧
          new.matchRows[PairId.of u v]? = some ended ∧
          ∃ c, old.conversations[PairId.of u v]? = some c ∧ c.isArchived = false ∧
            new.conversations[PairId.of u v]? = some (c.archive .unmatch (r₂ 2)))) := by
  intro old new ended
  have hcoupled := coupled_run settings before
  obtain ⟨hopen, hnew, hlike, hrow, hmatch, hconversation⟩ :=
    (effect_of_outcome hswipe).like_again hcoupled hstored
  -- What the swipe left is what the undoing finds.
  have hsound : (run settings (before ++ [swipe] ++ between)).Sound settings := sound_run _
  have hkept := agreeOn_of_leaveOut (sound_run (before ++ [swipe])) hbetween
  rw [← run_append] at hkept
  have hl := (hkept.likes ⟨u, v⟩ (by simp)).trans hrow
  have hm := (hkept.matchRows u v (by simp)).trans (hmatch.trans hstored)
  have hc := (hkept.conversations u v (by simp)).trans hconversation
  obtain ⟨hwithdrawn, htables⟩ :=
    (effect_of_outcome hundo).undo_along ⟨u, v⟩ hsound.keyed htarget hl
  have hfits := (lawful_run (before ++ [swipe] ++ between) hm).fits
  obtain ⟨c, hstoredc, hmirrors⟩ := hcoupled.conversation hstored
  have hunarchived := hmirrors.unarchived hopen
  refine ⟨hnew, by rw [hwithdrawn], ?_⟩
  rw [hwithdrawn, show new = _ from htables]
  cases hs : m.state with
  | active =>
    simp only [Match.Fits, hs] at hfits
    obtain ⟨hover, hrows, hconversations⟩ := Tables.undone_active ⟨u, v⟩ hlike hm hs hfits.2.2
      (hc.trans hstoredc) hunarchived (r₂ 0) (r₂ 2)
    exact .inr ⟨rfl, hover, hrows, c, hstoredc, hunarchived, hconversations⟩
  | friends =>
    obtain ⟨hover, hrows, hconversations⟩ :=
      Tables.undone_friends ⟨u, v⟩ (l := liked.like) hm hs (r₂ 0) (r₂ 2)
    refine .inl ⟨rfl, hover, ?_, ?_⟩
    · rw [hrows]
      exact hm.trans hstored.symm
    · rw [hconversations]
      exact hc
  | gracefulExit | unmatched | blocked =>
    rw [hs] at hopen
    cases hopen

/-- Two users match, and the first of them likes the other once more. -/
def likingAgain : List Event :=
  inTurn .epoch [.swipe ⟨.ofNat 1, .ofNat 2⟩ .like, .swipe ⟨.ofNat 2, .ofNat 1⟩ .like] ++
    [.call (.swipe ⟨.ofNat 1, .ofNat 2⟩ .like) fun _ => .epoch]

/-- Two others swipe, and then the user who liked again asks to undo it. -/
def meanwhile : List Event :=
  inTurn .epoch [.swipe ⟨.ofNat 3, .ofNat 4⟩ .like] ++
    [.call (.undoLastSwipe (.ofNat 1)) fun _ => .epoch]

theorem leaveOut_meanwhile :
    LeaveOut {} [.ofNat 1, .ofNat 2] (run {} (likingAgain ++ [.attempt 0 fun _ => .epoch]))
      meanwhile := by
  refine ⟨?_, ?_, ?_, trivial⟩ <;> intro c readings answer a b houtcomes habout
  · exact absurd houtcomes (outcomes_call_ne _ _ _)
  · obtain ⟨rfl, rfl⟩ : a = .ofNat 3 ∧ b = .ofNat 4 := by
      cases houtcomes
      cases habout
      exact ⟨rfl, rfl⟩
    decide
  · exact absurd houtcomes (outcomes_call_ne _ _ _)

/-- The like once more makes no match, and its undoing ends the one that there was. -/
theorem likingAgain_undone :
    let last : Event := .attempt 0 fun _ => .epoch
    let m := Match.new (.ofNat 1) (.ofNat 2) .epoch
    let ended := m.moved .unmatched (.ofNat 1) (some .unmatch) .epoch
    let l := Like.new (.fresh 0) (.ofNat 1) (.ofNat 2) .like .epoch
    (run {} likingAgain).memory.tables.matchRows[PairId.of (.ofNat 1) (.ofNat 2)]? = some m ∧
      (run {} (likingAgain ++ [last])).outcomes =
        .done (.swipe ⟨.ofNat 1, .ofNat 2⟩ .like) (fun _ => .epoch) ⟨true, some m, l, false⟩ ::
          (run {} likingAgain).outcomes ∧
      (run {} (likingAgain ++ [last] ++ meanwhile ++ [last])).outcomes =
        .done (.undoLastSwipe (.ofNat 1)) (fun _ => .epoch) ⟨l.withdrawn .epoch, some ended⟩ ::
          (run {} (likingAgain ++ [last] ++ meanwhile)).outcomes := by
  refine ⟨by decide +kernel, rfl, ?_⟩
  with_unfolding_all rfl

theorem undo_of_reswipe_active :
    let last : Event := .attempt 0 fun _ => .epoch
    let pair := PairId.of (.ofNat 1) (.ofNat 2)
    let old := (run {} likingAgain).memory.tables
    let new := (run {} (likingAgain ++ [last] ++ meanwhile ++ [last])).memory.tables
    old.matchRows[pair]?.map Match.state = some .active ∧
      new.matchRows[pair]?.map Match.state = some .unmatched ∧
      ∃ c, old.conversations[pair]? = some c ∧ c.isArchived = false ∧
        new.conversations[pair]? = some (c.archive .unmatch .epoch) := by
  intro last pair old new
  obtain ⟨hstored, hswipe, hundo⟩ := likingAgain_undone
  obtain ⟨-, -, ⟨hfriends, -⟩ | ⟨hactive, -, hended, hconversation⟩⟩ :=
    undo_of_reswipe {} likingAgain meanwhile last last hstored hswipe leaveOut_meanwhile hundo rfl
  · cases hfriends
  · exact ⟨congrArg _ hstored, congrArg _ hended, hconversation⟩

/-- The undoing of a like that found the match already there may still end that match. -/
theorem not_every_undo_of_reswipe_spares :
    ¬∀ (settings : Settings) (before between : List Event) (swipe undo : Event) (u v : UserId)
        (r₁ r₂ : Readings) (liked : SwipeResult) (withdrawn : UndoResult),
      let old := (run settings before).memory.tables
      let new := (run settings (before ++ [swipe] ++ between ++ [undo])).memory.tables
      old.matchRows[PairId.of u v]?.isSome = true →
      (run settings (before ++ [swipe])).outcomes =
        .done (.swipe ⟨u, v⟩ .like) r₁ liked :: (run settings before).outcomes →
      LeaveOut settings [u, v] (run settings (before ++ [swipe])) between →
      (run settings (before ++ [swipe] ++ between ++ [undo])).outcomes =
        .done (.undoLastSwipe u) r₂ withdrawn ::
          (run settings (before ++ [swipe] ++ between)).outcomes →
      withdrawn.undone.toUser = v →
        withdrawn.unmatched = none ∧
          new.matchRows[PairId.of u v]? = old.matchRows[PairId.of u v]? ∧
          new.conversations[PairId.of u v]? = old.conversations[PairId.of u v]? := by
  intro hall
  obtain ⟨hstored, hswipe, hundo⟩ := likingAgain_undone
  obtain ⟨hnone, -, -⟩ := hall {} likingAgain meanwhile _ _ _ _ _ _ _ _ (by rw [hstored]; rfl)
    hswipe leaveOut_meanwhile hundo rfl
  cases hnone

end World

end Courtship
