import Courtship.Proofs.World

/-! The stored swipes and blocks are the history of the run that stored them. One row stands for all
the swipes of one user on another, and one for all the blocks. What these rows hold is read off the
outcomes of the run, whatever else was tried, taken back or tried again. -/

namespace Courtship

namespace World

/-! ## What outcomes tell -/

/-- A swipe that succeeded, with the identifier in its answer. -/
structure PastSwipe where
  direction : Direction
  time : Instant
  id : Uuid
  deriving DecidableEq

namespace Outcome

variable (arrow : Arrow)

/-- The swipe of the actor on the target that the outcome is the success of. -/
def swipe? : Outcome → Option PastSwipe
  | .done (.swipe other direction) readings result =>
    if other = arrow then some ⟨direction, readings 0, result.like.id⟩ else none
  | _ => none

/-- When the outcome says that the swipe of the actor on the target was withdrawn. -/
def withdrawal? : Outcome → Option Instant
  | .done (.undoLastSwipe user) readings result =>
    if user = arrow.actor ∧ result.undone.toUser = arrow.target then some (readings 0) else none
  | _ => none

/-- When the outcome says that the actor blocked the target. -/
def blockTime? : Outcome → Option Instant
  | .done (.block other) readings _ => if other = arrow then some (readings 0) else none
  | _ => none

/-- Whether the outcome says that a block of the target by the actor was there, and was removed. -/
def liftsBlock : Outcome → Bool
  | .done (.unblock other) _ removed => other = arrow && removed
  | _ => false

end Outcome

section

variable (arrow : Arrow) (outcomes : List Outcome)

/-- All the swipes of the actor on the target, newest first. -/
def swipesAlong : List PastSwipe := outcomes.filterMap (Outcome.swipe? arrow)

/-- The times at which the last of these swipes was withdrawn, newest first. -/
def withdrawalsSince : List Instant :=
  (outcomes.takeWhile fun o => (o.swipe? arrow).isNone).filterMap (Outcome.withdrawal? arrow)

/-- The times of the blocks since one was removed last, newest first. -/
def blocksSince : List Instant :=
  (outcomes.takeWhile fun o => !o.liftsBlock arrow).filterMap (Outcome.blockTime? arrow)

/-- Whether the actor blocked the target, and no unblocking of the two succeeded since, not even one
that found nothing to remove. -/
def StaysBlocked : Prop :=
  ∃ newer older readings answer,
    outcomes = newer ++ .done (.block arrow) readings answer :: older ∧
      ∀ readings removed, .done (.unblock arrow) readings removed ∉ newer

/-- The row of the actor's swipes on the target, as the outcomes tell it. As long as there was no
swipe there is none. From then on its identifier is the one that came with the first swipe and with
every later one; its direction and time are those of the last one, and so is the withdrawal. -/
inductive Retold : Option Like → Prop
  | never (hswipes : swipesAlong arrow outcomes = []) : Retold none
  | swiped (last : PastSwipe) (earlier : List PastSwipe) (withdrawn : Option Instant)
      (hne : arrow.actor ≠ arrow.target) (hswipes : swipesAlong arrow outcomes = last :: earlier)
      (hids : ∀ s ∈ earlier, s.id = last.id)
      (hwithdrawn : withdrawalsSince arrow outcomes = withdrawn.toList) :
      Retold (some ⟨last.id, arrow.actor, arrow.target, last.direction, last.time, withdrawn⟩)

/-- The block that the first of the times is from. -/
def retoldBlock : Option Block :=
  (blocksSince arrow outcomes).getLast?.map fun time => ⟨arrow.actor, arrow.target, time⟩

end

/-! ## One more outcome -/

variable {arrow : Arrow} {o : Outcome} {outcomes : List Outcome}

theorem swipesAlong_cons : swipesAlong arrow (o :: outcomes) =
    (o.swipe? arrow).toList ++ swipesAlong arrow outcomes := by
  rw [swipesAlong, List.filterMap_cons]
  cases o.swipe? arrow <;> rfl

theorem withdrawalsSince_cons : withdrawalsSince arrow (o :: outcomes) =
    if (o.swipe? arrow).isNone then
      (o.withdrawal? arrow).toList ++ withdrawalsSince arrow outcomes
    else [] := by
  rw [withdrawalsSince, List.takeWhile_cons]
  split
  · rw [List.filterMap_cons]
    cases o.withdrawal? arrow <;> rfl
  · rfl

theorem blocksSince_cons : blocksSince arrow (o :: outcomes) =
    if o.liftsBlock arrow then [] else
      (o.blockTime? arrow).toList ++ blocksSince arrow outcomes := by
  rw [blocksSince, List.takeWhile_cons]
  cases o.liftsBlock arrow
  · rw [Bool.not_false, if_pos rfl, if_neg Bool.false_ne_true, List.filterMap_cons]
    cases o.blockTime? arrow <;> rfl
  · rfl

theorem retoldBlock_cons : retoldBlock arrow (o :: outcomes) =
    if o.liftsBlock arrow then none else
      (retoldBlock arrow outcomes).or
        ((o.blockTime? arrow).map fun time => ⟨arrow.actor, arrow.target, time⟩) := by
  rw [retoldBlock, blocksSince_cons]
  split
  · rfl
  · rw [List.getLast?_append, retoldBlock]
    cases (blocksSince arrow outcomes).getLast? <;> cases o.blockTime? arrow <;> rfl

theorem staysBlocked_cons : StaysBlocked arrow (o :: outcomes) ↔
    (∃ readings answer, o = .done (.block arrow) readings answer) ∨
      StaysBlocked arrow outcomes ∧
        ∀ readings removed, o ≠ .done (.unblock arrow) readings removed := by
  constructor
  · rintro ⟨_ | ⟨o', newer⟩, older, readings, answer, hsplit, hnone⟩
    · obtain ⟨rfl, -⟩ := List.cons.inj hsplit
      exact .inl ⟨readings, answer, rfl⟩
    · obtain ⟨rfl, hrest⟩ := List.cons.inj hsplit
      refine .inr ⟨⟨newer, older, readings, answer, hrest, ?_⟩, ?_⟩
      · exact fun later removed hmem => hnone later removed (List.mem_cons_of_mem _ hmem)
      · rintro later removed rfl
        exact hnone later removed List.mem_cons_self
  · rintro (⟨readings, answer, rfl⟩ | ⟨⟨newer, older, readings, answer, rfl, hnone⟩, hother⟩)
    · exact ⟨[], outcomes, readings, answer, rfl, by simp⟩
    · refine ⟨o :: newer, older, readings, answer, rfl, ?_⟩
      intro later removed hmem
      rcases List.mem_cons.1 hmem with hsame | hmem
      · exact hother later removed hsame.symm
      · exact hnone later removed hmem

/-! ## What a step does -/

/-- What an outcome makes of the row of the actor's swipes on the target. -/
inductive LikeStep (arrow : Arrow) (o : Outcome) : Option Like → Option Like → Prop
  | swiped (row : Option Like) (s : PastSwipe) (hs : o.swipe? arrow = some s)
      (hne : arrow.actor ≠ arrow.target) (hid : ∀ l, row = some l → l.id = s.id) :
      LikeStep arrow o row
        (some ⟨s.id, arrow.actor, arrow.target, s.direction, s.time, none⟩)
  | withdrawn (l : Like) (time : Instant) (hs : o.swipe? arrow = none)
      (hw : o.withdrawal? arrow = some time) (hlive : l.deletedAt = none) :
      LikeStep arrow o (some l) (some { l with deletedAt := some time })
  | kept (row : Option Like) (hs : o.swipe? arrow = none) (hw : o.withdrawal? arrow = none) :
      LikeStep arrow o row row

theorem Retold.step {row row' : Option Like} (h : Retold arrow outcomes row)
    (hstep : LikeStep arrow o row row') : Retold arrow (o :: outcomes) row' := by
  cases hstep with
  | swiped _ s hs hne hid =>
    refine .swiped s (swipesAlong arrow outcomes) none hne ?_ ?_ ?_
    · rw [swipesAlong_cons, hs]
      rfl
    · cases h with
      | never hswipes => simp [hswipes]
      | swiped last earlier withdrawn _ hswipes hids =>
        have hlast : last.id = s.id := hid _ rfl
        rw [hswipes, ← hlast]
        exact List.forall_mem_cons.2 ⟨rfl, hids⟩
    · rw [withdrawalsSince_cons, hs]
      rfl
  | withdrawn l time hs hw hlive =>
    cases h with
    | swiped last earlier withdrawn hne hswipes hids hwithdrawn =>
      obtain rfl : withdrawn = none := hlive
      refine .swiped last earlier (some time) hne ?_ hids ?_
      · rw [swipesAlong_cons, hs, hswipes]
        rfl
      · rw [withdrawalsSince_cons, hs, hw, hwithdrawn]
        rfl
  | kept _ hs hw =>
    have hswipes' : swipesAlong arrow (o :: outcomes) = swipesAlong arrow outcomes := by
      rw [swipesAlong_cons, hs]
      rfl
    have hwithdrawn' :
        withdrawalsSince arrow (o :: outcomes) = withdrawalsSince arrow outcomes := by
      rw [withdrawalsSince_cons, hs, hw]
      rfl
    cases h with
    | never hswipes => exact .never (hswipes'.trans hswipes)
    | swiped last earlier withdrawn hne hswipes hids hwithdrawn =>
      exact .swiped last earlier withdrawn hne (hswipes'.trans hswipes) hids
        (hwithdrawn'.trans hwithdrawn)

theorem Retold.eq_of_swipes {row : Option Like} (h : Retold arrow outcomes row) {last : PastSwipe}
    {earlier : List PastSwipe} (hswipes : swipesAlong arrow outcomes = last :: earlier)
    {withdrawn : Option Instant} (hwithdrawn : withdrawalsSince arrow outcomes = withdrawn.toList) :
    row = some ⟨last.id, arrow.actor, arrow.target, last.direction, last.time, withdrawn⟩ := by
  cases h with
  | never hnone => cases hnone.symm.trans hswipes
  | swiped last' earlier' withdrawn' hne hswipes' hids hwithdrawn' =>
    obtain ⟨rfl, rfl⟩ := List.cons.inj (hswipes'.symm.trans hswipes)
    have htimes := congrArg List.head? (hwithdrawn'.symm.trans hwithdrawn)
    rw [Option.head?_toList, Option.head?_toList] at htimes
    rw [htimes]

variable {settings : Settings} {readings : Readings} {t t' : Tables}

/-- A swipe is stored with what it is, under the identifier of the one that was there before. -/
theorem upserted_eq (ht : t.Keyed) (arrow : Arrow) (direction : Direction) (now : Instant)
    (id : Uuid) :
    t.upserted arrow direction now id =
      ⟨(t.upserted arrow direction now id).id, arrow.actor, arrow.target, direction, now,
        none⟩ := by
  unfold Tables.upserted
  cases hl : t.likes[arrow]? with
  | none => rfl
  | some l =>
    obtain rfl := ht.like hl
    rfl

theorem likeStep_swiped (ht : t.Keyed) {arrow : Arrow} (hne : arrow.actor ≠ arrow.target)
    (direction : Direction) (readings : Readings) (id : Uuid) :
    LikeStep arrow
      (.done (.swipe arrow direction) readings (t.swipeResult arrow direction (readings 0) id))
      t.likes[arrow]? (some (t.upserted arrow direction (readings 0) id)) := by
  rw [upserted_eq ht]
  refine .swiped _ ⟨direction, readings 0, _⟩ (if_pos rfl) hne ?_
  intro l hl
  rw [Tables.upserted, hl]

theorem likeStep_undone (ht : t.Keyed) {arrow : Arrow} {l : Like}
    (hl : t.likes[arrow]? = some l) (hlive : l.isDeleted = false) (readings : Readings)
    (ended : Option Match) :
    LikeStep arrow (.done (.undoLastSwipe arrow.actor) readings ⟨l.withdrawn (readings 0), ended⟩)
      (some l) (some (l.withdrawn (readings 0))) := by
  obtain rfl : l.arrow = arrow := ht.like hl
  have hkept : l.deletedAt = none := by simpa [Like.isDeleted] using hlive
  exact .withdrawn l (readings 0) rfl (if_pos ⟨rfl, rfl⟩) hkept

theorem likeStep_effect {c : Command} {answer : c.Answer}
    (h : Effect settings readings t c answer t') (ht : t.Keyed) (arrow : Arrow) :
    LikeStep arrow (.done c readings answer) t.likes[arrow]? t'.likes[arrow]? := by
  cases h with
  | swipe other direction id hne =>
    rw [Tables.swiped_likes, Rows.get?_set]
    split
    · rename_i hsame
      subst hsame
      exact likeStep_swiped ht hne direction readings id
    · rename_i hother
      exact .kept _ (if_neg hother) rfl
  | undo other l hl =>
    obtain ⟨hstored, hlive, -⟩ := Tables.toWithdraw_ok hl
    rw [Tables.undone_likes, Rows.get?_set]
    split
    · rename_i hsame
      subst hsame
      rw [hstored]
      exact likeStep_undone ht hstored hlive readings _
    · rename_i hother
      refine .kept _ rfl (if_neg ?_)
      rintro ⟨hactor, htarget⟩
      -- The swipe that was withdrawn is stored under the users that it names.
      obtain rfl : l.arrow = other := ht.like hstored
      exact hother (congrArg₂ Arrow.mk hactor htarget)
  | propose | respond | exitAgain | exit | unmatch | block | unblock => exact .kept _ rfl rfl

/-- What an outcome makes of the row of the actor's block of the target. -/
inductive BlockStep (arrow : Arrow) (o : Outcome) (row : Option Block) : Option Block → Prop
  | blocked (readings : Readings) (answer : Option Match)
      (ho : o = .done (.block arrow) readings answer) :
      BlockStep arrow o row (row.or (some ⟨arrow.actor, arrow.target, readings 0⟩))
  | unblocked (readings : Readings) (ho : o = .done (.unblock arrow) readings row.isSome) :
      BlockStep arrow o row none
  | kept (hblock : ∀ readings answer, o ≠ .done (.block arrow) readings answer)
      (hunblock : ∀ readings removed, o ≠ .done (.unblock arrow) readings removed) :
      BlockStep arrow o row row

theorem Outcome.blockTime?_eq_none
    (h : ∀ readings answer, o ≠ .done (.block arrow) readings answer) :
    o.blockTime? arrow = none := by
  unfold blockTime?
  split
  · refine if_neg ?_
    rintro rfl
    exact h _ _ rfl
  · rfl

theorem Outcome.liftsBlock_eq_false
    (h : ∀ readings removed, o ≠ .done (.unblock arrow) readings removed) :
    o.liftsBlock arrow = false := by
  unfold liftsBlock
  split
  · rw [Bool.and_eq_false_imp, decide_eq_true_eq]
    rintro rfl
    exact absurd rfl (h _ _)
  · rfl

theorem BlockStep.retold {row : Option Block}
    (h : BlockStep arrow o (retoldBlock arrow outcomes) row) :
    row = retoldBlock arrow (o :: outcomes) := by
  rw [retoldBlock_cons]
  generalize retoldBlock arrow outcomes = before at h
  cases h with
  | blocked readings answer ho =>
    subst ho
    simp [Outcome.liftsBlock, Outcome.blockTime?]
  | unblocked readings ho =>
    -- An unblocking that finds no block is not one that removes it, but leaves none either.
    subst ho
    cases before <;> simp [Outcome.liftsBlock, Outcome.blockTime?]
  | kept hblock hunblock =>
    simp [Outcome.liftsBlock_eq_false hunblock, Outcome.blockTime?_eq_none hblock]

theorem BlockStep.staysBlocked {row row' : Option Block} (h : BlockStep arrow o row row')
    (hrow : row.isSome = true ↔ StaysBlocked arrow outcomes) :
    row'.isSome = true ↔ StaysBlocked arrow (o :: outcomes) := by
  rw [staysBlocked_cons]
  cases h with
  | blocked readings answer ho => simp [ho]
  | unblocked readings ho => simp [ho]
  | kept hblock hunblock => simp [hrow, hblock, hunblock]

theorem Outcome.done_ne {c c' : Command} (h : c ≠ c') {readings readings' : Readings}
    {answer : c.Answer} {answer' : c'.Answer} :
    done c readings answer ≠ done c' readings' answer' := fun hsame => h (Outcome.done.inj hsame).1

theorem blockStep_effect {c : Command} {answer : c.Answer}
    (h : Effect settings readings t c answer t') (arrow : Arrow) :
    BlockStep arrow (.done c readings answer) t.blocks[arrow]? t'.blocks[arrow]? := by
  have hother (hblock : c ≠ .block arrow) (hunblock : c ≠ .unblock arrow)
      {row : Option Block} : BlockStep arrow (.done c readings answer) row row :=
    .kept (fun _ _ => Outcome.done_ne hblock) fun _ _ => Outcome.done_ne hunblock
  cases h with
  | block other hne =>
    rw [Tables.barred_blocks, Tables.getElem?_blocked_blocks]
    split
    · rename_i hsame
      subst hsame
      exact .blocked readings _ rfl
    · rename_i hdiffers
      exact hother (by simpa using hdiffers) (by simp)
  | unblock other hne =>
    rw [Tables.unblocked_blocks, Rows.get?_set]
    split
    · rename_i hsame
      subst hsame
      rw [Rows.contains_eq]
      exact .unblocked readings rfl
    · rename_i hdiffers
      exact hother (by simp) (by simpa using hdiffers)
  | swipe | undo | propose | respond | exitAgain | exit | unmatch =>
    exact hother (by simp) (by simp)

/-! ## Runs -/

theorem retold_run (settings : Settings) (events : List Event) (arrow : Arrow) :
    Retold arrow (run settings events).outcomes
      (run settings events).memory.tables.likes[arrow]? := by
  refine run_induction (P := fun t outcomes => Retold arrow outcomes t.likes[arrow]?) ?_ ?_ ?_
    events
  · have hnone : Tables.empty.likes[arrow]? = none := by simp [Tables.empty]
    rw [hnone]
    exact .never rfl
  · intro t outcomes c why ih
    exact ih.step (.kept _ rfl rfl)
  · intro events t' c readings answer ih heffect
    exact ih.step (likeStep_effect heffect (sound_run events).keyed arrow)

theorem blocks_run (settings : Settings) (events : List Event) (arrow : Arrow) :
    (run settings events).memory.tables.blocks[arrow]? =
        retoldBlock arrow (run settings events).outcomes ∧
      ((run settings events).memory.tables.blocks[arrow]?.isSome = true ↔
        StaysBlocked arrow (run settings events).outcomes) := by
  refine run_induction
    (P := fun t outcomes => t.blocks[arrow]? = retoldBlock arrow outcomes ∧
      (t.blocks[arrow]?.isSome = true ↔ StaysBlocked arrow outcomes)) ?_ ?_ ?_ events
  · have hnone : Tables.empty.blocks[arrow]? = none := by simp [Tables.empty]
    rw [hnone]
    refine ⟨rfl, by simp [StaysBlocked]⟩
  · intro t outcomes c why ih
    obtain ⟨hrow, hstays⟩ := ih
    have hstep : BlockStep arrow (.failed c why) t.blocks[arrow]? t.blocks[arrow]? :=
      .kept (by simp) (by simp)
    refine ⟨?_, hstep.staysBlocked hstays⟩
    exact BlockStep.retold (hrow ▸ hstep)
  · intro events t' c readings answer ih heffect
    obtain ⟨hrow, hstays⟩ := ih
    have hstep := blockStep_effect heffect arrow
    refine ⟨?_, hstep.staysBlocked hstays⟩
    rw [hrow] at hstep
    exact hstep.retold

/-- A block that is gone after a step was removed by an unblocking that says so. -/
theorem exists_unblock {settings : Settings} {events : List Event} {e : Event} {arrow : Arrow}
    (hstored : (run settings events).memory.tables.blocks[arrow]?.isSome = true)
    (hgone : (run settings (events ++ [e])).memory.tables.blocks[arrow]? = none) :
    ∃ readings, (run settings (events ++ [e])).outcomes =
      .done (.unblock arrow) readings true :: (run settings events).outcomes := by
  have hkept (htables : (run settings (events ++ [e])).memory.tables =
      (run settings events).memory.tables) : False := by
    rw [htables] at hgone
    rw [hgone] at hstored
    cases hstored
  rw [run_concat] at hgone hkept ⊢
  cases stepResult (sound_run events) e with
  | kept htables => exact (hkept htables).elim
  | failed c why htables => exact (hkept htables).elim
  | done c readings answer heffect houtcomes =>
    have hstep := blockStep_effect heffect arrow
    rw [hgone] at hstep
    rw [houtcomes]
    obtain ⟨b, hb⟩ := Option.isSome_iff_exists.1 hstored
    rw [hb] at hstep
    cases hstep with
    | unblocked later ho => exact ⟨later, by rw [ho]; rfl⟩

/-- **The stored swipes and blocks are the history of the run.** After any run, from one user to
another: there is a swipe if one succeeded, with the identifier that the first and all the others
came with, the direction and the time of the last one, and the time at which that was withdrawn, if
it was. There is a block if one succeeded and no unblocking did since, with the time of the first
since one was removed. An unblocking that succeeds tells whether there was a block, and does nothing
but remove it: a block in the other direction stays. -/
theorem history_replayed (settings : Settings) (events : List Event) (arrow : Arrow) :
    let w := run settings events
    let t := w.memory.tables
    Retold arrow w.outcomes t.likes[arrow]? ∧
    t.blocks[arrow]? = retoldBlock arrow w.outcomes ∧
    (t.blocks[arrow]?.isSome = true ↔ StaysBlocked arrow w.outcomes) ∧
    ∀ (e : Event) (readings : Readings) (removed : Bool),
      (run settings (events ++ [e])).outcomes =
        .done (.unblock arrow) readings removed :: w.outcomes →
      let t' := (run settings (events ++ [e])).memory.tables
      removed = t.blocks[arrow]?.isSome ∧ t' = { t with blocks := t.blocks.set arrow none } ∧
        t'.blocks[(⟨arrow.target, arrow.actor⟩ : Arrow)]? =
          t.blocks[(⟨arrow.target, arrow.actor⟩ : Arrow)]? := by
  intro w t
  obtain ⟨hrow, hstays⟩ := blocks_run settings events arrow
  refine ⟨retold_run settings events arrow, hrow, hstays, ?_⟩
  intro e readings removed houtcome t'
  have heffect := effect_of_outcome houtcome
  rw [← Rows.contains_eq]
  change Effect settings readings t (.unblock arrow) removed t' at heffect
  generalize t' = after at heffect ⊢
  cases heffect with
  | unblock _ hne =>
    refine ⟨rfl, rfl, Rows.getElem?_set_of_ne _ ?_ _⟩
    exact fun hsame => hne (congrArg Arrow.actor hsame)

/-- One user likes another, passes later and takes that back, blocks the other twice, and is about
to lift the block. -/
def courted : List Event :=
  let arrow : Arrow := ⟨.ofNat 1, .ofNat 2⟩
  inTurn .epoch [.swipe arrow .like] ++
    inTurn .epoch2000 [.swipe arrow .pass, .undoLastSwipe (.ofNat 1)] ++
    inTurn .epoch [.block arrow] ++ inTurn .epoch2000 [.block arrow] ++
    [.call (.unblock arrow) fun _ => .epoch2000]

theorem courted_leaves :
    let outcomes := (run {} courted).outcomes
    swipesAlong ⟨.ofNat 1, .ofNat 2⟩ outcomes =
        [⟨.pass, .epoch2000, .fresh 0⟩, ⟨.like, .epoch, .fresh 0⟩] ∧
      withdrawalsSince ⟨.ofNat 1, .ofNat 2⟩ outcomes = [.epoch2000] ∧
      blocksSince ⟨.ofNat 1, .ofNat 2⟩ outcomes = [.epoch2000, .epoch] := by
  decide +kernel

theorem courted_unblocks :
    (run {} courted).memory.tables.blocks[(⟨.ofNat 1, .ofNat 2⟩ : Arrow)]?.isSome = true ∧
      (run {} (courted ++ [.attempt 0 fun _ => .epoch2000])).memory.tables.blocks[
        (⟨.ofNat 1, .ofNat 2⟩ : Arrow)]? = none := by
  decide +kernel

/-- The swipe has the identifier of the like and the rest of the pass; the block is the first
one. -/
theorem history_replayed_courted :
    let arrow : Arrow := ⟨.ofNat 1, .ofNat 2⟩
    let t := (run {} courted).memory.tables
    t.likes[arrow]? =
        some ⟨.fresh 0, .ofNat 1, .ofNat 2, .pass, .epoch2000, some .epoch2000⟩ ∧
      t.blocks[arrow]? = some ⟨.ofNat 1, .ofNat 2, .epoch⟩ ∧
      (run {} (courted ++ [.attempt 0 fun _ => .epoch2000])).memory.tables =
        { t with blocks := t.blocks.set arrow none } := by
  intro arrow t
  obtain ⟨hswipes, hwithdrawn, hblocks⟩ := courted_leaves
  obtain ⟨hstored, hlifted⟩ := courted_unblocks
  obtain ⟨hlike, hblock, -, hunblock⟩ := history_replayed {} courted arrow
  obtain ⟨readings, houtcome⟩ := exists_unblock hstored hlifted
  refine ⟨hlike.eq_of_swipes hswipes hwithdrawn, ?_, (hunblock _ _ _ houtcome).2.1⟩
  rw [hblock, retoldBlock, hblocks]
  rfl

end World

end Courtship
