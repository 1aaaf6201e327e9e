import Courtship.Proofs.Conversations
import Courtship.Proofs.Lifecycle
import Courtship.Proofs.MutualLikes

/-! Blocks, and what they keep apart. The stored blocks are those that were made and not lifted
since. While one stands, its two users have no match that goes on, they cannot write to each other,
and no swipe between them is taken. A match that was there when the block was made never comes
back. -/

namespace Courtship

namespace World

/-! ## Blocks that stand -/

/-- What the outcome makes of the block of the target by the actor: it is there, or lifted. -/
def Outcome.block? (arrow : Arrow) : Outcome → Option Bool
  | .done (.block other) _ _ => if other = arrow then some true else none
  | .done (.unblock other) _ removed => if other = arrow ∧ removed = true then some false else none
  | _ => none

theorem Outcome.eq_done_of_block? {arrow : Arrow} {o : Outcome}
    (h : (o.block? arrow).getD false = true) :
    ∃ readings answer, o = .done (.block arrow) readings answer := by
  unfold block? at h
  split at h
  · split at h
    · rename_i hsame
      subst hsame
      exact ⟨_, _, rfl⟩
    · cases h
  · split at h <;> cases h
  · cases h

/-- Whether the actor has blocked the target and not lifted the block since. -/
def blockStands (arrow : Arrow) (outcomes : List Outcome) : Bool :=
  (outcomes.findSome? (Outcome.block? arrow)).getD false

theorem blockStands_cons (arrow : Arrow) (o : Outcome) (outcomes : List Outcome) :
    blockStands arrow (o :: outcomes) = (o.block? arrow).getD (blockStands arrow outcomes) := by
  rw [blockStands, List.findSome?_cons]
  cases o.block? arrow <;> rfl

variable {settings : Settings} {readings : Readings} {t t' : Tables}

theorem contains_blocks_of_effect {c : Command} {answer : c.Answer}
    (h : Effect settings readings t c answer t') (arrow : Arrow) :
    t'.blocks.contains arrow =
      ((Outcome.done c readings answer).block? arrow).getD (t.blocks.contains arrow) := by
  cases h with
  | block other hne =>
    rw [Tables.barred_blocks, Outcome.block?, Rows.contains_eq, Tables.getElem?_blocked_blocks,
      Rows.contains_eq]
    split
    · rw [Option.isSome_or, Option.isSome_some, Bool.or_true]
      rfl
    · rfl
  | unblock other hne =>
    rw [Tables.unblocked_blocks, Outcome.block?, Rows.contains_eq, Rows.get?_set]
    by_cases hsame : other = arrow
    · subst hsame
      cases hstored : t.blocks.contains other <;> simp
    · rw [if_neg hsame, if_neg (by simp [hsame]), Rows.contains_eq]
      rfl
  | swipe | undo | propose | respond | exitAgain | exit | unmatch => rfl

theorem contains_blocks_run (settings : Settings) (events : List Event) (arrow : Arrow) :
    (run settings events).memory.tables.blocks.contains arrow =
      blockStands arrow (run settings events).outcomes := by
  refine run_induction (P := fun t outcomes => t.blocks.contains arrow = blockStands arrow outcomes)
    ?_ ?_ ?_ events
  · simp [Tables.empty, blockStands]
  · intro t outcomes c why ih
    rw [blockStands_cons]
    exact ih
  · intro events t' c readings answer ih heffect
    rw [blockStands_cons, ← ih]
    exact contains_blocks_of_effect heffect arrow

/-- A block that is stored after a command was stored before, or is the one that was just made. -/
theorem stored_or_made {c : Command} {answer : c.Answer}
    (h : Effect settings readings t c answer t') {arrow : Arrow}
    (hstored : t'.blocks.contains arrow = true) :
    t.blocks.contains arrow = true ∨ t' = t.barred arrow (readings 0) := by
  rw [contains_blocks_of_effect h] at hstored
  cases h with
  | block other hne =>
    by_cases hsame : other = arrow
    · subst hsame
      exact .inr rfl
    · rw [Outcome.block?, if_neg hsame] at hstored
      exact .inl hstored
  | unblock other hne =>
    rw [Outcome.block?] at hstored
    split at hstored
    · cases hstored
    · exact .inl hstored
  | swipe | undo | propose | respond | exitAgain | exit | unmatch => exact .inl hstored

/-- A block that stands after a step, and did not before, was made by that step. -/
theorem made_of_blockStands {events : List Event} {e : Event} {a b : UserId}
    (hnot : blockStands ⟨a, b⟩ (run settings events).outcomes = false)
    (hstands : blockStands ⟨a, b⟩ (run settings (events ++ [e])).outcomes = true) :
    ∃ readings answer, (run settings (events ++ [e])).outcomes =
      .done (.block ⟨a, b⟩) readings answer :: (run settings events).outcomes := by
  rw [run_concat] at hstands ⊢
  cases stepResult (sound_run events) e with
  | kept _ houtcomes =>
    rw [houtcomes, hnot] at hstands
    cases hstands
  | failed c why _ houtcomes =>
    rw [houtcomes, blockStands_cons, hnot] at hstands
    cases hstands
  | done c readings answer _ houtcomes =>
    rw [houtcomes, blockStands_cons, hnot] at hstands
    obtain ⟨_, _, hmade⟩ := Outcome.eq_done_of_block? hstands
    exact ⟨_, _, by rw [houtcomes, hmade]⟩

end World

/-! ## Users kept apart -/

namespace Tables

/-- The pair has no match that is active or a friendship. -/
def Apart (t : Tables) (pair : PairId) : Prop :=
  ∀ m, t.matchRows[pair]? = some m → m.state.isTerminal = true

theorem isBlocked_comm (t : Tables) (a b : UserId) : t.isBlocked a b = t.isBlocked b a :=
  Bool.or_comm ..

theorem apart_barred (t : Tables) (arrow : Arrow) (now : Instant) :
    (t.barred arrow now).Apart (.of arrow.actor arrow.target) := by
  intro m hm
  rw [barred_matchRows, Rows.getElem?_set_self, Option.map_eq_some_iff] at hm
  obtain ⟨before, _, rfl⟩ := hm
  exact before.isTerminal_barredBy arrow.actor now

end Tables

theorem Match.GoesOnTo.not_ended {m later : Match} (h : m.GoesOnTo later) :
    m.state.isTerminal = false := by
  rcases h.state with ⟨hs, _⟩ | ⟨hs, _⟩ <;> rw [hs] <;> rfl

namespace World

variable {settings : Settings} {readings : Readings} {t t' : Tables} {a b : UserId}

/-- Between two users of whom one has blocked the other, no swipe is taken. -/
theorem swipeRefusal_of_blocked (h : t.isBlocked a b = true) {arrow : Arrow}
    (hbetween : arrow = ⟨a, b⟩ ∨ arrow = ⟨b, a⟩) : t.swipeRefusal arrow = some .blocked := by
  apply Tables.swipeRefusal_of_isBlocked
  rcases hbetween with rfl | rfl
  · exact h
  · rw [Tables.isBlocked_comm]
    exact h

/-- No match begins between them. -/
theorem none_of_blocked {c : Command} {answer : c.Answer}
    (h : Effect settings readings t c answer t') (hblocked : t.isBlocked a b = true)
    (hnone : t.matchRows[PairId.of a b]? = none) : t'.matchRows[PairId.of a b]? = none := by
  have hbefore : t.matchRows[PairId.of a b]?.isSome = false := by rw [hnone, Option.isSome_none]
  have hafter : t'.matchRows[PairId.of a b]?.isSome = false := by
    -- Only a swipe stores a match, and one between these two is turned down.
    cases c with
    | swipe arrow direction =>
      cases h with
      | swipe _ _ id hne hopen =>
        rw [Tables.isSome_matchRows_swiped, hbefore, Bool.false_or, Bool.and_eq_false_imp]
        intro _
        rw [decide_eq_false_iff_not, of_eq_of_iff]
        intro hbetween
        rw [swipeRefusal_of_blocked hblocked hbetween] at hopen
        cases hopen
    | undoLastSwipe | propose | respond | gracefulExit | unmatch | block | unblock =>
      rw [(h.quiet (by simp)).matchRows, hbefore]
  exact Option.isNone_iff_eq_none.1 (Option.isSome_eq_false_iff.1 hafter)

theorem apart_of_blocked {c : Command} {answer : c.Answer}
    (h : Effect settings readings t c answer t') (ht : t.Keyed)
    (hblocked : t.isBlocked a b = true) (hapart : t.Apart (.of a b)) : t'.Apart (.of a b) := by
  intro m' hm'
  cases hm : t.matchRows[PairId.of a b]? with
  | none =>
    rw [none_of_blocked h hblocked hm] at hm'
    cases hm'
  | some m =>
    have hstep := h.matchStep ht (.of a b)
    rw [hm] at hstep
    obtain ⟨later, hlater, rfl | hon⟩ := hstep.goesOn <;> rw [hm'] at hlater <;> cases hlater
    · exact hapart m' hm
    · have hended := hapart m hm
      rw [hon.not_ended] at hended
      cases hended

theorem apart_effect {c : Command} {answer : c.Answer}
    (h : Effect settings readings t c answer t') (ht : t.Keyed)
    (hbefore : t.blocks.contains ⟨a, b⟩ = true → t.Apart (.of a b))
    (hstored : t'.blocks.contains ⟨a, b⟩ = true) : t'.Apart (.of a b) := by
  rcases stored_or_made h hstored with hstored | rfl
  · have hblocked : t.isBlocked a b = true := by rw [Tables.isBlocked, hstored, Bool.true_or]
    exact apart_of_blocked h ht hblocked (hbefore hstored)
  · exact t.apart_barred ⟨a, b⟩ _

theorem apart_run {events : List Event}
    (h : (run settings events).memory.tables.blocks.contains ⟨a, b⟩ = true) :
    (run settings events).memory.tables.Apart (.of a b) := by
  revert h
  refine run_induction (P := fun t _ => t.blocks.contains ⟨a, b⟩ = true → t.Apart (.of a b))
    ?_ ?_ ?_ events
  · simp [Tables.empty]
  · exact fun _ _ _ _ ih => ih
  · intro events t' c readings answer ih heffect
    exact apart_effect heffect (sound_run events).keyed ih

/-! ## What users kept apart cannot do -/

/-- Neither of them may write to the other. -/
theorem canMessage_of_apart {events : List Event}
    (h : (run settings events).memory.tables.Apart (.of a b)) :
    (run settings events).memory.tables.canMessage ⟨a, b⟩ = false := by
  rw [canMessage_run, Option.any_eq_false]
  intro m hm
  rw [m.canMessage_eq, h m hm]
  rfl

theorem look_canMessage_of_apart {events : List Event}
    (h : (run settings events).memory.tables.Apart (.of a b)) :
    (Question.canMessage ⟨a, b⟩).work.look (run settings events).memory =
        (.ok false, (run settings events).memory) ∧
      (Question.canMessage ⟨b, a⟩).work.look (run settings events).memory =
        (.ok false, (run settings events).memory) := by
  have hback : (run settings events).memory.tables.Apart (.of b a) := by
    rw [PairId.of_comm]
    exact h
  rw [Question.look_canMessage, Question.look_canMessage, canMessage_of_apart h,
    canMessage_of_apart hback]
  exact ⟨rfl, rfl⟩

/-- A swipe that has its locks and is turned down for a block is over, and nothing else happens. -/
theorem step_attempt_blocked {w : World} (hw : w.Sound settings) {place : Nat} {task : Task}
    (htask : w.tasks[place]? = some task) {arrow : Arrow} {direction : Direction}
    (hcommand : task.command = .swipe arrow direction)
    (hrefused : w.memory.tables.swipeRefusal arrow = some .blocked) (readings : Readings) :
    w.step settings (.attempt place readings) =
      { w with
        tasks := w.tasks.eraseIdx place
        outcomes := .failed task.command (.error .blocked) :: w.outcomes } := by
  obtain ⟨first, m, retries, hplan⟩ := hw.planned task (List.mem_of_getElem? htask)
  obtain ⟨c, firstUser, secondUser, left, body⟩ := task
  subst hcommand
  simp only [Command.operation, Operation.swipe] at hplan
  split at hplan <;> cases hplan
  rename_i hne
  rw [step_attempt htask, attempted]
  simp only [Operation.inUnit_swipeWork_refused hne hrefused]
  rfl

/-- A swipe on another user waits for its locks. -/
theorem step_call_swipe (w : World) (arrow : Arrow) (hne : arrow.actor ≠ arrow.target)
    (direction : Direction) (readings : Readings) :
    w.step settings (.call (.swipe arrow direction) readings) =
      { w with
        tasks := w.tasks ++ [⟨.swipe arrow direction, arrow.actor, arrow.target,
          settings.matching.conflictRetries.toNat, fun readings =>
            Operation.swipeWork arrow direction (readings 0)⟩] } := by
  have hplan : (Command.swipe arrow direction).operation settings =
      .plain (.locked arrow.actor arrow.target settings.matching.conflictRetries.toNat
        fun readings => Operation.swipeWork arrow direction (readings 0)) := if_neg hne
  rw [step, called, hplan]
  rfl

/-- A match that was stored when the block was made has ended for good. -/
theorem ended_of_block {before : List Event} (after : List Event) {e : Event} {readings : Readings}
    {answer : Option Match}
    (hblock : (run settings (before ++ [e])).outcomes =
      .done (.block ⟨a, b⟩) readings answer :: (run settings before).outcomes)
    (hstored : (run settings before).memory.tables.matchRows[PairId.of a b]?.isSome = true) :
    ∃ m, (run settings (before ++ [e] ++ after)).memory.tables.matchRows[PairId.of a b]? = some m ∧
      m.state.isTerminal = true := by
  have heffect := effect_of_outcome hblock
  -- The tables after the block become a variable, for the effect to say what they are.
  generalize htables : (run settings (before ++ [e])).memory.tables = t at heffect
  cases heffect with
  | block _ hne =>
    obtain ⟨found, hfound⟩ := Option.isSome_iff_exists.1 hstored
    have hm : (run settings (before ++ [e])).memory.tables.matchRows[PairId.of a b]? =
        some (found.barredBy a (readings 0)) := by
      rw [htables, Tables.barred_matchRows, Rows.getElem?_set_self, hfound]
      rfl
    have hended : (found.barredBy a (readings 0)).state.isTerminal = true := by
      apply Tables.apart_barred (run settings before).memory.tables ⟨a, b⟩ (readings 0)
      rw [← htables]
      exact hm
    obtain ⟨m, hlater, rfl | hon⟩ := goesOn_run (before ++ [e]) after hm
    · exact ⟨_, hlater, hended⟩
    · rw [hon.not_ended] at hended
      cases hended

/-- **A block keeps two users apart.** In every run, from the moment that one blocks the other until
that block is lifted, their match is neither active nor a friendship, neither may write to the
other, and each swipe between them that gets its locks fails as blocked and changes nothing. If they
had a match when the block was made, then for the rest of the run, be the block lifted or not, no
swipe between them succeeds and neither may write to the other. -/
theorem block_separates (settings : Settings) (a b : UserId) :
    (∀ events : List Event,
      let w := run settings events
      blockStands ⟨a, b⟩ w.outcomes = true →
        (∀ m, w.memory.tables.matchRows[PairId.of a b]? = some m →
          m.state ≠ .active ∧ m.state ≠ .friends) ∧
        (Question.canMessage ⟨a, b⟩).work.look w.memory = (.ok false, w.memory) ∧
        (Question.canMessage ⟨b, a⟩).work.look w.memory = (.ok false, w.memory) ∧
        ∀ (place : Nat) (task : Task) (arrow : Arrow) (direction : Direction)
          (readings : Readings),
          w.tasks[place]? = some task → task.command = .swipe arrow direction →
          arrow = ⟨a, b⟩ ∨ arrow = ⟨b, a⟩ →
            w.step settings (.attempt place readings) =
              { w with
                tasks := w.tasks.eraseIdx place
                outcomes := .failed task.command (.error .blocked) :: w.outcomes }) ∧
    (∀ (before after : List Event) (e : Event) (readings : Readings) (answer : Option Match),
      (run settings (before ++ [e])).outcomes =
        .done (.block ⟨a, b⟩) readings answer :: (run settings before).outcomes →
      (run settings before).memory.tables.matchRows[PairId.of a b]?.isSome = true →
        let w := run settings (before ++ [e] ++ after)
        (Question.canMessage ⟨a, b⟩).work.look w.memory = (.ok false, w.memory) ∧
        (Question.canMessage ⟨b, a⟩).work.look w.memory = (.ok false, w.memory) ∧
        ∀ (next : Event) (arrow : Arrow) (direction : Direction) (readings : Readings)
          (result : SwipeResult), arrow = ⟨a, b⟩ ∨ arrow = ⟨b, a⟩ →
            (w.step settings next).outcomes ≠
              .done (.swipe arrow direction) readings result :: w.outcomes) := by
  constructor
  · intro events w hstands
    have hstored : w.memory.tables.blocks.contains ⟨a, b⟩ = true := by
      rw [contains_blocks_run, hstands]
    have hapart : w.memory.tables.Apart (.of a b) := apart_run hstored
    obtain ⟨hsilent, hsilent'⟩ := look_canMessage_of_apart hapart
    refine ⟨?_, hsilent, hsilent', ?_⟩
    · intro m hm
      have hended := hapart m hm
      constructor <;> intro hs <;> rw [hs] at hended <;> cases hended
    · intro place task arrow direction readings htask hcommand hbetween
      have hblocked : w.memory.tables.isBlocked a b = true := by
        rw [Tables.isBlocked, hstored, Bool.true_or]
      exact step_attempt_blocked (sound_run events) htask hcommand
        (swipeRefusal_of_blocked hblocked hbetween) readings
  · intro before after e readings answer hblock hstored w
    obtain ⟨m, hm, hended⟩ := ended_of_block after hblock hstored
    have hapart : w.memory.tables.Apart (.of a b) := by
      intro m' hm'
      rw [hm] at hm'
      cases hm'
      exact hended
    obtain ⟨hsilent, hsilent'⟩ := look_canMessage_of_apart hapart
    refine ⟨hsilent, hsilent', ?_⟩
    intro next arrow direction readings result hbetween hswipe
    rw [← run_concat] at hswipe
    have heffect := effect_of_outcome hswipe
    generalize (run settings (before ++ [e] ++ after ++ [next])).memory.tables = t at heffect
    cases heffect with
    | swipe _ _ id hne hopen =>
      rw [← of_eq_of_iff] at hbetween
      have hnot := (Tables.swipeRefusal_eq_none.1 hopen).2 m (by rw [hbetween]; exact hm)
      rw [hended] at hnot
      cases hnot

/-- Two users match, and one is about to block the other. -/
def beforeBlock : List Event :=
  inTurn .epoch [.swipe ⟨.ofNat 1, .ofNat 2⟩ .like, .swipe ⟨.ofNat 2, .ofNat 1⟩ .like] ++
    [.call (.block ⟨.ofNat 1, .ofNat 2⟩) fun _ => .epoch]

def afterBlock : List Event := beforeBlock ++ [.attempt 0 fun _ => .epoch]

/-- The other user swipes again, and waits for the locks. -/
def swipingAgain : List Event :=
  afterBlock ++ [.call (.swipe ⟨.ofNat 2, .ofNat 1⟩ .like) fun _ => .epoch]

theorem afterBlock_leaves :
    (run {} beforeBlock).memory.tables.matchRows[PairId.of (.ofNat 1) (.ofNat 2)]?.isSome = true ∧
      blockStands ⟨.ofNat 1, .ofNat 2⟩ (run {} beforeBlock).outcomes = false ∧
      blockStands ⟨.ofNat 1, .ofNat 2⟩ (run {} afterBlock).outcomes = true ∧
      (run {} afterBlock).tasks.isEmpty = true := by
  decide +kernel

theorem run_swipingAgain :
    run {} swipingAgain =
      ⟨(run {} afterBlock).memory,
        [⟨.swipe ⟨.ofNat 2, .ofNat 1⟩ .like, .ofNat 2, .ofNat 1, 3, fun readings =>
          Operation.swipeWork ⟨.ofNat 2, .ofNat 1⟩ .like (readings 0)⟩],
        (run {} afterBlock).outcomes⟩ := by
  obtain ⟨_, _, _, hidle⟩ := afterBlock_leaves
  refine (run_concat afterBlock _).trans ?_
  refine (step_call_swipe _ ⟨.ofNat 2, .ofNat 1⟩ (by decide) _ _).trans ?_
  rw [List.isEmpty_iff.1 hidle]
  rfl

/-- That swipe fails as blocked. As the match has ended, no swipe succeeds after the block is lifted
either. -/
theorem block_separates_lifted :
    let swiping := run {} swipingAgain
    let lifted := run {} (afterBlock ++ inTurn .epoch [.unblock ⟨.ofNat 1, .ofNat 2⟩])
    swiping.step {} (.attempt 0 fun _ => .epoch) =
        ⟨swiping.memory, [],
          .failed (.swipe ⟨.ofNat 2, .ofNat 1⟩ .like) (.error .blocked) :: swiping.outcomes⟩ ∧
      (Question.canMessage ⟨.ofNat 1, .ofNat 2⟩).work.look lifted.memory =
        (.ok false, lifted.memory) ∧
      ∀ (next : Event) (readings : Readings) (result : SwipeResult),
        (lifted.step {} next).outcomes ≠
          .done (.swipe ⟨.ofNat 1, .ofNat 2⟩ .like) readings result :: lifted.outcomes := by
  obtain ⟨hmatch, hnot, hstands, _⟩ := afterBlock_leaves
  obtain ⟨hstanding, hrest⟩ := block_separates {} (.ofNat 1) (.ofNat 2)
  obtain ⟨_, _, hblock⟩ := made_of_blockStands hnot hstands
  obtain ⟨hsilent, _, hnone⟩ := hrest beforeBlock _ _ _ _ hblock hmatch
  refine ⟨?_, hsilent, fun next readings result => hnone next _ .like readings result (.inl rfl)⟩
  have hstill : blockStands ⟨.ofNat 1, .ofNat 2⟩ (run {} swipingAgain).outcomes = true := by
    rw [run_swipingAgain]
    dsimp only
    exact hstands
  obtain ⟨_, _, _, hfails⟩ := hstanding swipingAgain hstill
  rw [run_swipingAgain] at hfails ⊢
  exact hfails 0 _ ⟨.ofNat 2, .ofNat 1⟩ .like _ rfl rfl (.inr rfl)

end World

end Courtship
