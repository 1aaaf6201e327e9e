import Courtship.Proofs.Changes
import Courtship.Proofs.Conversations
import Courtship.Proofs.LatestSwipe

/-! What an operation comes to when it is carried out as a whole, with the clock standing still and
no conflict ahead. It drafts its answer and its changes from the tables that it finds, and they are
then made. -/

namespace Courtship

/-- A clock that stands still. -/
def Readings.still (now : Instant) : Readings := fun _ => now

@[simp] theorem Readings.still_apply (now : Instant) (i : Nat) : still now i = now := rfl

namespace Tables

/-- The last swipe of the user, if it passes the check of its age. -/
def lastInWindow (t : Tables) (rank : Arrow → Nat) (check : Operation.AgeCheck) (user : UserId)
    (now : Instant) : Except (Failure EngineError) Like :=
  match t.latestLikeBy rank user with
  | some l => (check l now).map fun _ => l
  | none => .error (.error .nothingToUndo)

section

variable {t : Tables} {rank : Arrow → Nat} {check : Operation.AgeCheck} {user : UserId}
  {now : Instant} {l : Like}

theorem lastInWindow_ok (h : t.lastInWindow rank check user now = .ok l) :
    t.latestLikeBy rank user = some l := by
  rw [lastInWindow] at h
  cases hlatest : t.latestLikeBy rank user with
  | none =>
    rw [hlatest] at h
    cases h
  | some l' =>
    simp only [hlatest] at h
    cases hcheck : check l' now <;> rw [hcheck] at h <;> cases h
    rfl

/-- A swipe that stands is withdrawn if it passes the check. -/
theorem Stands.toWithdraw {arrow : Arrow} (h : t.Stands arrow l) (check : Operation.AgeCheck)
    (now : Instant) : t.toWithdraw check arrow now = (check l now).map fun _ => l := by
  rw [Tables.toWithdraw, h.stored]
  exact if_neg (by simp [Like.isDeleted, h.live])

end

/-- The match of the pair, if it can be ended. -/
def matchToLeave (t : Tables) (arrow : Arrow) : Except EngineError Match :=
  match t.matchRows[PairId.of arrow.actor arrow.target]? with
  | some current =>
    if current.state.isTerminal then .error (.alreadyTerminal current.state) else .ok current
  | none => .error .matchNotFound

/-- The match of the pair, if it was left by a graceful exit. -/
def exitedMatch (t : Tables) (arrow : Arrow) : Option Match :=
  t.matchRows[PairId.of arrow.actor arrow.target]?.filter fun m => m.state = .gracefulExit

end Tables

/-! ## Drafts -/

/-- An answer, the changes that go with it, and how many new identifiers they take. -/
structure Draft (α : Type) where
  answer : Except (Failure EngineError) α
  changes : List Tables.Change
  taken : Nat

namespace Draft

variable {α : Type}

def refused (e : EngineError) : Draft α := ⟨.error (.error e), [], 0⟩

def answered (a : α) (changes : List Tables.Change) (taken : Nat) : Draft α :=
  ⟨.ok a, changes, taken⟩

/-- The last change is a notification. If it is refused, nothing is changed. -/
def answeredWithNotice (rejects : Bool) (a : α) (changes : List Tables.Change) (taken : Nat) :
    Draft α :=
  if rejects then ⟨.error (.error (.storage Memory.sinkError)), [], taken⟩
  else answered a changes (taken + 1)

/-- The memory with the changes made. -/
def make (d : Draft α) (m : Memory) : Except (Failure EngineError) α × Memory :=
  (d.answer, { m with tables := m.tables.changed d.changes, minted := m.minted + d.taken })

theorem make_failed (why : Failure EngineError) (m : Memory) :
    (⟨.error why, [], 0⟩ : Draft α).make m = (.error why, m) := rfl

@[simp] theorem make_refused (e : EngineError) (m : Memory) :
    (refused e : Draft α).make m = (.error (.error e), m) := rfl

theorem make_answered {m : Memory} {t : Tables} {changes : List Tables.Change}
    (h : t = m.tables.changed changes) (a : α) (taken : Nat) :
    (answered a changes taken).make m =
      (.ok a, { m with tables := t, minted := m.minted + taken }) := by
  rw [h]
  rfl

end Draft

/-- What undoing the last swipe comes to, with this check of its age. -/
def Tables.undoDraft (t : Tables) (rank : Arrow → Nat) (check : Operation.AgeCheck)
    (user : UserId) (now : Instant) : Draft UndoResult :=
  match t.lastInWindow rank check user now with
  | .error why => ⟨.error why, [], 0⟩
  | .ok l =>
    .answered ⟨l.withdrawn now, t.matchEnded ⟨user, l.toUser⟩ l now⟩
      (t.undoChanges ⟨user, l.toUser⟩ now l now) 0

namespace Command

/-- What the command comes to on these tables, with `new` as the identifiers that are to be had. -/
def draft (settings : Settings) (now : Instant) (rejects : Bool) (rank : Arrow → Nat) (t : Tables)
    (new : Nat → Uuid) : (c : Command) → Draft c.Answer
  | swipe arrow direction =>
    if arrow.actor = arrow.target then
      .refused (.invalidRequest "users cannot swipe on themselves")
    else
      match t.swipeRefusal arrow with
      | some e => .refused e
      | none =>
        .answered (t.swipeResult arrow direction now (new 0))
          (t.swipeChanges arrow now direction (new 0)) (if t.likes.contains arrow then 0 else 1)
  | undoLastSwipe user =>
    t.undoDraft rank (Operation.requireInWindow settings.matching) user now
  | propose arrow message =>
    if arrow.actor = arrow.target then
      .refused (.invalidRequest "cannot send a friend request to yourself")
    else
      match t.proposalRefusal settings.relationships arrow message now with
      | some e => .refused e
      | none =>
        let request := FriendRequest.new (new 0) arrow.actor arrow.target
          (String.ofList (trimmed message.toList)) now
        .answeredWithNotice rejects request (Tables.proposeChanges request (new 1)) 1
  | respond id responder accept =>
    match t.toAnswer id responder with
    | .error e => .refused e
    | .ok (r, current) =>
      .answeredWithNotice rejects (r.closed (Operation.verdict accept).2.2 now)
        (t.answerChanges now r current accept (new 0)) 0
  | gracefulExit arrow =>
    match t.exitedMatch arrow with
    | some current => .answered current [] 0
    | none =>
      match t.matchToLeave arrow with
      | .error e => .refused e
      | .ok current =>
        .answeredWithNotice rejects
          (current.moved .gracefulExit arrow.actor (some .gracefulExit) now)
          (t.exitChanges arrow now current (new 0)) 0
  | unmatch arrow =>
    match t.matchToLeave arrow with
    | .error e => .refused e
    | .ok current =>
      .answered (current.moved .unmatched arrow.actor (some .unmatch) now)
        (t.leaveChanges arrow now current .unmatched .unmatch) 0
  | block arrow =>
    if arrow.actor = arrow.target then
      .refused (.invalidRequest "users cannot block themselves")
    else
      .answered (t.matchRows[PairId.of arrow.actor arrow.target]?.map fun found =>
        found.barredBy arrow.actor now) (t.blockChanges arrow now) 0
  | unblock arrow =>
    if arrow.actor = arrow.target then
      .refused (.invalidRequest "users cannot unblock themselves")
    else .answered (t.blocks.contains arrow) [.write (.block arrow none)] 0

end Command

/-- What the tables have to say. -/
def Question.reply (t : Tables) : (q : Question) → q.Answer
  | matchesFor user => t.matchesFor user
  | blockedBy blocker => t.blockedBy blocker
  | pendingRequestsFor user => t.pendingRequestsFor user
  | notificationsFor user => t.notificationsFor user
  | conversation a b => t.conversations[PairId.of a b]?
  | canMessage arrow => t.canMessage arrow

/-- Everything that a service can be asked for. -/
inductive Action where
  | command (c : Command)
  | question (q : Question)

namespace Action

@[reducible] def Answer : Action → Type
  | command c => c.Answer
  | question q => q.Answer

def operation (settings : Settings) : (a : Action) → Operation a.Answer
  | command c => c.operation settings
  | question q => q.operation

/-- Carries the operation out as a whole at this time. -/
def run (settings : Settings) (now : Instant) (a : Action) (m : Memory) :
    Except (Failure EngineError) a.Answer × Memory :=
  (a.operation settings).run (.still now) (.still now) m

def draft (settings : Settings) (now : Instant) (rejects : Bool) (rank : Arrow → Nat) (t : Tables)
    (new : Nat → Uuid) : (a : Action) → Draft a.Answer
  | command c => c.draft settings now rejects rank t new
  | question q => .answered (q.reply t) [] 0

end Action

/-- The identifiers that a memory has yet to give out. -/
def Memory.supply (m : Memory) (i : Nat) : Uuid := .fresh (m.minted + i)

/-- The draft of the command on this memory. -/
def Command.drafted (settings : Settings) (now : Instant) (m : Memory) (c : Command) :
    Draft c.Answer :=
  c.draft settings now m.rejectsNotifications m.rank m.tables m.supply

/-! ## Units without a conflict ahead -/

namespace Work

variable {α : Type} {w : Work (Ending α)} {m m' : Memory} {a : α}

theorem inUnit_of_commit (h : w.perform m = (.ok (.commit a), m'))
    (hnone : m'.commitConflicts = 0) : w.inUnit m = (.ok a, m') := by
  rw [inUnit_eq, h]
  exact if_pos hnone

theorem inUnit_of_drop (h : w.perform m = (.ok (.drop a), m')) :
    w.inUnit m = (.ok a, { m' with tables := m.tables }) := by
  rw [inUnit_eq, h]
  rfl

theorem inUnit_of_error {why : Failure EngineError} (h : w.perform m = (.error why, m')) :
    w.inUnit m = (.error why, { m' with tables := m.tables }) := by
  rw [inUnit_eq, h]
  rfl

end Work

/-! ## Carrying out a command -/

namespace Operation

variable {m : Memory} {now : Instant}

theorem run_swipe {σ υ : Type} [Storage σ υ] (settings : MatchingSettings) {arrow : Arrow}
    (hne : arrow.actor ≠ arrow.target) (direction : Direction) (first second : Readings) (s : σ) :
    (swipe settings arrow direction).run first second s =
      Plan.attempts (fun readings => swipeWork arrow direction (readings 0))
        settings.conflictRetries.toNat second s := by
  rw [swipe, if_neg hne]
  rfl

theorem attempts_refused {α : Type} {body : Readings → Work (Ending α)} {readings : Readings}
    {m' : Memory} {e : EngineError} (h : (body readings).inUnit m = (.error (.error e), m'))
    (he : ∀ source, e ≠ .storageConflict source) (retries : Nat) :
    Plan.attempts body retries readings m = (.error (.error e), m') := by
  rw [Plan.attempts_of_no_conflict (by simpa [h] using he), h]

theorem attempts_ok {α : Type} {body : Readings → Work (Ending α)} {readings : Readings}
    {m' : Memory} {a : α} (h : (body readings).inUnit m = (.ok a, m')) (retries : Nat) :
    Plan.attempts body retries readings m = (.ok a, m') := by
  rw [Plan.attempts_of_no_conflict (by simp [h]), h]

theorem swipeRefusal_ne_storageConflict {t : Tables} {arrow : Arrow} {e : EngineError}
    (h : t.swipeRefusal arrow = some e) (source : StorageError) : e ≠ .storageConflict source := by
  unfold Tables.swipeRefusal at h
  split at h
  · cases h
    simp
  · split at h
    · split at h
      · cases h
        simp
      · split at h <;> cases h
        simp
    · cases h

end Operation

namespace Command

variable {settings : Settings} {now : Instant} {m : Memory}

theorem run_swipe_eq_draft (hnone : m.commitConflicts = 0) (arrow : Arrow)
    (direction : Direction) :
    ((swipe arrow direction).operation settings).run (.still now) (.still now) m =
      ((swipe arrow direction).drafted settings now m).make m := by
  rw [operation, drafted, draft]
  by_cases hself : arrow.actor = arrow.target
  · rw [if_pos hself, Operation.swipe, if_pos hself]
    rfl
  · rw [if_neg hself, Operation.run_swipe settings.matching hself]
    have hperform := Operation.perform_swipeWork hself direction now m
    cases hrefusal : m.tables.swipeRefusal arrow with
    | some e =>
      rw [hrefusal] at hperform
      exact Operation.attempts_refused (Work.inUnit_of_error hperform)
        (Operation.swipeRefusal_ne_storageConflict hrefusal) _
    | none =>
      rw [hrefusal] at hperform
      have hunit := Work.inUnit_of_commit hperform hnone
      refine (Operation.attempts_ok hunit _).trans ?_
      rw [Draft.make_answered (m.tables.swiped_eq_changed arrow now direction _)]
      split <;> rfl

/-- What the unit comes to if nothing has changed since the look. -/
theorem perform_undoWork_latest (check : Operation.AgeCheck) (hm : m.tables.Keyed) {user : UserId}
    {l : Like} (h : m.latestLikeBy user = some l) (readings : Readings) :
    (Operation.undoWork check ⟨user, l.toUser⟩ readings).perform m =
      match check l (readings 1) with
      | .error why => (.error why, m)
      | .ok _ =>
        (.ok (.commit ⟨l.withdrawn (readings 0),
            m.tables.matchEnded ⟨user, l.toUser⟩ l (readings 2)⟩),
          { m with tables := m.tables.undone ⟨user, l.toUser⟩ l (readings 0) (readings 2) }) := by
  rw [Operation.perform_undoWork check hm, (hm.stands_latestLikeBy h).toWithdraw]
  cases check l (readings 1) <;> rfl

/-- The check is any one here, as it is for the effects. -/
theorem run_undoLastSwipe_eq_draft (check : Operation.AgeCheck) (hm : m.tables.Keyed)
    (hnone : m.commitConflicts = 0) (user : UserId) :
    (Operation.undoLastSwipe check user).run (.still now) (.still now) m =
      (m.tables.undoDraft m.rank check user now).make m := by
  have hlook : m.tables.latestLikeBy m.rank user = m.latestLikeBy user := rfl
  rw [Operation.run, Operation.plan_undoLastSwipe, Tables.undoDraft, Tables.lastInWindow, hlook]
  cases hlatest : m.latestLikeBy user with
  | none => rfl
  | some l =>
    have hunit := perform_undoWork_latest check hm hlatest (.still now)
    simp only [Readings.still_apply] at hunit ⊢
    cases hcheck : check l now with
    | error why => simp only [Except.map, Plan.finish, Draft.make_failed]
    | ok _ =>
      simp only [hcheck, Except.map, Plan.finish, Plan.attempts] at hunit ⊢
      rw [Draft.make_answered (m.tables.undone_eq_changed _ now l now)]
      exact Work.inUnit_of_commit hunit hnone

theorem run_undo_eq_draft (hm : m.tables.Keyed) (hnone : m.commitConflicts = 0)
    (user : UserId) :
    ((undoLastSwipe user).operation settings).run (.still now) (.still now) m =
      ((undoLastSwipe user).drafted settings now m).make m :=
  run_undoLastSwipe_eq_draft (Operation.requireInWindow settings.matching) hm hnone user

theorem run_propose_eq_draft (hnone : m.commitConflicts = 0)
    (hfree : m.tables.requests[Uuid.fresh m.minted]? = none) (arrow : Arrow) (message : String) :
    ((propose arrow message).operation settings).run (.still now) (.still now) m =
      ((propose arrow message).drafted settings now m).make m := by
  rw [operation, drafted, draft, Operation.propose]
  by_cases hself : arrow.actor = arrow.target
  · rw [if_pos hself, if_pos hself]
    rfl
  · rw [if_neg hself, if_neg hself]
    have hrun : (Operation.plain (.locked arrow.actor arrow.target 0 fun readings =>
        Operation.proposeWork settings.relationships arrow message (readings 0))).run
        (.still now) (.still now) m =
        (Operation.proposeWork settings.relationships arrow message now).inUnit m := rfl
    rw [hrun]
    have hperform := Operation.perform_proposeWork settings.relationships arrow message now m
    cases hrefusal : m.tables.proposalRefusal settings.relationships arrow message now with
    | some e =>
      rw [hrefusal] at hperform
      exact Work.inUnit_of_error hperform
    | none =>
      rw [hrefusal, Operation.perform_insertProposal_unused hfree] at hperform
      dsimp only at hperform
      simp only [Draft.answeredWithNotice]
      by_cases hsink : m.rejectsNotifications
      · rw [if_pos hsink] at hperform ⊢
        exact Work.inUnit_of_error hperform
      · rw [if_neg hsink] at hperform ⊢
        exact Work.inUnit_of_commit hperform hnone

theorem run_respond_eq_draft (hm : m.tables.Keyed) (hnone : m.commitConflicts = 0) (id : Uuid)
    (responder : UserId) (accept : Bool) :
    ((respond id responder accept).operation settings).run (.still now) (.still now) m =
      ((respond id responder accept).drafted settings now m).make m := by
  rw [operation, drafted, draft, Operation.run, Operation.plan_respond]
  cases hr : m.tables.requests[id]? with
  | none =>
    have hfound : m.tables.toAnswer id responder = .error .requestNotFound := by
      rw [Tables.toAnswer, hr]
    rw [hfound]
    rfl
  | some r =>
    have hrun : (Plan.locked r.fromUser r.toUser 0 fun readings =>
        Operation.respondWork id responder accept (readings 0)).finish (.still now) m =
        (Operation.respondWork id responder accept now).inUnit m := rfl
    simp only [hrun]
    have hchecks := Operation.perform_answerable id responder m
    cases hfound : m.tables.toAnswer id responder with
    | error e =>
      rw [hfound] at hchecks
      have hperform : (Operation.respondWork id responder accept now).perform m =
          (.error (.error e), m) := by
        rw [Operation.respondWork_eq, Work.perform_bind, hchecks]
      exact Work.inUnit_of_error hperform
    | ok found =>
      obtain ⟨r, current⟩ := found
      rw [hfound] at hchecks
      obtain ⟨hr, rfl, -, hc, hs⟩ := Tables.toAnswer_ok hfound
      obtain rfl := (hm.request hr).1
      have hperform := Operation.perform_recordAnswer hm hr hc hs accept now
      rw [← Work.perform_bind_ok hchecks fun found =>
        Operation.recordAnswer found.1 found.2 r.toUser accept now,
        ← Operation.respondWork_eq] at hperform
      simp only [Draft.answeredWithNotice]
      by_cases hsink : m.rejectsNotifications
      · rw [if_pos hsink] at hperform ⊢
        refine (Work.inUnit_of_error hperform).trans ?_
        rfl
      · rw [if_neg hsink] at hperform ⊢
        rw [Draft.make_answered (m.tables.responded_eq_changed now r current accept _)]
        exact Work.inUnit_of_commit hperform hnone

theorem run_exit_eq_draft (hm : m.tables.Keyed) (hnone : m.commitConflicts = 0)
    (arrow : Arrow) :
    ((gracefulExit arrow).operation settings).run (.still now) (.still now) m =
      ((gracefulExit arrow).drafted settings now m).make m := by
  have hrun : ((gracefulExit arrow).operation settings).run (.still now) (.still now) m =
      (Operation.gracefulExitWork arrow now).inUnit m := rfl
  rw [hrun, drafted, draft, Tables.exitedMatch, Tables.matchToLeave]
  cases hstored : m.tables.matchRows[PairId.of arrow.actor arrow.target]? with
  | none =>
    have hleave := Operation.perform_leave_absent hstored .gracefulExit .gracefulExit now
    have hperform : (Operation.gracefulExitWork arrow now).perform m =
        (.error (.error .matchNotFound), m) := by
      rw [Operation.gracefulExitWork, Work.bind_eq, Work.perform_bind, hleave]
    exact Work.inUnit_of_error hperform
  | some current =>
    by_cases hexit : current.state = .gracefulExit
    · have hleave := Operation.perform_leave_repeated hm hstored hexit .gracefulExit now
      have hperform : (Operation.gracefulExitWork arrow now).perform m =
          (.ok (.drop current), m) := by
        rw [Operation.gracefulExitWork, Work.bind_eq, Work.perform_bind_ok hleave]
        rfl
      rw [Work.inUnit_of_drop hperform]
      simp only [Option.filter_some, hexit, decide_true, ↓reduceIte]
      rfl
    · by_cases hs : current.state.isTerminal = true
      · have hother : ¬(current.state = .gracefulExit ∧
            MatchState.gracefulExit = .gracefulExit) := fun h => hexit h.1
        have hleave := Operation.perform_leave_ended hm hstored hs hother .gracefulExit now
        have hperform : (Operation.gracefulExitWork arrow now).perform m =
            (.error (.error (.alreadyTerminal current.state)), m) := by
          rw [Operation.gracefulExitWork, Work.bind_eq, Work.perform_bind, hleave]
        rw [Work.inUnit_of_error hperform]
        simp only [Option.filter_some, hexit, decide_false, Bool.false_eq_true, ↓reduceIte, hs,
          Draft.make_refused]
      · have hopen : current.state.isTerminal = false := by simpa using hs
        have hperform := Operation.perform_gracefulExitWork hm hstored hopen now
        simp only [Option.filter_some, hexit, decide_false, Bool.false_eq_true, ↓reduceIte, hopen,
          Draft.answeredWithNotice]
        by_cases hsink : m.rejectsNotifications
        · rw [if_pos hsink] at hperform ⊢
          refine (Work.inUnit_of_error hperform).trans ?_
          rfl
        · rw [if_neg hsink] at hperform ⊢
          exact Work.inUnit_of_commit hperform hnone

theorem run_unmatch_eq_draft (hm : m.tables.Keyed) (hnone : m.commitConflicts = 0)
    (arrow : Arrow) :
    ((unmatch arrow).operation settings).run (.still now) (.still now) m =
      ((unmatch arrow).drafted settings now m).make m := by
  have hrun : ((unmatch arrow).operation settings).run (.still now) (.still now) m =
      (Operation.unmatchWork arrow now).inUnit m := rfl
  rw [hrun, drafted, draft, Tables.matchToLeave]
  cases hstored : m.tables.matchRows[PairId.of arrow.actor arrow.target]? with
  | none =>
    have hleave := Operation.perform_leave_absent hstored .unmatched .unmatch now
    have hperform : (Operation.unmatchWork arrow now).perform m =
        (.error (.error .matchNotFound), m) := by
      rw [Operation.unmatchWork, Work.bind_eq, Work.perform_bind, hleave]
    exact Work.inUnit_of_error hperform
  | some current =>
    by_cases hs : current.state.isTerminal = true
    · have hother : ¬(current.state = .gracefulExit ∧ MatchState.unmatched = .gracefulExit) := by
        rintro ⟨-, h⟩
        cases h
      have hleave := Operation.perform_leave_ended hm hstored hs hother .unmatch now
      have hperform : (Operation.unmatchWork arrow now).perform m =
          (.error (.error (.alreadyTerminal current.state)), m) := by
        rw [Operation.unmatchWork, Work.bind_eq, Work.perform_bind, hleave]
      rw [Work.inUnit_of_error hperform]
      simp [hs, Draft.make_refused]
    · have hopen : current.state.isTerminal = false := by simpa using hs
      have hended : MatchState.unmatched.isTerminal = true := rfl
      have hleave := Operation.perform_leave hm hstored hopen hended .unmatch now
      have hperform := Work.perform_bind_ok hleave fun transition =>
        Work.done (Ending.commit transition.result)
      simp only [hopen, Bool.false_eq_true, ↓reduceIte]
      exact Work.inUnit_of_commit hperform hnone

theorem run_block_eq_draft (hm : m.tables.Keyed) (hnone : m.commitConflicts = 0)
    (arrow : Arrow) :
    ((block arrow).operation settings).run (.still now) (.still now) m =
      ((block arrow).drafted settings now m).make m := by
  rw [operation, drafted, draft, Operation.block]
  by_cases hself : arrow.actor = arrow.target
  · rw [if_pos hself, if_pos hself]
    rfl
  · rw [if_neg hself, if_neg hself]
    rw [Draft.make_answered (m.tables.barred_eq_changed arrow now)]
    exact Work.inUnit_of_commit (Operation.perform_blockWork arrow hm now) hnone

theorem run_unblock_eq_draft (hnone : m.commitConflicts = 0) (arrow : Arrow) :
    ((unblock arrow).operation settings).run (.still now) (.still now) m =
      ((unblock arrow).drafted settings now m).make m := by
  rw [operation, drafted, draft, Operation.unblock]
  by_cases hself : arrow.actor = arrow.target
  · rw [if_pos hself, if_pos hself]
    rfl
  · rw [if_neg hself, if_neg hself]
    have hperform : (Ending.commit <$> Work.run (.removeBlock arrow)).perform m =
        (.ok (.commit (m.tables.blocks.contains arrow)),
          { m with tables := m.tables.unblocked arrow }) := by
      simp only [Work.map_eq, Work.run, Work.call_bind, Work.done_bind, Work.perform_call,
        Memory.perform_removeBlock, Work.perform_done]
    exact Work.inUnit_of_commit hperform hnone

theorem run_eq_draft (hm : m.tables.Keyed) (hnone : m.commitConflicts = 0)
    (hfree : m.tables.requests[Uuid.fresh m.minted]? = none) (c : Command) :
    (c.operation settings).run (.still now) (.still now) m =
      (c.drafted settings now m).make m := by
  cases c with
  | swipe arrow direction => exact run_swipe_eq_draft hnone arrow direction
  | undoLastSwipe user => exact run_undo_eq_draft hm hnone user
  | propose arrow message => exact run_propose_eq_draft hnone hfree arrow message
  | respond id responder accept => exact run_respond_eq_draft hm hnone id responder accept
  | gracefulExit arrow => exact run_exit_eq_draft hm hnone arrow
  | unmatch arrow => exact run_unmatch_eq_draft hm hnone arrow
  | block arrow => exact run_block_eq_draft hm hnone arrow
  | unblock arrow => exact run_unblock_eq_draft hnone arrow

end Command

namespace Question

theorem perform_work (q : Question) (m : Memory) :
    q.work.perform m = (.ok (q.reply m.tables), m) := by
  cases q with
  | canMessage arrow => exact perform_canMessageWork arrow m
  | _ => rfl

theorem run_eq_reply (q : Question) (first second : Readings) (m : Memory) :
    q.operation.run first second m = (.ok (q.reply m.tables), m) := by
  rw [operation, Operation.run, Operation.plan, Work.look_eq,
    Work.perform_bind_ok (q.perform_work m)]
  rfl

end Question

/-- An operation that is carried out as a whole makes what it has drafted. -/
theorem Action.run_eq_draft {settings : Settings} {m : Memory} (hm : m.tables.Keyed)
    (hnone : m.commitConflicts = 0) (hfree : m.tables.requests[Uuid.fresh m.minted]? = none)
    (now : Instant) (a : Action) :
    a.run settings now m =
      (a.draft settings now m.rejectsNotifications m.rank m.tables m.supply).make m := by
  cases a with
  | command c => exact c.run_eq_draft hm hnone hfree
  | question q => exact q.run_eq_reply _ _ m

end Courtship
