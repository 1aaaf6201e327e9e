import Courtship.Operation.Swiping
import Courtship.Proofs.Effect.Closing

/-! What the undoing of a swipe leaves of the tables. -/

namespace Courtship

/-- The swipe as it is kept when it has been withdrawn. -/
def Like.withdrawn (l : Like) (now : Instant) : Like := { l with deletedAt := some now }

theorem Like.withdrawn_arrow (l : Like) (now : Instant) : (l.withdrawn now).arrow = l.arrow := rfl

namespace Tables

/-- The match of the pair, if nothing has happened to it since it was created. -/
def untouchedMatch (t : Tables) (arrow : Arrow) : Option Match :=
  t.matchRows[PairId.of arrow.actor arrow.target]?.filter fun m =>
    m.state = .active && m.stateChangedAt = m.createdAt

/-- The match that ends together with the swipe `l`. -/
def matchToEnd (t : Tables) (arrow : Arrow) (l : Like) : Option Match :=
  if l.direction = .like then t.untouchedMatch arrow else none

/-- The match as the undoing of a swipe leaves it. -/
def matchEnded (t : Tables) (arrow : Arrow) (l : Like) (now : Instant) : Option Match :=
  (t.matchToEnd arrow l).map fun m => m.moved .unmatched arrow.actor (some .unmatch) now

/-- The tables once the swipe `l` has been withdrawn, with the times of that and of the end of the
match. Nothing is done about requests. -/
@[simps] def undone (t : Tables) (arrow : Arrow) (l : Like) (now ended : Instant) : Tables :=
  { t with
    likes := t.likes.set arrow (some (l.withdrawn now))
    matchRows :=
      match t.matchEnded arrow l ended with
      | some m => t.matchRows.set (.of arrow.actor arrow.target) (some m)
      | none => t.matchRows
    conversations :=
      if (t.matchToEnd arrow l).isSome then
        t.conversations.set (.of arrow.actor arrow.target)
          (t.conversations[PairId.of arrow.actor arrow.target]?.map fun c =>
            c.archiveOnce .unmatch ended)
      else t.conversations }

theorem untouchedMatch_eq_some {t : Tables} {arrow : Arrow} {m : Match} :
    t.untouchedMatch arrow = some m ↔
      t.matchRows[PairId.of arrow.actor arrow.target]? = some m ∧ m.state = .active ∧
        m.stateChangedAt = m.createdAt := by
  simp [untouchedMatch, Option.filter_eq_some_iff]

theorem matchToEnd_eq_some {t : Tables} {arrow : Arrow} {l : Like} {m : Match} :
    t.matchToEnd arrow l = some m ↔
      l.direction = .like ∧ t.matchRows[PairId.of arrow.actor arrow.target]? = some m ∧
        m.state = .active ∧ m.stateChangedAt = m.createdAt := by
  unfold matchToEnd
  split
  · rename_i hlike
    simp [untouchedMatch_eq_some, hlike]
  · rename_i hlike
    simp [hlike]

/-- No match ends with a pass, and none that is not active. -/
theorem matchToEnd_eq_none {t : Tables} {arrow : Arrow} {l : Like}
    (h : l.direction = .pass ∨
      ∀ m, t.matchRows[PairId.of arrow.actor arrow.target]? = some m → m.state ≠ .active) :
    t.matchToEnd arrow l = none := by
  rw [Option.eq_none_iff_forall_ne_some]
  intro m hend
  obtain ⟨hlike, hm, hactive, -⟩ := matchToEnd_eq_some.1 hend
  rcases h with hpass | hnot
  · rw [hpass] at hlike
    cases hlike
  · exact hnot m hm hactive

/-- The swipe that is there to be withdrawn, if it passes the check of its age. -/
def toWithdraw (t : Tables) (check : Operation.AgeCheck) (arrow : Arrow) (now : Instant) :
    Except (Failure EngineError) Like :=
  match t.likes[arrow]? with
  | some l =>
    if l.isDeleted then .error (.error .nothingToUndo) else (check l now).map fun _ => l
  | none => .error (.error .nothingToUndo)

theorem toWithdraw_ok {t : Tables} {check : Operation.AgeCheck} {arrow : Arrow} {now : Instant}
    {l : Like} (h : t.toWithdraw check arrow now = .ok l) :
    t.likes[arrow]? = some l ∧ l.isDeleted = false ∧ check l now = .ok () := by
  unfold toWithdraw at h
  split at h
  · rename_i l' hl
    split at h
    · cases h
    rename_i hlive
    cases hage : check l' now <;> rw [hage] at h <;> cases h
    exact ⟨hl, by simpa using hlive, hage⟩
  · cases h

theorem Keyed.undone {t : Tables} (h : t.Keyed) {arrow : Arrow} {l : Like}
    (hl : t.likes[arrow]? = some l) (now ended : Instant) :
    (t.undone arrow l now ended).Keyed where
  like := by
    refine of_set h.like ?_
    rw [Like.withdrawn_arrow]
    exact h.like hl
  matchRow := by
    rw [undone_matchRows]
    cases hend : t.matchToEnd arrow l with
    | none =>
      simp only [matchEnded, hend, Option.map_none]
      exact h.matchRow
    | some m =>
      simp only [matchEnded, hend, Option.map_some]
      exact of_set h.matchRow (h.moved (matchToEnd_eq_some.1 hend).2.1 _ _ _ _)
  block := h.block
  request := h.request
  conversation := by
    rw [undone_conversations]
    split
    · cases hc : t.conversations[PairId.of arrow.actor arrow.target]? with
      | none =>
        rw [Option.map_none, Rows.set_eq_self hc]
        exact h.conversation
      | some c => exact of_set h.conversation (by simpa using h.conversation hc)
    · exact h.conversation

end Tables

namespace Operation

variable {arrow : Arrow} {m : Memory}

theorem perform_endUntouchedMatch_none (h : m.tables.untouchedMatch arrow = none)
    (now : Instant) : (endUntouchedMatch arrow now).perform m = (.ok none, m) := by
  cases hm : m.tables.matchRows[PairId.of arrow.actor arrow.target]? with
  | none => simp [endUntouchedMatch, Work.bind_eq, Work.pure_eq, Work.run, hm]
  | some found =>
    have htouched : ¬(found.state = .active ∧ found.stateChangedAt = found.createdAt) := by
      rintro ⟨hactive, hsince⟩
      rw [Tables.untouchedMatch_eq_some.2 ⟨hm, hactive, hsince⟩] at h
      cases h
    simp [endUntouchedMatch, Work.bind_eq, Work.pure_eq, Work.run, hm, htouched]

theorem perform_endUntouchedMatch (hm : m.tables.Keyed) {found : Match}
    (h : m.tables.untouchedMatch arrow = some found) (now : Instant) :
    (endUntouchedMatch arrow now).perform m =
      (.ok (some (found.moved .unmatched arrow.actor (some .unmatch) now)),
        { m with tables := { m.tables with
          matchRows := m.tables.matchRows.set (.of arrow.actor arrow.target)
            (some (found.moved .unmatched arrow.actor (some .unmatch) now))
          conversations := m.tables.conversations.set (.of arrow.actor arrow.target)
            (m.tables.conversations[PairId.of arrow.actor arrow.target]?.map fun c =>
              c.archiveOnce .unmatch now) } }) := by
  obtain ⟨hstored, hactive, hsince⟩ := Tables.untouchedMatch_eq_some.1 h
  have hid := (hm.matchRow hstored).1
  have hopen : found.state.isTerminal = false := by rw [hactive]; rfl
  have hended : MatchState.unmatched.isTerminal = true := rfl
  have htransition := hm.transition_ending hstored hopen hended (some .unmatch) now
  have hupdate := m.perform_updateMatchState hstored hid .unmatched arrow.actor (some .unmatch) now
  cases hc : m.tables.conversations[PairId.of arrow.actor arrow.target]? with
  | none =>
    simp [endUntouchedMatch, Work.bind_eq, Work.pure_eq, Work.run, hstored, hactive, hsince,
      htransition, Transition.result, hupdate, hc, Tables.setMatch, Rows.set_eq_self hc]
  | some c =>
    by_cases harchived : c.isArchived
    · simp [endUntouchedMatch, Work.bind_eq, Work.pure_eq, Work.run, hstored, hactive, hsince,
        htransition, Transition.result, hupdate, hc, harchived, Conversation.archiveOnce,
        Tables.setMatch, Rows.set_eq_self hc]
    · simp [endUntouchedMatch, Work.bind_eq, Work.pure_eq, Work.run, hstored, hactive, hsince,
        htransition, Transition.result, hupdate, hc, harchived, Conversation.archiveOnce,
        Tables.setMatch, Memory.perform_archiveConversation, Tables.setConversation]

/-- The end of the match, if the swipe was a like, in tables that have the swipe withdrawn. -/
theorem perform_endMatch (hm : m.tables.Keyed) {l : Like} (hl : m.tables.likes[arrow]? = some l)
    (now ended : Instant) :
    (if l.direction = .like then endUntouchedMatch arrow ended else Work.done none).perform
        { m with tables := m.tables.setLike arrow (l.withdrawn now) } =
      (.ok (m.tables.matchEnded arrow l ended),
        { m with tables := m.tables.undone arrow l now ended }) := by
  have harrow : l.arrow = arrow := hm.like hl
  have hkeyed : (m.tables.setLike arrow (l.withdrawn now)).Keyed := hm.setLike harrow
  by_cases hlike : l.direction = .like
  · rw [if_pos hlike]
    cases hend : m.tables.untouchedMatch arrow with
    | none =>
      rw [perform_endUntouchedMatch_none
        (m := { m with tables := m.tables.setLike arrow (l.withdrawn now) }) hend]
      simp [Tables.matchEnded, Tables.matchToEnd, hlike, hend, Tables.undone, Tables.setLike]
    | some found =>
      rw [perform_endUntouchedMatch
        (m := { m with tables := m.tables.setLike arrow (l.withdrawn now) }) hkeyed hend]
      simp [Tables.matchEnded, Tables.matchToEnd, hlike, hend, Tables.undone, Tables.setLike]
  · rw [if_neg hlike]
    simp [Tables.matchEnded, Tables.matchToEnd, hlike, Tables.undone, Tables.setLike]

/-- The check is any one here: that of the window has bounds too large to be computed with. -/
theorem perform_undoWork (check : AgeCheck) (hm : m.tables.Keyed) (readings : Readings) :
    (undoWork check arrow readings).perform m =
      match m.tables.toWithdraw check arrow (readings 1) with
      | .error why => (.error why, m)
      | .ok l =>
        (.ok (.commit ⟨l.withdrawn (readings 0), m.tables.matchEnded arrow l (readings 2)⟩),
          { m with tables := m.tables.undone arrow l (readings 0) (readings 2) }) := by
  unfold undoWork Tables.toWithdraw
  cases hl : m.tables.likes[arrow]? with
  | none => simp [Work.bind_eq, Work.run, hl]
  | some l =>
    by_cases hdeleted : l.isDeleted = true
    · simp [Work.bind_eq, Work.run, hl, hdeleted]
    · have hlive : l.isDeleted = false := by simpa using hdeleted
      have hdelete := m.perform_softDeleteLike hl hlive (readings 0)
      have hend := Work.perform_bind_ok (perform_endMatch hm hl (readings 0) (readings 2))
        fun unmatched =>
          Work.done (Ending.commit (UndoResult.mk (l.withdrawn (readings 0)) unmatched))
      simp only [Work.bind_eq, Work.pure_eq, Work.run, Work.call_bind, Work.done_bind,
        Work.perform_call, Memory.perform_getLike, hl, hlive, Bool.false_eq_true, ↓reduceIte]
      rw [Work.perform_bind, Work.perform_ofExcept]
      cases check l (readings 1) with
      | error why => rfl
      | ok _ =>
        simp only [Work.perform_call, hdelete, Except.map]
        by_cases hlike : l.direction = .like
        · rw [if_pos hlike] at hend ⊢
          exact hend
        · rw [if_neg hlike] at hend ⊢
          exact hend

theorem inUnit_undoWork_ok {check : AgeCheck} {readings : Readings} {answer : UndoResult}
    {m' : Memory} (hm : m.tables.Keyed)
    (h : (undoWork check arrow readings).inUnit m = (.ok answer, m')) :
    ∃ l, m.tables.toWithdraw check arrow (readings 1) = .ok l ∧
      answer = ⟨l.withdrawn (readings 0), m.tables.matchEnded arrow l (readings 2)⟩ ∧
      m'.tables = m.tables.undone arrow l (readings 0) (readings 2) := by
  rcases Work.inUnit_ok h with h | ⟨_, h, _⟩ <;> rw [perform_undoWork check hm] at h <;>
    split at h <;> cases h
  rename_i l hl
  exact ⟨l, hl, rfl, rfl⟩

end Operation

end Courtship
