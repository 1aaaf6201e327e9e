import Courtship.Proofs.Lifecycle
import Courtship.Proofs.UndoWindow

/-! Undoing the last swipe, with anything at all going on between the look for that swipe and the
locks. The look settles whose locks are taken; what becomes of the swipe is decided by the tables
that are found under them. -/

namespace Courtship

/-- Whether the swipe is older than a window of so many seconds. -/
def Like.Outlasts (l : Like) (window : Nat) (now : Instant) : Prop :=
  window * nanosPerSecond < now.since l.createdAt

instance (l : Like) (window : Nat) (now : Instant) : Decidable (l.Outlasts window now) :=
  inferInstanceAs (Decidable (_ < _))

/-! ## What becomes of the swipe -/

/-- What taking back the swipe `l` comes to. An active match ends with a like, and its conversation
is archived; nothing else happens to either. -/
structure TakenBack (t : Tables) (arrow : Arrow) (l : Like) (readings : Readings)
    (result : UndoResult) (t' : Tables) : Prop where
  undone : result.undone = { l with deletedAt := some (readings 0) }
  likes : t'.likes = t.likes.set arrow (some result.undone)
  blocks : t'.blocks = t.blocks
  requests : t'.requests = t.requests
  notifications : t'.notifications = t.notifications
  ended : ∀ m, l.direction = .like →
    t.matchRows[PairId.of arrow.actor arrow.target]? = some m → m.state = .active →
      let last : Match := { m with
        state := .unmatched
        endReason := some .unmatch
        endedBy := some arrow.actor
        stateChangedAt := readings 2 }
      result.unmatched = some last ∧
        t'.matchRows = t.matchRows.set (.of arrow.actor arrow.target) (some last) ∧
        ∃ c, t.conversations[PairId.of arrow.actor arrow.target]? = some c ∧
          c.archivedAt = none ∧
          t'.conversations = t.conversations.set (.of arrow.actor arrow.target) (some { c with
            archivedAt := some (readings 2)
            archiveReason := some .unmatch })
  spared : (l.direction = .pass ∨
      ∀ m, t.matchRows[PairId.of arrow.actor arrow.target]? = some m → m.state ≠ .active) →
    result.unmatched = none ∧ t'.matchRows = t.matchRows ∧ t'.conversations = t.conversations

/-- How the undoing of a swipe of `user` comes out, by the swipe that was read before its locks were
asked for and the memory that is found when they are held: its answer and the memory that it
leaves. -/
inductive Withdrawal (window : Nat) (user : UserId) (first second : Readings) (held : Memory) :
    Option Like → Except (Failure EngineError) UndoResult × Memory → Prop
  | nothing : Withdrawal window user first second held none (.error (.error .nothingToUndo), held)
  | late (l : Like) (hlate : l.Outlasts window (first 0)) :
      Withdrawal window user first second held (some l)
        (.error (.error (.undoWindowExpired window)), held)
  | gone (l : Like) (hsoon : ¬l.Outlasts window (first 0))
      (hgone : ∀ current, ¬held.tables.Stands ⟨user, l.toUser⟩ current) :
      Withdrawal window user first second held (some l) (.error (.error .nothingToUndo), held)
  | later (l current : Like) (hsoon : ¬l.Outlasts window (first 0))
      (hstands : held.tables.Stands ⟨user, l.toUser⟩ current)
      (hlate : current.Outlasts window (second 1)) :
      Withdrawal window user first second held (some l)
        (.error (.error (.undoWindowExpired window)), held)
  | conflict (l current : Like) (hsoon : ¬l.Outlasts window (first 0))
      (hstands : held.tables.Stands ⟨user, l.toUser⟩ current)
      (hsoon' : ¬current.Outlasts window (second 1)) (hconflict : held.commitConflicts ≠ 0) :
      Withdrawal window user first second held (some l)
        (.error (.error (.storageConflict Memory.conflictError)),
          { held with commitConflicts := held.commitConflicts - 1 })
  | withdrawn (l current : Like) (result : UndoResult) (t' : Tables)
      (hsoon : ¬l.Outlasts window (first 0))
      (hstands : held.tables.Stands ⟨user, l.toUser⟩ current)
      (hsoon' : ¬current.Outlasts window (second 1)) (hnone : held.commitConflicts = 0)
      (htaken : TakenBack held.tables ⟨user, l.toUser⟩ current second result t') :
      Withdrawal window user first second held (some l) (.ok result, { held with tables := t' })

namespace Operation

variable {settings : MatchingSettings}

/-- The check of a window that is compared with the age of a swipe as it is. -/
def requireWithin (window : Nat) (l : Like) (now : Instant) : Except (Failure EngineError) Unit :=
  if l.Outlasts window now then .error (.error (.undoWindowExpired window)) else .ok ()

theorem requireInWindow_of_checksExactly (h : ChecksExactly settings) :
    requireInWindow settings = requireWithin settings.undoWindowSecs.toNat := by
  have hwindow := checksExactly_iff.1 h
  have hfits : ¬Overlong settings := fun hlong => by have := hlong.1; omega
  rw [overlong_iff, undoWindow_of_lt (by omega)] at hfits
  funext l now
  rw [requireInWindow, undoWindow_of_lt (by omega), if_neg hfits]
  rfl

theorem toWithdraw_of_stands {t : Tables} {arrow : Arrow} {l : Like} (hl : t.Stands arrow l)
    (window : Nat) (now : Instant) :
    t.toWithdraw (requireWithin window) arrow now =
      if l.Outlasts window now then .error (.error (.undoWindowExpired window)) else .ok l := by
  rw [hl.toWithdraw, requireWithin]
  split <;> rfl

theorem toWithdraw_of_gone {t : Tables} {arrow : Arrow} (h : ∀ l, ¬t.Stands arrow l)
    (check : AgeCheck) (now : Instant) :
    t.toWithdraw check arrow now = .error (.error .nothingToUndo) := by
  rw [Tables.toWithdraw]
  cases hl : t.likes[arrow]? with
  | none => rfl
  | some l =>
    have hdeleted : l.isDeleted = true := by
      rw [Like.isDeleted, Option.isSome_iff_ne_none]
      exact fun hlive => h l ⟨hl, hlive⟩
    exact if_pos hdeleted

/-- What the look comes to, with such a check. -/
theorem plan_undoLastSwipe_within (window : Nat) (user : UserId) (readings : Readings)
    (m : Memory) :
    (undoLastSwipe (requireWithin window) user).plan readings m =
      (match m.latestLikeBy user with
        | none => .reject .nothingToUndo
        | some l =>
          if l.Outlasts window (readings 0) then .reject (.undoWindowExpired window)
          else .locked user l.toUser 0 (undoWork (requireWithin window) ⟨user, l.toUser⟩), m) := by
  rw [plan_undoLastSwipe]
  cases m.latestLikeBy user with
  | none => rfl
  | some l =>
    by_cases hlate : l.Outlasts window (readings 0) <;> simp [requireWithin, hlate, Plan.reject]

end Operation

namespace World

variable {settings : Settings}

/-- In a run, an active match is as it was created, and it has an open conversation. So a like that
is taken back ends every active match. -/
theorem takenBack_undone (events : List Event) (arrow : Arrow) (l : Like) (readings : Readings) :
    let t := (run settings events).memory.tables
    TakenBack t arrow l readings
      ⟨l.withdrawn (readings 0), t.matchEnded arrow l (readings 2)⟩
      (t.undone arrow l (readings 0) (readings 2)) := by
  intro t
  refine ⟨rfl, rfl, rfl, rfl, rfl, ?_, ?_⟩
  · intro m hlike hm hactive last
    have hfits := (lawful_run events hm).fits
    simp only [Match.Fits, hactive] at hfits
    obtain ⟨c, hc, hmirrors⟩ := (coupled_run settings events).conversation hm
    have hopen : m.state.isTerminal = false := by rw [hactive]; rfl
    have hend := Tables.matchToEnd_eq_some.2 ⟨hlike, hm, hactive, hfits.2.2⟩
    have hended : t.matchEnded arrow l (readings 2) = some last := by
      rw [Tables.matchEnded, hend]
      rfl
    refine ⟨hended, ?_, c, hc, (hmirrors.shown hopen).1, ?_⟩
    · rw [Tables.undone_matchRows, hended]
    · rw [Tables.undone_conversations, hend, hc, Option.map_some, hmirrors.archiveOnce_open hopen]
      rfl
  · intro hspared
    have hnone := Tables.matchToEnd_eq_none hspared
    simp [Tables.undone_matchRows, Tables.undone_conversations, Tables.matchEnded, hnone]

/-- The unit of the undoing, on the memory that is found under the locks. -/
theorem withdrawal_inUnit {window : Nat} (events : List Event) {user : UserId} {first : Readings}
    (second : Readings) {l : Like} (hsoon : ¬l.Outlasts window (first 0)) :
    Withdrawal window user first second (run settings events).memory (some l)
      ((Operation.undoWork (Operation.requireWithin window) ⟨user, l.toUser⟩ second).inUnit
        (run settings events).memory) := by
  have hkeyed : (run settings events).memory.tables.Keyed := (sound_run events).keyed
  have htaken := @takenBack_undone settings events ⟨user, l.toUser⟩
  -- Of the run that led to the memory nothing else is needed.
  generalize (run settings events).memory = held at hkeyed htaken
  rw [Work.inUnit_eq, Operation.perform_undoWork _ hkeyed]
  by_cases hgone : ∀ current, ¬held.tables.Stands ⟨user, l.toUser⟩ current
  · rw [Operation.toWithdraw_of_gone hgone]
    exact .gone l hsoon hgone
  · obtain ⟨current, hstands⟩ := not_forall_not.1 hgone
    rw [Operation.toWithdraw_of_stands hstands]
    by_cases hlate : current.Outlasts window (second 1)
    · rw [if_pos hlate]
      exact .later l current hsoon hstands hlate
    · rw [if_neg hlate]
      by_cases hnone : held.commitConflicts = 0
      · rw [Memory.settle, if_pos hnone]
        exact .withdrawn l current _ _ hsoon hstands hlate hnone (htaken current second)
      · rw [Memory.settle, if_neg hnone]
        exact .conflict l current hsoon hstands hlate hnone

/-- **Undoing the last swipe is decided by the swipe that is found under the locks.** Let the look
of the operation be taken after any events, and its locks be held after any further ones. The look
comes upon a latest one of the user's swipes that stand, if there are any: upon each of several that
are of one time, by how these are ranked. Whichever it is, the look changes nothing, and it settles
the answer if there is no such swipe or if that one is out of the window. Otherwise the swipe that
is now stored for the same two users is withdrawn if it stands and is in the window; no other swipe
changes. An active match ends with it if it is a like, and nothing else happens to any match or
conversation. -/
theorem undo_decided_under_locks {settings : Settings}
    (hexact : Operation.ChecksExactly settings.matching) (before between : List Event)
    (user : UserId) (first second : Readings) :
    let seen (rank : Arrow → Nat) : Memory := { (run settings before).memory with rank := rank }
    let held := (run settings (before ++ between)).memory
    let window := settings.matching.undoWindowSecs.toNat
    let undo := Operation.undoLastSwipe (Operation.requireInWindow settings.matching) user
    (∀ found : Option Like, (run settings before).memory.tables.IsLatest user found ↔
      ∃ rank, (seen rank).latestLikeBy user = found) ∧
    ∀ rank : Arrow → Nat,
      let planned := undo.plan first (seen rank)
      planned.2 = seen rank ∧
      (∀ l, (seen rank).latestLikeBy user = some l → ¬l.Outlasts window (first 0) →
        ∃ body, planned.1 = .locked user l.toUser 0 body) ∧
      Withdrawal window user first second held ((seen rank).latestLikeBy user)
        (planned.1.finish second held) := by
  rw [Operation.requireInWindow_of_checksExactly hexact]
  intro seen held window undo
  have hkeyed : (run settings before).memory.tables.Keyed := (sound_run before).keyed
  refine ⟨fun found => ⟨hkeyed.exists_rank, ?_⟩, fun rank => ?_⟩
  · rintro ⟨rank, rfl⟩
    exact hkeyed.isLatest_latestLikeBy rank user
  · rw [Operation.plan_undoLastSwipe_within window user first (seen rank)]
    intro planned
    refine ⟨rfl, fun l hlatest hsoon => ?_, ?_⟩
    · simp only [planned, hlatest]
      exact ⟨_, if_neg hsoon⟩
    · cases hlatest : (seen rank).latestLikeBy user with
      | none =>
        simp only [planned, hlatest]
        exact .nothing
      | some l =>
        simp only [planned, hlatest]
        by_cases hlate : l.Outlasts window (first 0)
        · rw [if_pos hlate]
          exact .late l hlate
        · rw [if_neg hlate]
          exact withdrawal_inUnit (before ++ between) second hlate

/-- Two users match, and the first of them passes on a third one, all at one time. -/
def matchedAndPassed : List Event :=
  inTurn .epoch [.swipe ⟨.ofNat 1, .ofNat 2⟩ .like, .swipe ⟨.ofNat 2, .ofNat 1⟩ .like,
    .swipe ⟨.ofNat 1, .ofNat 3⟩ .pass]

/-- The first of them swipes once more on the second one, and passes. -/
def passingAfterwards : List Event := inTurn .epoch [.swipe ⟨.ofNat 1, .ofNat 2⟩ .pass]

/-- The swipes on this user come first. -/
def firstOn (target : UserId) (arrow : Arrow) : Nat := if arrow.target = target then 0 else 1

theorem passingAfterwards_likes :
    let t := (run {} matchedAndPassed).memory.tables
    t.latestLikeBy (firstOn (.ofNat 2)) (.ofNat 1) =
        some (.new (.fresh 0) (.ofNat 1) (.ofNat 2) .like .epoch) ∧
      t.latestLikeBy (firstOn (.ofNat 3)) (.ofNat 1) =
        some (.new (.fresh 2) (.ofNat 1) (.ofNat 3) .pass .epoch) ∧
      (run {} (matchedAndPassed ++ passingAfterwards)).memory.tables.likes[
          (⟨.ofNat 1, .ofNat 2⟩ : Arrow)]? =
        some (.new (.fresh 0) (.ofNat 1) (.ofNat 2) .pass .epoch) ∧
      (run {} (matchedAndPassed ++ passingAfterwards)).memory.commitConflicts = 0 := by
  decide +kernel

/-- Either of the swipes of the one time may be read. If it is the like, it is a pass by the time
that the locks are held. That is withdrawn, and the match stays. -/
theorem undo_decided_under_locks_passed :
    let seen := (run {} matchedAndPassed).memory
    let held := (run {} (matchedAndPassed ++ passingAfterwards)).memory
    let planned := (Operation.undoLastSwipe (Operation.requireInWindow {}) (.ofNat 1)).plan
      (.still .epoch) { seen with rank := firstOn (.ofNat 2) }
    seen.tables.IsLatest (.ofNat 1)
        (some (.new (.fresh 0) (.ofNat 1) (.ofNat 2) .like .epoch)) ∧
      seen.tables.IsLatest (.ofNat 1)
        (some (.new (.fresh 2) (.ofNat 1) (.ofNat 3) .pass .epoch)) ∧
      ∃ (result : UndoResult) (t' : Tables),
        planned.1.finish (.still .epoch) held = (.ok result, { held with tables := t' }) ∧
        result.undone.direction = .pass ∧ result.unmatched = none ∧
        t'.matchRows = held.tables.matchRows := by
  intro seen held planned
  obtain ⟨hlike, hpass, hstored, hnone⟩ := passingAfterwards_likes
  have hexact : Operation.ChecksExactly ({} : Settings).matching :=
    Operation.checksExactly_iff.2 (by decide)
  obtain ⟨hlatest, hundo⟩ := undo_decided_under_locks hexact matchedAndPassed passingAfterwards
    (.ofNat 1) (.still .epoch) (.still .epoch)
  refine ⟨(hlatest _).2 ⟨firstOn (.ofNat 2), hlike⟩, (hlatest _).2 ⟨firstOn (.ofNat 3), hpass⟩, ?_⟩
  obtain ⟨-, -, h⟩ := hundo (firstOn (.ofNat 2))
  change Withdrawal _ _ _ _ held (seen.tables.latestLikeBy (firstOn (.ofNat 2)) (.ofNat 1))
    (planned.1.finish (.still .epoch) held) at h
  rw [hlike] at h
  generalize planned.1.finish (.still .epoch) held = come at h ⊢
  cases h with
  | late _ hlate => exact absurd hlate (by decide)
  | gone _ hsoon hgone => exact absurd ⟨hstored, rfl⟩ (hgone _)
  | later _ current hsoon hstands hlate =>
    have hcurrent := hstands.stored.symm.trans hstored
    cases hcurrent
    exact absurd hlate (by decide)
  | conflict _ current hsoon hstands hsoon' hconflict => exact absurd hnone hconflict
  | withdrawn _ current result t' hsoon hstands hsoon' hnone htaken =>
    have hcurrent := hstands.stored.symm.trans hstored
    cases hcurrent
    obtain ⟨hover, hmatches, -⟩ := htaken.spared (.inl rfl)
    exact ⟨result, t', rfl, by rw [htaken.undone]; rfl, hover, hmatches⟩

end World

end Courtship
