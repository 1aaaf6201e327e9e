import Courtship.Proofs.Drafts

/-! The window in which a swipe can be undone, held against exact integers. The check is right as
long as the window fits the longest length of time; from there on it overflows, and the largest
windows are read as negative numbers. -/

namespace Courtship

/-! ## Ages -/

namespace Instant

/-- Nanoseconds since 1970-01-01T00:00:00Z, leap seconds aside. -/
def unixNanos (t : Instant) : Int := t.seconds * nanosPerSecond + t.nanos

theorem since_eq_sub {t u : Instant} (ht : t.isLeap = false) (hu : u.isLeap = false) :
    t.since u = t.unixNanos - u.unixNanos := by
  simp only [since, ht, hu, Bool.false_eq_true, and_false, ↓reduceIte, unixNanos, nanosPerSecond]
  omega

end Instant

/-- Nanoseconds from the swipe to `now`; negative if it lies ahead. -/
def Like.age (l : Like) (now : Instant) : Int := now.unixNanos - l.createdAt.unixNanos

theorem signed_of_lt {n : Nat} (h : n < 2 ^ 63) : (n : Int).bmod UInt64.size = n := by
  have hsize : UInt64.size = 2 ^ 64 := rfl
  rw [hsize]
  exact Int.bmod_eq_of_le (by omega) (by omega)

theorem signed_of_ge {n : Nat} (h : 2 ^ 63 ≤ n) (hn : n < 2 ^ 64) :
    (n : Int).bmod UInt64.size = n - 18446744073709551616 := by
  have hsize : UInt64.size = 2 ^ 64 := rfl
  rw [hsize, Int.bmod_def]
  omega

namespace Operation

variable {settings : MatchingSettings}

/-- The check of the window in exact integers. A swipe of the age of the window is still in it. -/
def requireYoung (settings : MatchingSettings) (l : Like) (now : Instant) :
    Except (Failure EngineError) Unit :=
  if settings.undoWindowSecs.toNat * nanosPerSecond < l.age now then
    .error (.error (.undoWindowExpired settings.undoWindowSecs.toNat))
  else .ok ()

/-- Leap seconds aside, the check of the window is the one in exact integers. -/
def ChecksExactly (settings : MatchingSettings) : Prop :=
  ∀ (l : Like) (now : Instant), now.isLeap = false → l.createdAt.isLeap = false →
    requireInWindow settings l now = requireYoung settings l now

/-! ## The three ranges of the word -/

theorem undoWindow_of_lt (h : settings.undoWindowSecs.toNat < 2 ^ 63) :
    undoWindow settings = settings.undoWindowSecs.toNat := signed_of_lt h

theorem undoWindow_of_ge (h : 2 ^ 63 ≤ settings.undoWindowSecs.toNat) :
    undoWindow settings = settings.undoWindowSecs.toNat - 18446744073709551616 :=
  signed_of_ge h settings.undoWindowSecs.toNat_lt

/-- The window is no length of time: it is too long, as it stands or as a negative number. -/
def Overlong (settings : MatchingSettings) : Prop :=
  9223372036854776 ≤ settings.undoWindowSecs.toNat ∧
    settings.undoWindowSecs.toNat ≤ 18437520701672696840

theorem overlong_iff :
    Overlong settings ↔
      longestSpan < undoWindow settings ∨ undoWindow settings < -longestSpan := by
  have hword : settings.undoWindowSecs.toNat < 2 ^ 64 := settings.undoWindowSecs.toNat_lt
  rw [Overlong, longestSpan]
  rcases Nat.lt_or_ge settings.undoWindowSecs.toNat (2 ^ 63) with hsmall | hlarge
  · rw [undoWindow_of_lt hsmall]
    omega
  · rw [undoWindow_of_ge hlarge]
    omega

theorem requireInWindow_of_overlong (h : Overlong settings) (l : Like) (now : Instant) :
    requireInWindow settings l now = .error .overflow := by
  rw [requireInWindow, if_pos (overlong_iff.1 h)]

/-- A window that is not too long is compared as the signed number that it is read as. -/
theorem requireInWindow_of_not_overlong (h : ¬Overlong settings) {l : Like} {now : Instant}
    (hnow : now.isLeap = false) (hthen : l.createdAt.isLeap = false) :
    requireInWindow settings l now =
      if undoWindow settings * nanosPerSecond < l.age now then
        .error (.error (.undoWindowExpired settings.undoWindowSecs.toNat))
      else .ok () := by
  rw [overlong_iff] at h
  rw [requireInWindow, Instant.since_eq_sub hnow hthen, if_neg h]
  rfl

theorem requireInWindow_eq_requireYoung
    (hwindow : settings.undoWindowSecs.toNat ≤ 9223372036854775) : ChecksExactly settings := by
  intro l now hnow hthen
  have hfits : ¬Overlong settings := fun h => by have := h.1; omega
  rw [requireInWindow_of_not_overlong hfits hnow hthen, undoWindow_of_lt (by omega), requireYoung]

/-- A negative window lets no fresh swipe be undone. -/
theorem requireInWindow_fresh (h : 18437520701672696841 ≤ settings.undoWindowSecs.toNat) {l : Like}
    (hthen : l.createdAt.isLeap = false) :
    requireInWindow settings l l.createdAt =
      .error (.error (.undoWindowExpired settings.undoWindowSecs.toNat)) := by
  have hword : settings.undoWindowSecs.toNat < 2 ^ 64 := settings.undoWindowSecs.toNat_lt
  have hfits : ¬Overlong settings := fun h => by have := h.2; omega
  have hage : l.age l.createdAt = 0 := Int.sub_self _
  rw [requireInWindow_of_not_overlong hfits hthen hthen, undoWindow_of_ge (by omega), hage, if_pos]
  rw [nanosPerSecond]
  omega

/-- A swipe at the epoch. -/
def swipeAtEpoch : Like := .new (.fresh 0) (.ofNat 1) (.ofNat 2) .pass .epoch

theorem requireYoung_fresh (settings : MatchingSettings) (l : Like) :
    requireYoung settings l l.createdAt = .ok () := by
  have hage : l.age l.createdAt = 0 := Int.sub_self _
  rw [requireYoung, hage, if_neg]
  rw [nanosPerSecond]
  omega

theorem checksExactly_iff :
    ChecksExactly settings ↔ settings.undoWindowSecs.toNat ≤ 9223372036854775 := by
  refine ⟨fun hexact => ?_, requireInWindow_eq_requireYoung⟩
  by_contra hlong
  have hfresh := (hexact swipeAtEpoch .epoch rfl rfl).trans
    (requireYoung_fresh settings swipeAtEpoch)
  rcases Nat.lt_or_ge settings.undoWindowSecs.toNat 18437520701672696841 with h | h
  · rw [requireInWindow_of_overlong ⟨by omega, by omega⟩] at hfresh
    cases hfresh
  · cases (requireInWindow_fresh (l := swipeAtEpoch) h rfl).symm.trans hfresh

/-! ## The operation -/

/-- What undoing the last swipe comes to, with this check of its age: once before the locks of the
users are asked for and once more when they are held. -/
def undoAnswer (check : AgeCheck) (user : UserId) (first second : Readings) (m : Memory) :
    Except (Failure EngineError) UndoResult :=
  match m.latestLikeBy user with
  | none => .error (.error .nothingToUndo)
  | some l => do
    check l (first 0)
    check l (second 1)
    if m.commitConflicts = 0 then
      .ok ⟨l.withdrawn (second 0), m.tables.matchEnded ⟨user, l.toUser⟩ l (second 2)⟩
    else .error (.error (.storageConflict (.conflict "simulated commit conflict")))

theorem run_undoLastSwipe (check : AgeCheck) {m : Memory} (hm : m.tables.Keyed) (user : UserId)
    (first second : Readings) :
    ((undoLastSwipe check user).run first second m).1 = undoAnswer check user first second m := by
  rw [run, plan_undoLastSwipe, undoAnswer]
  cases hlatest : m.latestLikeBy user with
  | none => rfl
  | some l =>
    have hunit := Command.perform_undoWork_latest check hm hlatest second
    cases hbefore : check l (first 0) with
    | error why =>
      simp only [hbefore]
      rfl
    | ok _ =>
      simp only [hbefore, Plan.finish, Plan.attempts, Work.inUnit_eq, hunit]
      cases hthen : check l (second 1) with
      | error why => rfl
      | ok _ =>
        simp only [Memory.settle]
        split <;> rfl

/-- Only the last swipe is ever checked, against two readings. -/
theorem undoAnswer_congr {check check' : AgeCheck}
    {user : UserId} {first second : Readings} {m : Memory}
    (h : ∀ l, m.latestLikeBy user = some l →
      check l (first 0) = check' l (first 0) ∧ check l (second 1) = check' l (second 1)) :
    undoAnswer check user first second m = undoAnswer check' user first second m := by
  cases hlatest : m.latestLikeBy user with
  | none => simp only [undoAnswer, hlatest]
  | some l =>
    obtain ⟨hfirst, hsecond⟩ := h l hlatest
    simp only [undoAnswer, hlatest, hfirst, hsecond]

/-- A check that fails at first ends the operation. -/
theorem undoAnswer_of_error {check : AgeCheck}
    {user : UserId} {first second : Readings} {m : Memory} {l : Like} {why : Failure EngineError}
    (hlatest : m.latestLikeBy user = some l) (h : check l (first 0) = .error why) :
    undoAnswer check user first second m = .error why := by
  simp only [undoAnswer, hlatest, h]
  rfl

/-- **The check of the undo window is exact for windows of up to 9223372036854775 seconds, and for
no others.** Up to there, undoing the last swipe is refused exactly when the swipe is older than the
window, by exact integers, at one of the two times that it is looked at. Any longer window
overflows, whatever the swipe, up to those that the word makes negative; these refuse even a swipe
of this very moment. -/
theorem undo_window_exact_iff (settings : MatchingSettings) :
    let window := settings.undoWindowSecs.toNat
    (ChecksExactly settings ↔ window ≤ 9223372036854775) ∧
    (∀ (m : Memory) (user : UserId) (first second : Readings), m.tables.Keyed →
      (first 0).isLeap = false → (second 1).isLeap = false →
      (∀ l, m.latestLikeBy user = some l → l.createdAt.isLeap = false) →
      window ≤ 9223372036854775 →
        ((undoLastSwipe (requireInWindow settings) user).run first second m).1 =
          undoAnswer (requireYoung settings) user first second m) ∧
    (∀ (m : Memory) (user : UserId) (first second : Readings) (l : Like), m.tables.Keyed →
      m.latestLikeBy user = some l →
      (9223372036854776 ≤ window ∧ window ≤ 18437520701672696840 →
        ((undoLastSwipe (requireInWindow settings) user).run first second m).1 = .error .overflow) ∧
      (l.createdAt.isLeap = false → first 0 = l.createdAt → 18437520701672696841 ≤ window →
        ((undoLastSwipe (requireInWindow settings) user).run first second m).1 =
          .error (.error (.undoWindowExpired window)))) := by
  refine ⟨checksExactly_iff, ?_, ?_⟩
  · intro m user first second hm hfirst hsecond hthen hwindow
    rw [run_undoLastSwipe _ hm]
    have hexact := requireInWindow_eq_requireYoung hwindow
    exact undoAnswer_congr fun l hlatest =>
      ⟨hexact l _ hfirst (hthen l hlatest), hexact l _ hsecond (hthen l hlatest)⟩
  · intro m user first second l hm hlatest
    rw [run_undoLastSwipe _ hm]
    refine ⟨fun hoverlong => ?_, fun hthen hnow hnegative => ?_⟩
    · exact undoAnswer_of_error hlatest (requireInWindow_of_overlong hoverlong l _)
    · refine undoAnswer_of_error hlatest ?_
      rw [hnow]
      exact requireInWindow_fresh hnegative hthen

/-- A memory that holds this one swipe. -/
def swipedOnce : Memory :=
  { Memory.empty with tables := Tables.empty.setLike swipeAtEpoch.arrow swipeAtEpoch }

theorem swipedOnce_keyed : swipedOnce.tables.Keyed := Tables.keyed_empty.setLike rfl

theorem swipedOnce_latest : swipedOnce.latestLikeBy (.ofNat 1) = some swipeAtEpoch := by
  decide +kernel

theorem undo_window_exact_at_bound :
    let atBound : Instant := ⟨30, 0, by decide, by decide, by decide⟩
    let behind : Instant := ⟨30, 1, by decide, by decide, by decide⟩
    let undo (window : UInt64) (now : Instant) :=
      ((undoLastSwipe (requireInWindow { undoWindowSecs := window }) (.ofNat 1)).run (.still now)
        (.still now) swipedOnce).1
    undo 30 atBound = .ok ⟨swipeAtEpoch.withdrawn atBound, none⟩ ∧
    undo 30 behind = .error (.error (.undoWindowExpired 30)) ∧
    undo 9223372036854776 .epoch = .error .overflow ∧
    undo 18446744073709551615 .epoch =
      .error (.error (.undoWindowExpired 18446744073709551615)) := by
  intro atBound behind undo
  have hthen : ∀ l, swipedOnce.latestLikeBy (.ofNat 1) = some l →
      l.createdAt.isLeap = false := by
    intro l h
    rw [swipedOnce_latest] at h
    cases h
    rfl
  have hexact (now : Instant) (hnow : now.isLeap = false) :=
    (undo_window_exact_iff {}).2.1 swipedOnce (.ofNat 1) (.still now) (.still now)
      swipedOnce_keyed hnow hnow hthen (by decide)
  have hlong (window : UInt64) := (undo_window_exact_iff { undoWindowSecs := window }).2.2
    swipedOnce (.ofNat 1) (.still .epoch) (.still .epoch) swipeAtEpoch swipedOnce_keyed
    swipedOnce_latest
  refine ⟨(hexact atBound rfl).trans ?_, (hexact behind rfl).trans ?_, ?_, ?_⟩
  · rw [undoAnswer, swipedOnce_latest]
    rfl
  · rw [undoAnswer, swipedOnce_latest]
    rfl
  · exact (hlong 9223372036854776).1 (by decide)
  · exact (hlong 18446744073709551615).2 rfl rfl (by decide)

/-- The largest word is read as a window of -1 seconds. -/
theorem not_every_undo_window_exact :
    let settings : MatchingSettings := { undoWindowSecs := 18446744073709551615 }
    requireYoung settings swipeAtEpoch .epoch = .ok () ∧
    requireInWindow settings swipeAtEpoch .epoch =
      .error (.error (.undoWindowExpired 18446744073709551615)) ∧
    ¬∀ settings : MatchingSettings, ChecksExactly settings := by
  intro settings
  refine ⟨requireYoung_fresh settings swipeAtEpoch, ?_, fun hall => ?_⟩
  · exact requireInWindow_fresh (by decide) rfl
  · exact absurd (checksExactly_iff.1 (hall settings)) (by decide)

end Operation

end Courtship
