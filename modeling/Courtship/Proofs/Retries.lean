import Courtship.Proofs.Drafts

/-! Commits that fail with a conflict, and the units that are run again for them. A swipe that comes
through after some conflicts comes to what it would have come to without them. -/

namespace Courtship

/-! ## Units that are tried again -/

section Tries

variable {σ υ α : Type} [Storage σ υ]

/-- So many units of this body one after the other, each but the last ended by a conflict; with the
result of the last and the state that it leaves. -/
inductive Tried (body : Readings → Work (Ending α)) :
    Nat → Readings → σ → Except (Failure EngineError) α × σ → Prop
  | last (readings : Readings) (s : σ) : Tried body 1 readings s ((body readings).inUnit s)
  | again {units : Nat} {readings : Readings} {s s' : σ} {e : StorageError}
      {outcome : Except (Failure EngineError) α × σ}
      (hconflict : (body readings).inUnit s = (.error (.error (.storageConflict e)), s'))
      (hrest : Tried body units readings.later s' outcome) :
      Tried body (units + 1) readings s outcome

namespace Tried

variable {body : Readings → Work (Ending α)} {units : Nat} {readings : Readings} {s : σ}
  {outcome : Except (Failure EngineError) α × σ}

theorem pos (h : Tried body units readings s outcome) : 0 < units := by
  cases h <;> omega

/-- Units that use up the retries, or of which the last does not end in a conflict, are the ones
that are run. -/
theorem attempts_eq (h : Tried body units readings s outcome) {retries : Nat}
    (hmost : units ≤ retries + 1)
    (hearly : units ≤ retries → ∀ e, outcome.1 ≠ .error (.error (.storageConflict e))) :
    Plan.attempts body retries readings s = outcome := by
  induction h generalizing retries with
  | last readings s =>
    cases retries with
    | zero => rfl
    | succ retries => exact Plan.attempts_of_no_conflict (hearly (by omega)) _
  | again hconflict hrest ih =>
    cases retries with
    | zero =>
      have hpos := hrest.pos
      omega
    | succ retries =>
      rw [Plan.attempts_of_conflict hconflict]
      exact ih (by omega) fun h => hearly (by omega)

end Tried

theorem tried_attempts (body : Readings → Work (Ending α)) (retries : Nat) (readings : Readings)
    (s : σ) :
    ∃ units ≤ retries + 1, Tried body units readings s (Plan.attempts body retries readings s) ∧
      (units ≤ retries →
        ∀ e, (Plan.attempts body retries readings s).1 ≠ .error (.error (.storageConflict e))) := by
  -- A further unit begins where a conflict left the storage, and with later readings.
  induction retries generalizing readings s with
  | zero => exact ⟨1, Nat.le_refl 1, .last readings s, fun h => absurd h (by decide)⟩
  | succ retries ih =>
    by_cases hconflict : ∃ e, ((body readings).inUnit s).1 = .error (.error (.storageConflict e))
    · obtain ⟨e, hconflict⟩ := hconflict
      have hunit : (body readings).inUnit s =
          (.error (.error (.storageConflict e)), ((body readings).inUnit s).2) :=
        Prod.ext hconflict rfl
      obtain ⟨units, hmost, htried, hearly⟩ := ih readings.later ((body readings).inUnit s).2
      rw [Plan.attempts_of_conflict hunit]
      exact ⟨units + 1, by omega, .again hunit htried, fun h => hearly (by omega)⟩
    · rw [Plan.attempts_of_no_conflict (not_exists.1 hconflict)]
      exact ⟨1, by omega, .last readings s, fun _ => not_exists.1 hconflict⟩

end Tries

/-! ## Counting units -/

/-- A storage together with the number of units begun on it. -/
structure Counted (σ : Type) where
  store : σ
  begun : Nat

section Count

variable {σ υ α : Type}

instance [OpenUnit υ] : OpenUnit (Counted υ) where
  mint u := (OpenUnit.mint u.store).map id fun store => ⟨store, u.begun⟩
  perform u c := (OpenUnit.perform u.store c).map id fun store => ⟨store, u.begun⟩

instance [Storage σ υ] : Storage (Counted σ) (Counted υ) where
  name s := Storage.name s.store
  checkHealth s := (Storage.checkHealth s.store).map id fun store => ⟨store, s.begun⟩
  start s :=
    match Storage.start s.store with
    | .error (e, store) => .error (e, ⟨store, s.begun + 1⟩)
    | .ok unit => .ok ⟨unit, s.begun + 1⟩
  commit u := (Storage.commit u.store).map id fun store => ⟨store, u.begun⟩
  discard u := ⟨Storage.discard u.store, u.begun⟩

namespace Work

theorem perform_counted [OpenUnit υ] (w : Work α) (u : υ) (begun : Nat) :
    w.perform (⟨u, begun⟩ : Counted υ) = (w.perform u).map id fun u => ⟨u, begun⟩ := by
  induction w generalizing u with
  | done a => rfl
  | fail why => rfl
  | newId next ih => exact ih _ _
  | call c next ih =>
    rcases hcall : OpenUnit.perform u c with ⟨why | reply, u'⟩
    · simp [perform, OpenUnit.perform, hcall]
    · simp only [perform, OpenUnit.perform, hcall]
      exact ih reply u'

/-- A unit is begun once, whatever comes of it. -/
theorem inUnit_counted [Storage σ υ] (w : Work (Ending α)) (s : σ) (begun : Nat) :
    w.inUnit (⟨s, begun⟩ : Counted σ) = (w.inUnit s).map id fun s => ⟨s, begun + 1⟩ := by
  rcases hstart : Storage.start s with ⟨e, s'⟩ | u
  · simp [inUnit, Storage.start, hstart]
  · simp only [inUnit, Storage.start, hstart, perform_counted]
    rcases w.perform u with ⟨why | a | a, u'⟩
    · rfl
    · simp only [Prod.map, id]
      rcases hcommit : Storage.commit u' with ⟨e | _, s'⟩ <;>
        simp [Storage.commit, hcommit]
    · rfl

end Work

/-- As many units are begun as are tried. -/
theorem Tried.counted [Storage σ υ] {body : Readings → Work (Ending α)} {units : Nat}
    {readings : Readings} {s : σ} {outcome : Except (Failure EngineError) α × σ}
    (h : Tried body units readings s outcome) (begun : Nat) :
    Tried body units readings (⟨s, begun⟩ : Counted σ)
      (outcome.1, ⟨outcome.2, begun + units⟩) := by
  induction h generalizing begun with
  | last readings s =>
    have hunit := (body readings).inUnit_counted s begun
    have hlast : Tried body 1 readings (⟨s, begun⟩ : Counted σ) _ := .last readings _
    rw [hunit] at hlast
    exact hlast
  | @again units readings s s' e outcome hconflict hrest ih =>
    have hunit := (body readings).inUnit_counted s begun
    rw [hconflict] at hunit
    have hnext := ih (begun + 1)
    rw [Nat.add_right_comm, Nat.add_assoc] at hnext
    exact .again hunit hnext

end Count

/-! ## Swipes in memory -/

namespace Tables

variable (t : Tables) (arrow : Arrow) (direction : Direction) (now : Instant)

/-- The identifiers that so many units of a swipe take: one each, if it is not stored yet. -/
def taken (units : Nat) : Nat := if t.likes.contains arrow then 0 else units

theorem taken_add (first second : Nat) :
    t.taken arrow (first + second) = t.taken arrow first + t.taken arrow second := by
  unfold taken
  split <;> rfl

/-- Nothing but the identifier of the swipe hangs on the one that it is offered. -/
theorem upserted_eq_with_id (id offered : Uuid) :
    t.upserted arrow direction now offered =
      { t.upserted arrow direction now id with
        id := (t.upserted arrow direction now offered).id } := by
  unfold upserted
  split <;> rfl

theorem swipeResult_eq_with_id (id offered : Uuid) :
    t.swipeResult arrow direction now offered =
      { t.swipeResult arrow direction now id with
        like := { t.upserted arrow direction now id with
          id := (t.upserted arrow direction now offered).id } } := by
  rw [← upserted_eq_with_id]
  rfl

theorem swiped_eq_with_id (id offered : Uuid) :
    t.swiped arrow direction now offered =
      { t.swiped arrow direction now id with
        likes := (t.swiped arrow direction now id).likes.set arrow
          (some { t.upserted arrow direction now id with
            id := (t.upserted arrow direction now offered).id }) } := by
  rw [← upserted_eq_with_id, swiped_likes, Rows.set_set]
  rfl

theorem upserted_id_of_not_contains (h : t.likes.contains arrow = false) (offered : Uuid) :
    (t.upserted arrow direction now offered).id = offered := by
  rw [Rows.contains_eq, Option.isSome_eq_false_iff, Option.isNone_iff_eq_none] at h
  simp only [upserted, h, Like.new]

end Tables

namespace Operation

variable {arrow : Arrow} {m : Memory}

theorem perform_swipeWork_open (hne : arrow.actor ≠ arrow.target)
    (hopen : m.tables.swipeRefusal arrow = none) (direction : Direction) (now : Instant) :
    (swipeWork arrow direction now).perform m =
      (.ok (.commit (m.tables.swipeResult arrow direction now (.fresh m.minted))), { m with
        tables := m.tables.swiped arrow direction now (.fresh m.minted)
        minted := m.minted + m.tables.taken arrow 1 }) := by
  rw [perform_swipeWork hne, hopen]
  unfold Tables.taken
  by_cases hstored : m.tables.likes.contains arrow <;> simp [hstored]

/-- A unit that meets a conflict leaves the tables as they were, and has used the conflict up. -/
theorem inUnit_swipeWork_conflict (hne : arrow.actor ≠ arrow.target)
    (hopen : m.tables.swipeRefusal arrow = none) (h : m.commitConflicts ≠ 0)
    (direction : Direction) (now : Instant) :
    (swipeWork arrow direction now).inUnit m =
      (.error (.error (.storageConflict Memory.conflictError)), { m with
        commitConflicts := m.commitConflicts - 1
        minted := m.minted + m.tables.taken arrow 1 }) := by
  rw [Work.inUnit_eq, perform_swipeWork_open hne hopen]
  exact if_neg h

theorem attempts_swipeWork_refused (hne : arrow.actor ≠ arrow.target) {e : EngineError}
    (hrefusal : m.tables.swipeRefusal arrow = some e) (direction : Direction) (now : Instant)
    (retries : Nat) :
    Plan.attempts (fun readings => swipeWork arrow direction (readings 0)) retries (.still now) m =
      (.error (.error e), m) :=
  attempts_refused (inUnit_swipeWork_refused hne hrefusal direction now)
    (swipeRefusal_ne_storageConflict hrefusal) retries

/-- A swipe with fewer conflicts ahead than it has units comes through. -/
theorem attempts_swipeWork_ok (hne : arrow.actor ≠ arrow.target)
    (hopen : m.tables.swipeRefusal arrow = none) (direction : Direction) (now : Instant)
    {retries : Nat} (h : m.commitConflicts ≤ retries) :
    let id := Uuid.fresh (m.minted + m.tables.taken arrow m.commitConflicts)
    Plan.attempts (fun readings => swipeWork arrow direction (readings 0)) retries (.still now) m =
      (.ok (m.tables.swipeResult arrow direction now id), { m with
        tables := m.tables.swiped arrow direction now id
        commitConflicts := 0
        minted := m.minted + m.tables.taken arrow (m.commitConflicts + 1) }) := by
  obtain ⟨t, rejects, conflicts, minted, rank⟩ := m
  dsimp only at hopen h ⊢
  -- A unit before the last uses up a conflict and maybe an identifier; the tables stay the same.
  induction conflicts generalizing retries minted with
  | zero =>
    have hzero : t.taken arrow 0 = 0 := by simp [Tables.taken]
    have hunit := Work.inUnit_of_commit
      (perform_swipeWork_open (m := ⟨t, rejects, 0, minted, rank⟩) hne hopen direction now) rfl
    rw [hzero, Plan.attempts_of_no_conflict (by simp [hunit])]
    exact hunit
  | succ conflicts ih =>
    cases retries with
    | zero => omega
    | succ retries =>
      have hunit := inUnit_swipeWork_conflict (m := ⟨t, rejects, conflicts + 1, minted, rank⟩) hne
        hopen (Nat.succ_ne_zero conflicts) direction now
      rw [Plan.attempts_of_conflict hunit]
      have hrest := ih (minted + t.taken arrow 1) (Nat.le_of_succ_le_succ h)
      simp only [Nat.add_assoc, ← Tables.taken_add, Nat.add_comm 1] at hrest
      exact hrest

/-- A swipe with as many conflicts ahead as it has units gives up. -/
theorem attempts_swipeWork_conflict (hne : arrow.actor ≠ arrow.target)
    (hopen : m.tables.swipeRefusal arrow = none) (direction : Direction) (now : Instant)
    {retries : Nat} (h : retries < m.commitConflicts) :
    Plan.attempts (fun readings => swipeWork arrow direction (readings 0)) retries (.still now) m =
      (.error (.error (.storageConflict Memory.conflictError)), { m with
        commitConflicts := m.commitConflicts - (retries + 1)
        minted := m.minted + m.tables.taken arrow (retries + 1) }) := by
  induction retries generalizing m with
  | zero => exact inUnit_swipeWork_conflict hne hopen (by omega) direction now
  | succ retries ih =>
    have hunit := inUnit_swipeWork_conflict (m := m) hne hopen (by omega) direction now
    rw [Plan.attempts_of_conflict hunit]
    have hrest := ih (m := { m with
      commitConflicts := m.commitConflicts - 1
      minted := m.minted + m.tables.taken arrow 1 }) hopen (Nat.lt_sub_of_add_lt h)
    simp only [Nat.add_assoc, ← Tables.taken_add, Nat.sub_sub, Nat.add_comm 1] at hrest
    exact hrest

/-- **A swipe is run again after a conflict, and only then.** In memory, a swipe that is turned down
uses up no conflict and changes nothing. Any other comes to the same with some conflicts ahead as
with none, but for the identifier of a new swipe, as long as they are no more than the retries; and
else it fails with a conflict, has used up one for each of its units and leaves the tables alone. On
any storage it begins one unit more than there are retries at most, each further one after a
conflict, and its result is that of the last. -/
theorem swipe_retried (settings : MatchingSettings) {arrow : Arrow}
    (hne : arrow.actor ≠ arrow.target) (direction : Direction) :
    let retries := settings.conflictRetries.toNat
    let op := swipe settings arrow direction
    (∀ (m : Memory) (now : Instant),
      let stored := m.tables.matchRows[PairId.of arrow.actor arrow.target]?
      let swiping (conflicts : Nat) :=
        op.run (.still now) (.still now) { m with commitConflicts := conflicts }
      ((m.tables.isBlocked arrow.actor arrow.target = true ∨
          ∃ found, stored = some found ∧ found.state.isTerminal = true) →
        ∃ e, m.tables.swipeRefusal arrow = some e ∧
          ∀ conflicts, swiping conflicts =
            (.error (.error e), { m with commitConflicts := conflicts })) ∧
      ((m.tables.isBlocked arrow.actor arrow.target = false ∧
          ∀ found, stored = some found → found.state.isTerminal = false) →
        ∀ conflicts,
          (conflicts ≤ retries → ∃ (result : SwipeResult) (after : Memory) (id : Uuid),
            let like : Like := { result.like with id := id }
            swiping 0 = (.ok result, after) ∧
            after.tables.likes[arrow]? = some result.like ∧ after.commitConflicts = 0 ∧
            swiping conflicts = (.ok { result with like := like }, { after with
              tables := { after.tables with likes := after.tables.likes.set arrow (some like) }
              minted := after.minted + m.tables.taken arrow conflicts }) ∧
            (m.tables.likes.contains arrow = true → id = result.like.id) ∧
            (m.tables.likes.contains arrow = false →
              result.like.id = .fresh m.minted ∧ id = .fresh (m.minted + conflicts))) ∧
          (retries < conflicts → swiping conflicts =
            (.error (.error (.storageConflict Memory.conflictError)), { m with
              commitConflicts := conflicts - (retries + 1)
              minted := m.minted + m.tables.taken arrow (retries + 1) })))) ∧
    ∀ {σ υ : Type} [Storage σ υ] (s : σ) (first second : Readings),
      ∃ units ≤ retries + 1,
        Tried (fun readings => swipeWork arrow direction (readings 0)) units second s
          (op.run first second s) ∧
        (units ≤ retries →
          ∀ e, (op.run first second s).1 ≠ .error (.error (.storageConflict e))) ∧
        ∀ begun, op.run first second (⟨s, begun⟩ : Counted σ) =
          ((op.run first second s).1, ⟨(op.run first second s).2, begun + units⟩) := by
  intro retries op
  refine ⟨fun m now => ?_, fun s first second => ?_⟩
  · intro stored swiping
    have hswiping : ∀ conflicts, swiping conflicts = _ := fun conflicts =>
      run_swipe settings hne direction (.still now) (.still now)
        { m with commitConflicts := conflicts }
    refine ⟨fun hbarred => ?_, fun hfree conflicts => ⟨fun hfew => ?_, fun hmany => ?_⟩⟩
    · cases hrefusal : m.tables.swipeRefusal arrow with
      | none =>
        obtain ⟨hunblocked, hlive⟩ := Tables.swipeRefusal_eq_none.1 hrefusal
        rcases hbarred with hblocked | ⟨found, hfound, hended⟩
        · rw [hunblocked] at hblocked
          cases hblocked
        · rw [hlive found hfound] at hended
          cases hended
      | some e =>
        refine ⟨e, rfl, fun conflicts => ?_⟩
        exact (hswiping conflicts).trans (attempts_swipeWork_refused
          (m := { m with commitConflicts := conflicts }) hne hrefusal direction now _)
    · have hopen := Tables.swipeRefusal_eq_none.2 hfree
      have hplain := attempts_swipeWork_ok (m := { m with commitConflicts := 0 }) hne hopen
        direction now (Nat.zero_le retries)
      have hdisturbed := attempts_swipeWork_ok (m := { m with commitConflicts := conflicts }) hne
        hopen direction now hfew
      refine ⟨_, _, (m.tables.upserted arrow direction now
          (.fresh (m.minted + m.tables.taken arrow conflicts))).id, (hswiping 0).trans hplain, ?_,
        rfl, (hswiping conflicts).trans (hdisturbed.trans ?_), fun hstored => ?_, fun hnew => ?_⟩
      · simp [Tables.swipeResult]
      · rw [Tables.swipeResult_eq_with_id _ _ _ _ (.fresh (m.minted + m.tables.taken arrow 0)),
          Tables.swiped_eq_with_id _ _ _ _ (.fresh (m.minted + m.tables.taken arrow 0)),
          Nat.zero_add, Nat.add_comm conflicts 1, Tables.taken_add, ← Nat.add_assoc]
        rfl
      · rw [m.tables.upserted_of_contains hstored]
        rfl
      · simp [Tables.swipeResult, Tables.upserted_id_of_not_contains _ _ _ _ hnew, Tables.taken,
          hnew]
    · have hopen := Tables.swipeRefusal_eq_none.2 hfree
      exact (hswiping conflicts).trans (attempts_swipeWork_conflict
        (m := { m with commitConflicts := conflicts }) hne hopen direction now hmany)
  · simp only [op, run_swipe settings hne]
    obtain ⟨units, hmost, htried, hearly⟩ :=
      tried_attempts (fun readings => swipeWork arrow direction (readings 0)) retries second s
    refine ⟨units, hmost, htried, hearly, fun begun => ?_⟩
    exact (htried.counted begun).attempts_eq hmost hearly

/-- With three retries, a new swipe comes through three conflicts and takes the fourth identifier. A
fourth conflict is one too many. -/
theorem swipe_retried_three :
    let swiping (conflicts : Nat) := (swipe {} ⟨.ofNat 1, .ofNat 2⟩ .like).run (.still .epoch)
      (.still .epoch) { Memory.empty with commitConflicts := conflicts }
    (∃ (result : SwipeResult) (after after' : Memory), swiping 0 = (.ok result, after) ∧
      swiping 3 = (.ok { result with like := { result.like with id := .fresh 3 } }, after') ∧
      after'.commitConflicts = 0) ∧
    swiping 4 = (.error (.error (.storageConflict Memory.conflictError)),
      { Memory.empty with commitConflicts := 0, minted := 4 }) := by
  intro swiping
  have hne : (⟨.ofNat 1, .ofNat 2⟩ : Arrow).actor ≠ (⟨.ofNat 1, .ofNat 2⟩ : Arrow).target := by
    decide
  obtain ⟨hmemory, -⟩ := swipe_retried {} hne .like
  obtain ⟨-, hopen⟩ := hmemory .empty .epoch
  have hfree := hopen ⟨by decide, by simp [Memory.empty, Tables.empty]⟩
  obtain ⟨result, after, id, hplain, -, hused, hthree, -, hid⟩ := (hfree 3).1 (by decide)
  obtain ⟨-, rfl⟩ := hid (by decide)
  exact ⟨⟨result, after, _, hplain, hthree, hused⟩, (hfree 4).2 (by decide)⟩

end Operation

end Courtship
