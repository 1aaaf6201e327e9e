import Courtship.Proofs.Effect.Calls
import Courtship.Service

/-! A call that fails leaves the tables as they were, wherever in it the failure comes from: its
checks, a refused write, the commit, the last of several attempts, or the wait for a lock. -/

namespace Courtship

variable {α : Type}

/-! ## Units and attempts -/

theorem Memory.tables_settle_error {m m' : Memory}
    {r : Except (Failure EngineError) (Ending α) × Memory} {why : Failure EngineError}
    (h : m.settle r = (.error why, m')) : m'.tables = m.tables := by
  rcases r with ⟨_ | ⟨_ | _⟩, m''⟩
  · simp only [settle, Prod.mk.injEq] at h
    rw [← h.2]
  · by_cases hnone : m''.commitConflicts = 0
    · simp [settle, hnone] at h
    · simp only [settle, hnone, ↓reduceIte, Prod.mk.injEq] at h
      rw [← h.2]
  · simp [settle] at h

theorem Work.tables_inUnit_error {w : Work (Ending α)} {m m' : Memory} {why : Failure EngineError}
    (h : w.inUnit m = (.error why, m')) : m'.tables = m.tables := by
  rw [Work.inUnit_eq] at h
  exact Memory.tables_settle_error h

/-- Each attempt but the last one fails, and so leaves nothing behind. -/
theorem Plan.tables_attempts_error {body : Readings → Work (Ending α)} {retries : Nat}
    {readings : Readings} {m m' : Memory} {why : Failure EngineError}
    (h : attempts body retries readings m = (.error why, m')) : m'.tables = m.tables := by
  induction retries generalizing readings m with
  | zero => exact Work.tables_inUnit_error h
  | succ retries ih =>
    rw [attempts] at h
    split at h
    · rename_i hunit
      exact (ih h).trans (Work.tables_inUnit_error hunit)
    · exact Work.tables_inUnit_error h

theorem Plan.tables_finish_error {plan : Plan α} {readings : Readings} {m m' : Memory}
    {why : Failure EngineError} (h : plan.finish readings m = (.error why, m')) :
    m'.tables = m.tables := by
  cases plan with
  | answer result =>
    simp only [finish, Prod.mk.injEq] at h
    rw [h.2]
  | locked a b retries body => exact tables_attempts_error h

/-! ## Operations -/

namespace Operation

/-- Until it has its locks, an operation writes nothing. -/
theorem tables_plan (op : Operation α) (readings : Readings) (m : Memory) :
    (op.plan readings m).2.tables = m.tables := by
  cases op with
  | plain plan => rfl
  | reading look =>
    have h : (look.look m).2.tables = m.tables := by rw [Work.look_eq]
    simp only [plan]
    split <;> (rename_i hlook; rw [hlook] at h; exact h)

theorem tables_run_error {op : Operation α} {first second : Readings} {m m' : Memory}
    {why : Failure EngineError} (h : op.run first second m = (.error why, m')) :
    m'.tables = m.tables := by
  have hplan := op.tables_plan first m
  rw [run] at h
  exact (Plan.tables_finish_error h).trans hplan

end Operation

/-! ## Calls on the service -/

namespace Service

theorem tables_proceed (s : Service Memory) (plan : Plan α) (p : Acquisition.Progress × Registry)
    (h : ∀ a, (s.proceed plan p).1 ≠ .answered (.ok a)) :
    (s.proceed plan p).2.store.tables = s.store.tables := by
  rcases p with ⟨leases | a | user, r⟩
  · rcases hfinish : plan.finish s.readings s.store with ⟨why | a, store⟩ <;>
      simp only [proceed, hfinish] at h ⊢
    · exact Plan.tables_finish_error hfinish
    · exact absurd rfl (h a)
  · rfl
  · rfl

theorem tables_start (s : Service Memory) (op : Operation α)
    (h : ∀ a, (s.start op).1 ≠ .answered (.ok a)) :
    (s.start op).2.store.tables = s.store.tables := by
  have hplan := op.tables_plan s.readings s.store
  rcases hop : op.plan s.readings s.store with ⟨_ | _, store⟩ <;> rw [hop] at hplan
  · simp only [start, hop]
    exact hplan
  · simp only [start, hop] at h ⊢
    exact (tables_proceed _ _ _ h).trans hplan

theorem tables_run_error {s s' : Service Memory} {op : Operation α} {why : Failure EngineError}
    (h : s.run op = (.error why, s')) : s'.store.tables = s.store.tables := by
  rcases hstart : s.start op with ⟨result | p, s₁⟩ <;> simp only [run, hstart, Prod.mk.injEq] at h
  · have := tables_start s op (by simp [hstart, h.1])
    rw [hstart, h.2] at this
    exact this
  · have := tables_start s op (by simp [hstart])
    rw [hstart] at this
    rw [← h.2]
    exact this

/-- **A command that fails changes no table**, run on its own with any readings of the clock, run
by the service, or run in turns with others: then neither its first stretch, up to the wait for
locks, nor its last one does, unless the answer is a success. -/
theorem failed_command_keeps_tables (c : Command) :
    (∀ (settings : Settings) (first second : Readings) (m m' : Memory)
        (why : Failure EngineError),
      (c.operation settings).run first second m = (.error why, m') → m'.tables = m.tables) ∧
    (∀ (s s' : Service Memory) (why : Failure EngineError),
      s.command c = (.error why, s') → s'.store.tables = s.store.tables) ∧
    (∀ (s s' : Service Memory) (stage : Stage c.Answer),
      s.start (c.operation s.settings) = (stage, s') → (∀ a, stage ≠ .answered (.ok a)) →
        s'.store.tables = s.store.tables) ∧
    (∀ (s s' : Service Memory) (p : Pending c.Answer) (stage : Stage c.Answer),
      s.resume p = (stage, s') → (∀ a, stage ≠ .answered (.ok a)) →
        s'.store.tables = s.store.tables) := by
  refine ⟨?_, ?_, ?_, ?_⟩
  · intro settings first second m m' why h
    exact Operation.tables_run_error h
  · intro s s' why h
    exact tables_run_error h
  · intro s s' stage h hfail
    have := tables_start s (c.operation s.settings) (by rw [h]; exact hfail)
    rwa [h] at this
  · intro s s' p stage h hfail
    rw [resume] at h
    have := tables_proceed s _ _ (by rw [h]; exact hfail)
    rwa [h] at this

/-- Two users with an active match, in a storage that refuses notifications. -/
def refusing : Service Memory :=
  let a := UserId.ofNat 1
  let b := UserId.ofNat 2
  let tables := Tables.empty.write (.matchRow (.of a b) (some (.new a b .epoch)))
  .new {} { Memory.empty with tables := tables, rejectsNotifications := true } .epoch

/-- A proposal writes its request before its notification is refused, be it carried out at once or
after it waited for a lock. -/
theorem proposal_refused :
    let c : Command := .propose ⟨.ofNat 1, .ofNat 2⟩ "let us be friends"
    let why : Failure EngineError :=
      .error (.ofStorage (.corrupt "notification sink rejected write"))
    let s := refusing
    let held := s.acquireAlone [.ofNat 2]
    ∃ (alone : Memory) (atOnce waited resumed : Service Memory) (p : Pending c.Answer)
        (leases : List Lease),
      (c.operation s.settings).run s.readings s.readings s.store = (.error why, alone) ∧
      s.command c = (.error why, atOnce) ∧
      held.1 = .ok leases ∧
      held.2.start (c.operation held.2.settings) = (.waiting p, waited) ∧
      (waited.release leases).resume p = (.answered (.error why), resumed) := by
  exact ⟨_, _, _, _, _, _, rfl, rfl, rfl, rfl, rfl⟩

theorem failed_command_keeps_tables_refused :
    let c : Command := .propose ⟨.ofNat 1, .ofNat 2⟩ "let us be friends"
    let why : Failure EngineError :=
      .error (.ofStorage (.corrupt "notification sink rejected write"))
    let s := refusing
    let held := s.acquireAlone [.ofNat 2]
    ∃ (alone : Memory) (atOnce waited resumed : Service Memory) (p : Pending c.Answer)
        (leases : List Lease),
      s.command c = (.error why, atOnce) ∧
      (waited.release leases).resume p = (.answered (.error why), resumed) ∧
      alone.tables = s.store.tables ∧ atOnce.store.tables = s.store.tables ∧
      waited.store.tables = held.2.store.tables ∧ resumed.store.tables = waited.store.tables := by
  intro c why s held
  obtain ⟨alone, atOnce, waited, resumed, p, leases, halone, hcommand, -, hstart, hresume⟩ :=
    proposal_refused
  refine ⟨alone, atOnce, waited, resumed, p, leases, hcommand, hresume, ?_, ?_, ?_, ?_⟩
  · exact (failed_command_keeps_tables c).1 _ _ _ _ _ why halone
  · exact (failed_command_keeps_tables c).2.1 _ _ why hcommand
  · exact (failed_command_keeps_tables c).2.2.1 _ _ _ hstart (by simp)
  · exact (failed_command_keeps_tables c).2.2.2 (waited.release leases) _ p _ hresume (by simp)

end Service

end Courtship
