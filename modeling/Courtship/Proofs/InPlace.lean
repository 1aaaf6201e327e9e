import Courtship.Store.Memory

/-! Work in a unit in memory is work on the tables in place: the log of the unit is read only when
the unit is taken back, and then it gives the tables as they were. -/

namespace Courtship

namespace Memory

/-- A call on the tables in place, where nothing is kept for taking it back. -/
def perform (m : Memory) (c : Call) : Except StorageError c.Reply × Memory :=
  ((m.start.perform c).1, (m.start.perform c).2.memory)

instance : OpenUnit Memory where
  mint m := (.fresh m.minted, { m with minted := m.minted + 1 })
  perform m c := (m.perform c).map (Except.mapError .error) id

/-- How a unit that began with this memory ends, given what its work came to in place. -/
def settle {α : Type} (m : Memory) :
    Except (Failure EngineError) (Ending α) × Memory → Except (Failure EngineError) α × Memory
  | (.error why, m') => (.error why, { m' with tables := m.tables })
  | (.ok (.drop a), m') => (.ok a, { m' with tables := m.tables })
  | (.ok (.commit a), m') =>
    if m'.commitConflicts = 0 then (.ok a, m')
    else
      (.error (.error (.storageConflict (.conflict "simulated commit conflict"))),
        { m' with tables := m.tables, commitConflicts := m'.commitConflicts - 1 })

end Memory

/-! ## Units -/

namespace MemoryUnit

@[simp] theorem memory_write (u : MemoryUnit) (w : Tables.Write) :
    (u.write w).memory = { u.memory with tables := u.tables.write w } := rfl

@[simp] theorem restored_write (u : MemoryUnit) (w : Tables.Write) :
    (u.write w).restored = u.restored := by
  simp [restored, write, tables, Tables.undo_write]

/-- The log has no part in a call, and after the call it still leads back to the same tables. -/
theorem perform_inPlace (u : MemoryUnit) (c : Call) :
    (u.perform c).1 = (u.memory.perform c).1 ∧
      (u.perform c).2.memory = (u.memory.perform c).2 ∧
      (u.perform c).2.restored = u.restored := by
  obtain ⟨m, log⟩ := u
  cases c
  case getLike | findMutualLike | latestLikeBy | getMatch | matchesFor | isBlocked | blockedBy
      | getRequest | findPendingRequest | countRequestsSince | pendingRequestsOn
      | pendingRequestsFor | getConversation | notificationsFor =>
    exact ⟨rfl, rfl, rfl⟩
  all_goals
    simp only [perform, Memory.perform, Memory.start, tables, upsertLike, softDeleteLike,
      createMatchIfAbsent, updateMatchState, recordBlock, removeBlock, insertRequest,
      updateRequestStatus, getOrCreateConversation, archiveConversation, setVisibility,
      createNotification]
  case recordBlock arrow _ =>
    by_cases h : m.tables.blocks.contains arrow <;> simp [h, tables]
  case removeBlock arrow =>
    by_cases h : m.tables.blocks.contains arrow <;> simp [h, tables]
  case insertRequest r =>
    by_cases h : m.tables.requests.contains r.id <;> simp [h, tables]
  case createNotification =>
    by_cases h : m.rejectsNotifications
    · simp [h]
    · simp only [h]
      exact ⟨rfl, rfl, restored_write _ _⟩
  all_goals
    repeat' split
    all_goals first | exact ⟨rfl, rfl, rfl⟩ | exact ⟨rfl, rfl, restored_write _ _⟩

end MemoryUnit

namespace Work

variable {α β : Type}

theorem perform_inPlace (w : Work α) (u : MemoryUnit) :
    (w.perform u).1 = (w.perform u.memory).1 ∧
      (w.perform u).2.memory = (w.perform u.memory).2 ∧
      (w.perform u).2.restored = u.restored := by
  induction w generalizing u with
  | done a => exact ⟨rfl, rfl, rfl⟩
  | fail why => exact ⟨rfl, rfl, rfl⟩
  | newId next ih => exact ih _ u.mint.2
  | call c next ih =>
    obtain ⟨hreply, hmemory, hrestored⟩ := u.perform_inPlace c
    rcases hu : u.perform c with ⟨reply, u'⟩
    rcases hm : u.memory.perform c with ⟨reply', m'⟩
    rw [hu, hm] at hreply hmemory
    rw [hu] at hrestored
    dsimp only at hreply hmemory hrestored
    subst hreply hmemory
    simp only [perform, OpenUnit.perform, hu, hm]
    cases reply with
    | error e => exact ⟨rfl, rfl, hrestored⟩
    | ok r =>
      have h := ih r u'
      rw [hrestored] at h
      exact h

/-- A unit of work, with its log left out. -/
theorem inUnit_eq (w : Work (Ending α)) (m : Memory) : w.inUnit m = m.settle (w.perform m) := by
  obtain ⟨hresult, hmemory, hrestored⟩ := w.perform_inPlace m.start
  have hstart : m.start.memory = m := rfl
  have hbegin : m.start.restored = m.tables := rfl
  rcases hu : w.perform m.start with ⟨result, u⟩
  rcases hm : w.perform m with ⟨result', m'⟩
  rw [hstart, hu, hm] at hresult hmemory
  rw [hu, hbegin] at hrestored
  dsimp only at hresult hmemory hrestored
  subst hresult hmemory
  have hdiscard : u.discard = { u.memory with tables := m.tables } := by
    rw [MemoryUnit.discard, hrestored]
  simp only [inUnit, Storage.start, Storage.discard, Storage.commit, hu, Memory.settle]
  match result with
  | .error why => simp only [hdiscard]
  | .ok (.drop a) => simp only [hdiscard]
  | .ok (.commit a) =>
    by_cases hnone : u.memory.commitConflicts = 0
    · simp only [MemoryUnit.commit, hnone, ↓reduceIte]
    · simp only [MemoryUnit.commit, hdiscard, hnone, ↓reduceIte]
      rfl

/-- A unit that gives an answer kept its writes, or was dropped on purpose. -/
theorem inUnit_ok {w : Work (Ending α)} {m m' : Memory} {a : α} (h : w.inUnit m = (.ok a, m')) :
    w.perform m = (.ok (.commit a), m') ∨
      ∃ m'', w.perform m = (.ok (.drop a), m'') ∧ m'.tables = m.tables := by
  rw [inUnit_eq] at h
  rcases hw : w.perform m with ⟨why | a' | a', m''⟩ <;> rw [hw] at h
  · cases h
  · left
    by_cases hnone : m''.commitConflicts = 0 <;> simp [Memory.settle, hnone] at h
    rw [h.1, h.2]
  · cases h
    exact .inr ⟨m'', rfl, rfl⟩

end Work

end Courtship
