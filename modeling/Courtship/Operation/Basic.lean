import Courtship.Store.Storage

/-! Operations: an optional look at the storage, then an answer, or a unit of work under the locks
of two users. -/

namespace Courtship

/-- What the clock shows each time that one stretch of an operation asks it. -/
def Readings := Nat → Instant

/-- The readings behind the first one. -/
def Readings.later (readings : Readings) : Readings := fun i => readings (i + 1)

inductive Plan (α : Type) where
  | answer (result : Except (Failure EngineError) α)
  /-- Runs `body` once the locks of both users are held; after a conflict again, up to `retries`
  times. -/
  | locked (a b : UserId) (retries : Nat) (body : Readings → Work (Ending α))

inductive Operation (α : Type) where
  | plain (plan : Plan α)
  /-- Reads without any lock first. -/
  | reading (look : Work (Readings → Plan α))

namespace Plan

variable {α σ υ : Type}

def reject (e : EngineError) : Plan α := answer (.error (.error e))

/-- One try after the other until one does not end in a conflict, each with readings of its own. -/
def attempts [Storage σ υ] (body : Readings → Work (Ending α)) :
    Nat → Readings → σ → Except (Failure EngineError) α × σ
  | 0, readings, s => (body readings).inUnit s
  | retries + 1, readings, s =>
    match (body readings).inUnit s with
    | (.error (.error (.storageConflict _)), s) => attempts body retries readings.later s
    | result => result

theorem attempts_of_conflict [Storage σ υ] {body : Readings → Work (Ending α)}
    {readings : Readings} {s s' : σ} {e : StorageError}
    (h : (body readings).inUnit s = (.error (.error (.storageConflict e)), s')) (retries : Nat) :
    attempts body (retries + 1) readings s = attempts body retries readings.later s' := by
  rw [attempts, h]

/-- A unit that does not end in a conflict is the last one. -/
theorem attempts_of_no_conflict [Storage σ υ] {body : Readings → Work (Ending α)}
    {readings : Readings} {s : σ}
    (h : ∀ e, ((body readings).inUnit s).1 ≠ .error (.error (.storageConflict e)))
    (retries : Nat) : attempts body retries readings s = (body readings).inUnit s := by
  cases retries with
  | zero => rfl
  | succ retries =>
    rw [attempts]
    split
    · rename_i heq
      rw [heq] at h
      exact absurd rfl (h _)
    · rfl

/-- The rest of the operation, from the moment that the locks are held. -/
def finish [Storage σ υ] : Plan α → Readings → σ → Except (Failure EngineError) α × σ
  | answer result, _, s => (result, s)
  | locked _ _ retries body, readings, s => attempts body retries readings s

end Plan

namespace Operation

variable {α σ υ : Type}

/-- What there is to do after the first look. -/
def plan [Storage σ υ] : Operation α → Readings → σ → Plan α × σ
  | plain plan, _, s => (plan, s)
  | reading look, readings, s =>
    match look.look s with
    | (.ok plan, s) => (plan readings, s)
    | (.error why, s) => (.answer (.error why), s)

/-- The whole operation, where no lock is taken: `first` for the look and `second` for the rest. -/
def run [Storage σ υ] (op : Operation α) (first second : Readings) (s : σ) :
    Except (Failure EngineError) α × σ :=
  let (plan, s) := op.plan first s
  plan.finish second s

end Operation

end Courtship
