import Courtship.Lock.Acquisition
import Courtship.Operation.Command

/-! The service: a storage, the locks of its users, the clock, and the operations that wait for a
lock. -/

namespace Courtship

structure Service (σ : Type) where
  settings : Settings
  store : σ
  clock : Instant
  registry : Registry
  /-- The milliseconds by which lock deadlines are measured. -/
  elapsed : Nat

/-- An operation that waits for its locks. -/
structure Pending (α : Type) where
  plan : Plan α
  acquisition : Acquisition

inductive Stage (α : Type) where
  | answered (result : Except (Failure EngineError) α)
  | waiting (p : Pending α)

namespace Service

variable {σ υ α : Type}

def new (settings : Settings) (store : σ) (clock : Instant) : Service σ :=
  ⟨settings, store, clock, .empty, 0⟩

/-- The clock stands still while an operation runs. -/
def readings (s : Service σ) : Readings := fun _ => s.clock

def lockTimeout (s : Service σ) : Nat := s.settings.matching.lockTimeoutMs.toNat

/-- Why a user could not be locked. -/
def timeoutFor (s : Service σ) (user : UserId) : LockTimeout := ⟨user, s.lockTimeout * 1000000⟩

/-! ## Operations -/

/-- Goes on with `plan` as far as the locks allow, and gives them back at its end. -/
def proceed [Storage σ υ] (s : Service σ) (plan : Plan α) :
    Acquisition.Progress × Registry → Stage α × Service σ
  | (.held leases, r) =>
    let (result, store) := plan.finish s.readings s.store
    (.answered result, { s with store := store, registry := r.releaseAll leases })
  | (.waiting a, r) => (.waiting ⟨plan, a⟩, { s with registry := r })
  | (.timedOut user, r) =>
    (.answered (.error (.error (.ofLockTimeout (s.timeoutFor user)))), { s with registry := r })

def start [Storage σ υ] (s : Service σ) (op : Operation α) : Stage α × Service σ :=
  let (plan, store) := op.plan s.readings s.store
  let s := { s with store := store }
  match plan with
  | .answer result => (.answered result, s)
  | .locked a b _ _ =>
    s.proceed plan
      (Acquisition.start s.registry (Acquisition.inLockOrder a b) s.elapsed s.lockTimeout)

def resume [Storage σ υ] (s : Service σ) (p : Pending α) : Stage α × Service σ :=
  s.proceed p.plan (p.acquisition.poll s.registry s.elapsed)

def cancel (s : Service σ) (a : Acquisition) : Service σ :=
  { s with registry := a.cancel s.registry }

/-- Runs the operation with nothing else going on: if it has to wait, it waits in vain. -/
def run [Storage σ υ] (s : Service σ) (op : Operation α) :
    Except (Failure EngineError) α × Service σ :=
  match s.start op with
  | (.answered result, s) => (result, s)
  | (.waiting p, s) =>
    let s := { s with elapsed := p.acquisition.deadline }
    (.error (.error (.ofLockTimeout (s.timeoutFor p.acquisition.waiting.user))),
      s.cancel p.acquisition)

/-- Carries out a command, or answers a question. -/
def command [Storage σ υ] (s : Service σ) (c : Command) :
    Except (Failure EngineError) c.Answer × Service σ :=
  s.run (c.operation s.settings)

def ask [Storage σ υ] (s : Service σ) (q : Question) :
    Except (Failure EngineError) q.Answer × Service σ :=
  s.run q.operation

/-! ## Locks for their own sake -/

def acquire (s : Service σ) (users : List UserId) : Acquisition.Progress × Service σ :=
  let (progress, r) := Acquisition.start s.registry users s.elapsed s.lockTimeout
  (progress, { s with registry := r })

def reacquire (s : Service σ) (a : Acquisition) : Acquisition.Progress × Service σ :=
  let (progress, r) := a.poll s.registry s.elapsed
  (progress, { s with registry := r })

/-- Takes the locks with nothing else going on. -/
def acquireAlone (s : Service σ) (users : List UserId) :
    Except LockTimeout (List Lease) × Service σ :=
  match s.acquire users with
  | (.held leases, s) => (.ok leases, s)
  | (.timedOut user, s) => (.error (s.timeoutFor user), s)
  | (.waiting a, s) =>
    (.error (s.timeoutFor a.waiting.user), { s with elapsed := a.deadline }.cancel a)

def release (s : Service σ) (leases : List Lease) : Service σ :=
  { s with registry := s.registry.releaseAll leases }

/-- How many users have their locks in use, and how long a lock is waited for. -/
def lockSummary (s : Service σ) : String :=
  "\x7b active_entries: " ++ toString s.registry.activeEntries ++ ", timeout: " ++
    millisText s.lockTimeout ++ " \x7d"

/-! ## Time -/

/-- Moves the clock, unless that leaves the range of instants. -/
def moveClock? (s : Service σ) (nanos : Int) : Option (Service σ) :=
  (s.clock.shift? nanos).map fun t => { s with clock := t }

def sleep (s : Service σ) (millis : Nat) : Service σ := { s with elapsed := s.elapsed + millis }

end Service

end Courtship
