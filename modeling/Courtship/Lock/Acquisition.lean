import Courtship.Error
import Courtship.Lock.Registry

/-! Taking the locks of one user or of two, the smaller one first, before a shared deadline. Times
are in milliseconds. -/

namespace Courtship

/-- Locks that are not all taken yet. -/
structure Acquisition where
  held : List Lease
  waiting : Lease
  /-- The users that come after the one waited for. -/
  rest : List UserId
  deadline : Nat

namespace Acquisition

/-- `held` lists the last lock first, in the order of release. -/
inductive Progress where
  | held (leases : List Lease)
  | waiting (a : Acquisition)
  | timedOut (user : UserId)

/-- Takes one free lock after the other, and queues for the first that is not. -/
def advance (r : Registry) (deadline : Nat) (held : List Lease) :
    List UserId → Progress × Registry
  | [] => (.held held, r)
  | user :: rest =>
    let (l, r) := r.lease user
    let r := r.request l
    if r.isHeld l then advance r deadline (l :: held) rest
    else (.waiting ⟨held, l, rest, deadline⟩, r)

def inLockOrder (a b : UserId) : List UserId :=
  let (low, high) := inOrder a b
  if low = high then [low] else [low, high]

/-- Gives back everything taken or queued for. -/
def cancel (a : Acquisition) (r : Registry) : Registry := r.releaseAll (a.waiting :: a.held)

/-- Whoever still waits at the deadline gives up. -/
def expire (now : Nat) : Progress × Registry → Progress × Registry
  | (.waiting a, r) =>
    if a.deadline ≤ now then (.timedOut a.waiting.user, a.cancel r) else (.waiting a, r)
  | outcome => outcome

def start (r : Registry) (users : List UserId) (now timeout : Nat) : Progress × Registry :=
  expire now (advance r (now + timeout) [] users)

/-- A lock that has been handed over is taken whatever the time. -/
def poll (a : Acquisition) (r : Registry) (now : Nat) : Progress × Registry :=
  if r.isHeld a.waiting then expire now (advance r a.deadline (a.waiting :: a.held) a.rest)
  else expire now (.waiting a, r)

end Acquisition

end Courtship
