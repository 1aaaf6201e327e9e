import Courtship.Store.Rows
import Courtship.User

/-! One lock per user. The entry of a user says which lock it is and how many leases on it are out:
a caller takes a lease before it waits and returns it after it has let go of the lock, and the
entry goes with its last lease. A lock passes to whoever waits the longest. -/

namespace Courtship

/-- A lock, apart from the user it stands for. -/
structure Lock where
  holder : Option Nat
  /-- The longest waiting one first. -/
  waiters : List Nat
  deriving DecidableEq

namespace Lock

def free : Lock := ⟨none, []⟩

/-- The lock is taken at once if it is free; otherwise the ticket queues. -/
def request (l : Lock) (ticket : Nat) : Lock :=
  match l.holder with
  | none => { l with holder := some ticket }
  | some _ => { l with waiters := l.waiters ++ [ticket] }

/-- The holder hands the lock on to the first in the queue; a waiter only gives up its place. -/
def leave (l : Lock) (ticket : Nat) : Lock :=
  if l.holder = some ticket then ⟨l.waiters.head?, l.waiters.tail⟩
  else { l with waiters := l.waiters.filter (· ≠ ticket) }

end Lock

structure LockEntry where
  /-- The number of the lock. -/
  lock : Nat
  leases : Nat
  deriving DecidableEq

/-- A caller's lease on the entry of a user, with the lock that was found there. -/
structure Lease where
  user : UserId
  lock : Nat
  ticket : Nat
  deriving DecidableEq

structure Registry where
  entries : Rows UserId LockEntry
  /-- A lock that is not listed is free. -/
  locks : Rows Nat Lock
  /-- The next numbers for a lock and for a ticket. -/
  nextLock : Nat
  nextTicket : Nat

namespace Registry

def empty : Registry := ⟨∅, ∅, 0, 0⟩

def lockAt (r : Registry) (lock : Nat) : Lock := r.locks[lock]?.getD .free

/-- Free locks are not listed. -/
def setLock (r : Registry) (lock : Nat) (l : Lock) : Registry :=
  { r with locks := r.locks.set lock (if l = .free then none else some l) }

/-- Counts one more lease on the entry of the user, which is created if there is none. -/
def lease (r : Registry) (user : UserId) : Lease × Registry :=
  let ticket := r.nextTicket
  match r.entries[user]? with
  | some e =>
    (⟨user, e.lock, ticket⟩,
      { r with
        entries := r.entries.insert user { e with leases := e.leases + 1 }
        nextTicket := ticket + 1 })
  | none =>
    (⟨user, r.nextLock, ticket⟩,
      { r with
        entries := r.entries.insert user ⟨r.nextLock, 1⟩
        nextLock := r.nextLock + 1
        nextTicket := ticket + 1 })

def request (r : Registry) (l : Lease) : Registry :=
  r.setLock l.lock ((r.lockAt l.lock).request l.ticket)

def isHeld (r : Registry) (l : Lease) : Bool := (r.lockAt l.lock).holder = some l.ticket

/-- Lets go of the lock, or of the place in its queue. -/
def letGo (r : Registry) (l : Lease) : Registry :=
  r.setLock l.lock ((r.lockAt l.lock).leave l.ticket)

def returnLease (r : Registry) (l : Lease) : Registry :=
  match r.entries[l.user]? with
  | some e =>
    if e.leases ≤ 1 then { r with entries := r.entries.erase l.user }
    else { r with entries := r.entries.insert l.user { e with leases := e.leases - 1 } }
  | none => r

/-- The lock goes before the lease. -/
def release (r : Registry) (l : Lease) : Registry := (r.letGo l).returnLease l

def releaseAll (r : Registry) (ls : List Lease) : Registry := ls.foldl release r

/-- How many users have a lock that someone holds or waits for. -/
def activeEntries (r : Registry) : Nat := r.entries.size

end Registry

end Courtship
