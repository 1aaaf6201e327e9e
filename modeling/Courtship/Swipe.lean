import Courtship.Time.Instant
import Courtship.User

/-! Swipes of one user toward another, and blocks of one by another. -/

namespace Courtship

inductive Direction where
  | like
  | pass
  deriving DecidableEq

namespace Direction

def all : List Direction := [like, pass]

def name : Direction → String
  | like => "LIKE"
  | pass => "PASS"

end Direction

/-- A swipe of either direction. One that was withdrawn keeps its place, with the time of that. -/
structure Like where
  id : Uuid
  fromUser : UserId
  toUser : UserId
  direction : Direction
  createdAt : Instant
  deletedAt : Option Instant
  deriving DecidableEq

namespace Like

def new (id : Uuid) (fromUser toUser : UserId) (direction : Direction) (now : Instant) : Like :=
  ⟨id, fromUser, toUser, direction, now, none⟩

def arrow (l : Like) : Arrow := ⟨l.fromUser, l.toUser⟩

def isDeleted (l : Like) : Bool := l.deletedAt.isSome

/-- A like in the narrow sense that was not withdrawn. -/
def isLiveLike (l : Like) : Bool := l.direction = .like && !l.isDeleted

/-- Whether `l` is later than `l'`, or is not earlier and its key does not come after that of `l'`
by rank. -/
def Precedes (rank : Arrow → Nat) (l l' : Like) : Prop :=
  l'.createdAt < l.createdAt ∨ l'.createdAt ≤ l.createdAt ∧ rank l.arrow ≤ rank l'.arrow

instance (rank : Arrow → Nat) (l l' : Like) : Decidable (l.Precedes rank l') :=
  inferInstanceAs (Decidable (_ ∨ _))

/-- The one of two swipes that a look for the latest one keeps. -/
def preferred (rank : Arrow → Nat) (l l' : Like) : Like := if l.Precedes rank l' then l else l'

end Like

structure Block where
  blocker : UserId
  blocked : UserId
  createdAt : Instant
  deriving DecidableEq

def Block.arrow (b : Block) : Arrow := ⟨b.blocker, b.blocked⟩

end Courtship
