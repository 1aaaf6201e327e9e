import Courtship.Match

/-! Conversations of matched users: archived when the match ends, and shown to each side or not. -/

namespace Courtship

structure Conversation where
  id : PairId
  userA : UserId
  userB : UserId
  createdAt : Instant
  archivedAt : Option Instant
  archiveReason : Option ArchiveReason
  accessibleToA : Bool
  accessibleToB : Bool
  deriving DecidableEq

namespace Conversation

def new (a b : UserId) (now : Instant) : Conversation :=
  let (low, high) := inOrder a b
  ⟨PairId.of low high, low, high, now, none, none, true, true⟩

def isArchived (c : Conversation) : Bool := c.archivedAt.isSome && c.archiveReason.isSome

def archive (c : Conversation) (reason : ArchiveReason) (now : Instant) : Conversation :=
  { c with archivedAt := some now, archiveReason := some reason }

def isAccessibleTo (c : Conversation) (user : UserId) : Bool :=
  if user = c.userA then c.accessibleToA else user = c.userB && c.accessibleToB

/-- `none` if the user is not part of the conversation. -/
def setVisibility? (c : Conversation) (user : UserId) (visible : Bool) : Option Conversation :=
  if user = c.userA then some { c with accessibleToA := visible }
  else if user = c.userB then some { c with accessibleToB := visible }
  else none

end Conversation

end Courtship
