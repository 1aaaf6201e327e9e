import Courtship.Time.Instant
import Courtship.User

/-! Matches: the relationship of two users who like each other, and the states it goes through. -/

namespace Courtship

inductive MatchState where
  | active
  | friends
  | gracefulExit
  | unmatched
  | blocked
  deriving DecidableEq

/-- Why a match ended, or its conversation was archived. -/
inductive ArchiveReason where
  | friendZoneDeclined
  | gracefulExit
  | unmatch
  | block
  deriving DecidableEq

namespace ArchiveReason

def all : List ArchiveReason := [friendZoneDeclined, gracefulExit, unmatch, block]

def name : ArchiveReason → String
  | friendZoneDeclined => "FRIEND_ZONE_DECLINED"
  | gracefulExit => "GRACEFUL_EXIT"
  | unmatch => "UNMATCH"
  | block => "BLOCK"

end ArchiveReason

namespace MatchState

def all : List MatchState := [active, friends, gracefulExit, unmatched, blocked]

def name : MatchState → String
  | active => "ACTIVE"
  | friends => "FRIENDS"
  | gracefulExit => "GRACEFUL_EXIT"
  | unmatched => "UNMATCHED"
  | blocked => "BLOCKED"

/-- An ended match stays as it is. -/
def isTerminal : MatchState → Bool
  | gracefulExit | unmatched | blocked => true
  | active | friends => false

def canBecome : MatchState → MatchState → Bool
  | active, active => false
  | active, _ => true
  | friends, unmatched | friends, gracefulExit | friends, blocked => true
  | _, _ => false

def canMessage : MatchState → Bool
  | active | friends => true
  | _ => false

/-- The reason recorded for an end that gives none of its own. -/
def defaultReason : MatchState → Option ArchiveReason
  | gracefulExit => some .gracefulExit
  | unmatched => some .unmatch
  | blocked => some .block
  | active | friends => none

end MatchState

structure Match where
  id : PairId
  /-- The smaller one of the two users. -/
  userA : UserId
  userB : UserId
  state : MatchState
  endReason : Option ArchiveReason
  endedBy : Option UserId
  createdAt : Instant
  stateChangedAt : Instant
  deriving DecidableEq

namespace Match

def new (a b : UserId) (now : Instant) : Match :=
  let (low, high) := inOrder a b
  ⟨PairId.of low high, low, high, .active, none, none, now, now⟩

def involves (m : Match) (user : UserId) : Bool := m.userA = user || m.userB = user

def canMessage (m : Match) : Bool := m.state.canMessage

end Match

/-! ## Transitions -/

inductive TransitionError where
  | invalid (source target : MatchState)
  | alreadyTerminal (state : MatchState)
  | notAuthorized
  deriving DecidableEq

namespace TransitionError

def message : TransitionError → String
  | invalid source target => s!"cannot move a relationship from {source.name} to {target.name}"
  | alreadyTerminal state => s!"relationship already ended ({state.name})"
  | notAuthorized => "user is not part of this relationship"

end TransitionError

/-- A graceful exit may be repeated: the match then stays unchanged. -/
inductive Transition where
  | changed (m : Match)
  | unchanged (m : Match)
  deriving DecidableEq

namespace Match

/-- The match in the state `target`. Only an end records a reason and who brought it about. -/
def moved (m : Match) (target : MatchState) (initiator : UserId) (reason : Option ArchiveReason)
    (now : Instant) : Match :=
  if target.isTerminal then
    { m with
      state := target
      stateChangedAt := now
      endReason := reason.or target.defaultReason
      endedBy := some initiator }
  else { m with state := target, stateChangedAt := now }

/-- Only the two users may move a match, and only along `MatchState.canBecome`. -/
def transition (m : Match) (target : MatchState) (initiator : UserId)
    (reason : Option ArchiveReason) (now : Instant) : Except TransitionError Transition :=
  if !m.involves initiator then .error .notAuthorized
  else if m.state = .gracefulExit ∧ target = .gracefulExit then .ok (.unchanged m)
  else if m.state.isTerminal then .error (.alreadyTerminal m.state)
  else if !m.state.canBecome target then .error (.invalid m.state target)
  else .ok (.changed (m.moved target initiator reason now))

end Match

namespace Transition

def result : Transition → Match
  | changed m | unchanged m => m

end Transition

end Courtship
