import Courtship.Operation.Basic
import Courtship.Settings.Basic

/-! Swiping, which makes a match of two likes, and undoing the last swipe. -/

namespace Courtship

structure SwipeResult where
  matched : Bool
  matchOf : Option Match
  like : Like
  /-- Whether this swipe created the match. -/
  newMatch : Bool
  deriving DecidableEq

structure UndoResult where
  undone : Like
  /-- The match that ended with the swipe. -/
  unmatched : Option Match
  deriving DecidableEq

namespace Operation

/-! ## Swipes -/

/-- A blocked pair and a pair whose match has ended take no more swipes. -/
def requireSwipeable (arrow : Arrow) : Work Unit := do
  if ← Work.run (.isBlocked arrow.actor arrow.target) then Work.reject .blocked
  else
    match ← Work.run (.getMatch (.of arrow.actor arrow.target)) with
    | some m =>
      if m.state = .blocked then Work.reject .blocked
      else if m.state.isTerminal then Work.reject (.relationshipTerminated m.state)
      else pure ()
    | none => pure ()

/-- The match, and whether it is new, when this swipe answers a like with a like. -/
def matchOnMutualLike (arrow : Arrow) (direction : Direction) (now : Instant) :
    Work (Option (Match × Bool)) := do
  if direction = .like then
    if ← Work.run (.findMutualLike arrow.target arrow.actor) then
      let created ← Work.run
        (.createMatchIfAbsent (.of arrow.actor arrow.target) arrow.actor arrow.target now)
      let _ ← Work.run (.getOrCreateConversation arrow.actor arrow.target now)
      pure (some created)
    else pure none
  else pure none

def swipeWork (arrow : Arrow) (direction : Direction) (now : Instant) :
    Work (Ending SwipeResult) := do
  requireSwipeable arrow
  let like ← Work.run (.upsertLike arrow direction now)
  let outcome ← matchOnMutualLike arrow direction now
  pure (.commit ⟨outcome.isSome, outcome.map Prod.fst, like, outcome.any Prod.snd⟩)

def swipe (settings : MatchingSettings) (arrow : Arrow) (direction : Direction) :
    Operation SwipeResult :=
  if arrow.actor = arrow.target then
    .plain (.reject (.invalidRequest "users cannot swipe on themselves"))
  else
    .plain (.locked arrow.actor arrow.target settings.conflictRetries.toNat fun readings =>
      swipeWork arrow direction (readings 0))

/-! ## Undoing -/

/-- What is asked of the age of a swipe, at a time. -/
abbrev AgeCheck := Like → Instant → Except (Failure EngineError) Unit

/-- The window as a signed number of seconds: its word is read in two's complement. -/
def undoWindow (settings : MatchingSettings) : Int :=
  (settings.undoWindowSecs.toNat : Int).bmod UInt64.size

/-- The most seconds that a length of time can have in either direction. -/
def longestSpan : Int := 9223372036854775

def requireInWindow (settings : MatchingSettings) (l : Like) (now : Instant) :
    Except (Failure EngineError) Unit :=
  let window := undoWindow settings
  if longestSpan < window ∨ window < -longestSpan then .error .overflow
  else if window * nanosPerSecond < now.since l.createdAt then
    .error (.error (.undoWindowExpired settings.undoWindowSecs.toNat))
  else .ok ()

/-- Ends the match of the pair if nothing has happened to it since it was created. -/
def endUntouchedMatch (arrow : Arrow) (now : Instant) : Work (Option Match) := do
  match ← Work.run (.getMatch (.of arrow.actor arrow.target)) with
  | some m =>
    if m.state = .active ∧ m.stateChangedAt = m.createdAt then
      match m.transition .unmatched arrow.actor (some .unmatch) now with
      | .error e => Work.reject (.ofTransition e)
      | .ok transition =>
        let ended := transition.result
        Work.run (.updateMatchState ended)
        match ← Work.run (.getConversation (.of arrow.actor arrow.target)) with
        | some c =>
          if !c.isArchived then
            Work.run (.archiveConversation (.of arrow.actor arrow.target) .unmatch now)
        | none => pure ()
        pure (some ended)
    else pure none
  | none => pure none

/-- The clock is read for the withdrawal, for the check and for the end of the match. -/
def undoWork (check : AgeCheck) (arrow : Arrow) (readings : Readings) :
    Work (Ending UndoResult) := do
  let now := readings 0
  match ← Work.run (.getLike arrow) with
  | some l =>
    if l.isDeleted then Work.reject .nothingToUndo
    else
      Work.ofExcept (check l (readings 1))
      let _ ← Work.run (.softDeleteLike arrow now)
      let unmatched ←
        if l.direction = .like then endUntouchedMatch arrow (readings 2) else pure none
      pure (.commit ⟨{ l with deletedAt := some now }, unmatched⟩)
  | none => Work.reject .nothingToUndo

/-- Finds the last swipe without a lock, and looks at it again under the locks of both users. -/
def undoLastSwipe (check : AgeCheck) (user : UserId) : Operation UndoResult :=
  .reading (.call (.latestLikeBy user) fun latest => .done fun readings =>
    match latest with
    | none => .reject .nothingToUndo
    | some l =>
      match check l (readings 0) with
      | .error why => .answer (.error why)
      | .ok () => .locked user l.toUser 0 (undoWork check ⟨user, l.toUser⟩))

end Operation

end Courtship
