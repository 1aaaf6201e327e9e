import Courtship.Operation.Basic

/-! Ways for one user to end or to bar the relationship with another: graceful exit, unmatch, block,
and lifting a block. -/

namespace Courtship.Operation

/-- Closes every request still pending on a match that leaves `active`. -/
def expireRequests (now : Instant) : List FriendRequest → Work Unit
  | [] => pure ()
  | r :: rs => do
    Work.run (.updateRequestStatus r.id .expired now)
    expireRequests now rs

def expirePending (matchId : PairId) (now : Instant) : Work Unit := do
  expireRequests now (← Work.run (.pendingRequestsOn matchId))

/-- An archived conversation keeps its reason and time. -/
def archiveOnce (c : Conversation) (reason : ArchiveReason) (now : Instant) : Work Unit :=
  if c.isArchived then pure () else Work.run (.archiveConversation c.id reason now)

def archiveOf (a b : UserId) (reason : ArchiveReason) (now : Instant) : Work Unit := do
  archiveOnce (← Work.run (.getOrCreateConversation a b now)) reason now

def notify (recipient : UserId) (payload : NotificationPayload) (now : Instant) : Work Unit := do
  let _ ← Work.run (.createNotification recipient payload.type payload now)
  pure ()

/-! ## Leaving a match -/

/-- Ends the match in the state `target`, for the reason of that state. -/
def leave (arrow : Arrow) (target : MatchState) (reason : ArchiveReason) (now : Instant) :
    Work Transition := do
  let current ← Work.orReject .matchNotFound
    (← Work.run (.getMatch (.of arrow.actor arrow.target)))
  match current.transition target arrow.actor (some reason) now with
  | .error e => Work.reject (.ofTransition e)
  | .ok (.unchanged m) => pure (.unchanged m)
  | .ok (.changed m) =>
    Work.run (.updateMatchState m)
    expirePending m.id now
    archiveOf arrow.actor arrow.target reason now
    pure (.changed m)

/-- A repeated exit drops its unit: there is nothing to write. -/
def gracefulExitWork (arrow : Arrow) (now : Instant) : Work (Ending Match) := do
  match ← leave arrow .gracefulExit .gracefulExit now with
  | .unchanged m => pure (.drop m)
  | .changed m =>
    notify arrow.target (.gracefulExit m.id arrow.actor) now
    pure (.commit m)

def gracefulExit (arrow : Arrow) : Operation Match :=
  .plain (.locked arrow.actor arrow.target 0 fun readings => gracefulExitWork arrow (readings 0))

/-- The other user is not told. -/
def unmatchWork (arrow : Arrow) (now : Instant) : Work (Ending Match) := do
  pure (.commit (← leave arrow .unmatched .unmatch now).result)

def unmatch (arrow : Arrow) : Operation Match :=
  .plain (.locked arrow.actor arrow.target 0 fun readings => unmatchWork arrow (readings 0))

/-! ## Blocks -/

/-- An ended match stays as it is. -/
def blockMatch (arrow : Arrow) (now : Instant) : Work (Option Match) := do
  match ← Work.run (.getMatch (.of arrow.actor arrow.target)) with
  | none => pure none
  | some current =>
    match current.transition .blocked arrow.actor (some .block) now with
    | .ok (.changed m) =>
      Work.run (.updateMatchState m)
      pure (some m)
    | _ => pure (some current)

/-- The conversation of the pair. Where there is a match but no conversation, one is created. -/
def conversationToHide (arrow : Arrow) (hasMatch : Bool) (now : Instant) :
    Work (Option Conversation) := do
  match ← Work.run (.getConversation (.of arrow.actor arrow.target)) with
  | some c => pure (some c)
  | none =>
    if hasMatch then
      some <$> Work.run (.getOrCreateConversation arrow.actor arrow.target now)
    else pure none

/-- The conversation is archived, and hidden from the user who blocks. -/
def blockWork (arrow : Arrow) (now : Instant) : Work (Ending (Option Match)) := do
  let _ ← Work.run (.recordBlock arrow now)
  let result ← blockMatch arrow now
  if result.isSome then expirePending (.of arrow.actor arrow.target) now
  match ← conversationToHide arrow result.isSome now with
  | some c =>
    archiveOnce c .block now
    Work.run (.setVisibility c.id arrow.actor false)
  | none => pure ()
  pure (.commit result)

def block (arrow : Arrow) : Operation (Option Match) :=
  if arrow.actor = arrow.target then
    .plain (.reject (.invalidRequest "users cannot block themselves"))
  else
    .plain (.locked arrow.actor arrow.target 0 fun readings => blockWork arrow (readings 0))

/-- Whether there was a block to lift. The match stays ended. -/
def unblock (arrow : Arrow) : Operation Bool :=
  if arrow.actor = arrow.target then
    .plain (.reject (.invalidRequest "users cannot unblock themselves"))
  else
    .plain (.locked arrow.actor arrow.target 0 fun _ =>
      Ending.commit <$> Work.run (.removeBlock arrow))

end Courtship.Operation
