import Courtship.Operation.Ending
import Courtship.Settings.Basic
import Courtship.Text.Basic

/-! Proposing to turn an active match into a friendship, and answering such a proposal. -/

namespace Courtship.Operation

/-! ## Proposals -/

def requireActive (arrow : Arrow) : Work Unit := do
  match ← Work.run (.getMatch (.of arrow.actor arrow.target)) with
  | some m => if m.state = .active then pure () else Work.reject .noActiveMatch
  | none => Work.reject .noActiveMatch

/-- The message as it is stored: without white space at its ends, and long enough. -/
def storedMessage (settings : RelationshipSettings) (message : String) : Work String :=
  let kept := trimmed message.toList
  if kept.length < settings.minFriendRequestLength.toNat then
    Work.reject (.messageTooShort settings.minFriendRequestLength.toNat)
  else pure (String.ofList kept)

def requireNonePending (arrow : Arrow) : Work Unit := do
  if (← Work.run (.findPendingRequest arrow (.of arrow.actor arrow.target))).isSome then
    Work.reject .requestPending

/-- The day of the limit starts at midnight. -/
def requireQuota (settings : RelationshipSettings) (sender : UserId) (now : Instant) :
    Work Unit := do
  if settings.friendRequestsPerDay.toNat ≤ (← Work.run (.countRequestsSince sender now.startOfDay))
  then Work.reject (.rateLimited settings.friendRequestsPerDay.toNat)

def proposeWork (settings : RelationshipSettings) (arrow : Arrow) (message : String)
    (now : Instant) : Work (Ending FriendRequest) := do
  requireActive arrow
  let message ← storedMessage settings message
  requireNonePending arrow
  requireQuota settings arrow.actor now
  let request := FriendRequest.new (← Work.fresh) arrow.actor arrow.target message now
  Work.run (.insertRequest request)
  notify arrow.target
    (.friendRequest request.id (.of arrow.actor arrow.target) arrow.actor message) now
  pure (.commit request)

def propose (settings : RelationshipSettings) (arrow : Arrow) (message : String) :
    Operation FriendRequest :=
  if arrow.actor = arrow.target then
    .plain (.reject (.invalidRequest "cannot send a friend request to yourself"))
  else
    .plain (.locked arrow.actor arrow.target 0 fun readings =>
      proposeWork settings arrow message (readings 0))

/-! ## Answers -/

/-- The request, if `responder` may answer it. -/
def answerable (id : Uuid) (responder : UserId) : Work FriendRequest := do
  let request ← Work.orReject .requestNotFound (← Work.run (.getRequest id))
  if request.toUser ≠ responder then Work.reject .notAuthorized
  else if !request.isPending then Work.reject .alreadyResponded
  else pure request

def activeMatchOf (request : FriendRequest) : Work Match := do
  let current ← Work.orReject .matchNotFound (← Work.run (.getMatch request.matchId))
  if current.state = .active then pure current
  else if current.state.isTerminal then Work.reject (.alreadyTerminal current.state)
  else Work.reject .noActiveMatch

/-- What an answer makes of the match, why it ends if it does, and what becomes of the request. -/
def verdict (accept : Bool) : MatchState × Option ArchiveReason × FriendRequestStatus :=
  if accept then (.friends, none, .accepted)
  else (.unmatched, some .friendZoneDeclined, .declined)

def answerPayload (accept : Bool) (request : FriendRequest) (responder : UserId) :
    NotificationPayload :=
  if accept then .friendRequestAccepted request.id request.matchId responder
  else .friendRequestDeclined request.id request.matchId responder

/-- The request gets its own status before the others on the match expire. -/
def respondWork (id : Uuid) (responder : UserId) (accept : Bool) (now : Instant) :
    Work (Ending FriendRequest) := do
  let request ← answerable id responder
  let current ← activeMatchOf request
  let (target, reason, status) := verdict accept
  match current.transition target responder reason now with
  | .error e => Work.reject (.ofTransition e)
  | .ok transition =>
    let next := transition.result
    Work.run (.updateMatchState next)
    Work.run (.updateRequestStatus request.id status now)
    expirePending next.id now
    match reason with
    | some reason => archiveOf request.fromUser request.toUser reason now
    | none => pure ()
    notify request.fromUser (answerPayload accept request responder) now
    pure (.commit (request.closed status now))

/-- Finds out whose locks are needed without a lock. -/
def respond (id : Uuid) (responder : UserId) (accept : Bool) : Operation FriendRequest :=
  .reading (.call (.getRequest id) fun found => .done fun _ =>
    match found with
    | none => .reject .requestNotFound
    | some r =>
      .locked r.fromUser r.toUser 0 fun readings => respondWork id responder accept (readings 0))

end Courtship.Operation
