import Courtship.Operation.FriendZone
import Courtship.Operation.Swiping

/-! Everything that can be asked: commands, which write, and questions, which only read. -/

namespace Courtship

inductive Command where
  | swipe (arrow : Arrow) (direction : Direction)
  | undoLastSwipe (user : UserId)
  | propose (arrow : Arrow) (message : String)
  | respond (request : Uuid) (responder : UserId) (accept : Bool)
  | gracefulExit (arrow : Arrow)
  | unmatch (arrow : Arrow)
  | block (arrow : Arrow)
  | unblock (arrow : Arrow)

namespace Command

@[reducible] def Answer : Command → Type
  | swipe .. => SwipeResult
  | undoLastSwipe _ => UndoResult
  | propose .. => FriendRequest
  | respond .. => FriendRequest
  | gracefulExit _ => Match
  | unmatch _ => Match
  | block _ => Option Match
  | unblock _ => Bool

def operation (settings : Settings) : (c : Command) → Operation c.Answer
  | swipe arrow direction => .swipe settings.matching arrow direction
  | undoLastSwipe user => .undoLastSwipe (Operation.requireInWindow settings.matching) user
  | propose arrow message => .propose settings.relationships arrow message
  | respond request responder accept => .respond request responder accept
  | gracefulExit arrow => .gracefulExit arrow
  | unmatch arrow => .unmatch arrow
  | block arrow => .block arrow
  | unblock arrow => .unblock arrow

end Command

inductive Question where
  | matchesFor (user : UserId)
  | blockedBy (blocker : UserId)
  | pendingRequestsFor (user : UserId)
  | notificationsFor (user : UserId)
  | conversation (a b : UserId)
  /-- Whether the actor may send the target a message now. -/
  | canMessage (arrow : Arrow)

namespace Question

@[reducible] def Answer : Question → Type
  | matchesFor _ => List Match
  | blockedBy _ => List Block
  | pendingRequestsFor _ => List FriendRequest
  | notificationsFor _ => List Notification
  | conversation .. => Option Conversation
  | canMessage _ => Bool

/-- The match must allow messages, and the conversation be open and shown to the sender. -/
def canMessageWork (arrow : Arrow) : Work Bool := do
  match ← Work.run (.getMatch (.of arrow.actor arrow.target)) with
  | none => pure false
  | some m =>
    if !m.canMessage || !m.involves arrow.actor then pure false
    else
      let c ← Work.run (.getConversation (.of arrow.actor arrow.target))
      pure (c.any fun c => !c.isArchived && c.isAccessibleTo arrow.actor)

def work : (q : Question) → Work q.Answer
  | matchesFor user => Work.run (.matchesFor user)
  | blockedBy blocker => Work.run (.blockedBy blocker)
  | pendingRequestsFor user => Work.run (.pendingRequestsFor user)
  | notificationsFor user => Work.run (.notificationsFor user)
  | conversation a b => Work.run (.getConversation (.of a b))
  | canMessage arrow => canMessageWork arrow

/-- Nobody waits for a lock to get an answer. -/
def operation (q : Question) : Operation q.Answer :=
  .reading (q.work.bind fun a => .done fun _ => .answer (.ok a))

end Question

end Courtship
