import Courtship.Proofs.Effect.Command

/-! What a command leaves as a list of changes, made one after the other: rows that are written,
notifications that are added, and the pending requests of a pair that expire together. -/

namespace Courtship.Tables

inductive Change where
  | write (w : Write)
  /-- Closes every request that is pending on the match. -/
  | expire (pair : PairId) (now : Instant)

def change (t : Tables) : Change → Tables
  | .write w => t.write w
  | .expire pair now => t.expire pair now

def changed (t : Tables) (changes : List Change) : Tables := changes.foldl change t

variable (t : Tables) (arrow : Arrow) (now : Instant)

/-! ## Swipes -/

def swipeChanges (direction : Direction) (id : Uuid) : List Change :=
  .write (.like arrow (some (t.upserted arrow direction now id))) ::
    if t.answersLike arrow direction then
      [.write (.matchRow (.of arrow.actor arrow.target)
          (some (t.matchOf arrow.actor arrow.target now))),
        .write (.conversation (.of arrow.actor arrow.target)
          (some (t.conversationOf arrow.actor arrow.target now)))]
    else []

theorem swiped_eq_changed (direction : Direction) (id : Uuid) :
    t.swiped arrow direction now id = t.changed (t.swipeChanges arrow now direction id) := by
  unfold swiped swipeChanges
  split <;> rfl

def undoChanges (l : Like) (ended : Instant) : List Change :=
  .write (.like arrow (some (l.withdrawn now))) ::
    match t.matchToEnd arrow l with
    | some m =>
      [.write (.matchRow (.of arrow.actor arrow.target)
          (some (m.moved .unmatched arrow.actor (some .unmatch) ended))),
        .write (.conversation (.of arrow.actor arrow.target)
          (t.conversations[PairId.of arrow.actor arrow.target]?.map fun c =>
            c.archiveOnce .unmatch ended))]
    | none => []

theorem undone_eq_changed (l : Like) (ended : Instant) :
    t.undone arrow l now ended = t.changed (t.undoChanges arrow now l ended) := by
  unfold undone undoChanges matchEnded
  cases t.matchToEnd arrow l <;> rfl

/-! ## Friend requests -/

def proposeChanges (r : FriendRequest) (noticeId : Uuid) : List Change :=
  [.write (.request r.id (some r)),
    .write (.notification (.new noticeId r.toUser .friendRequest
      (.friendRequest r.id r.matchId r.fromUser r.message) r.createdAt))]

theorem proposed_eq_changed (r : FriendRequest) (noticeId : Uuid) :
    t.proposed r noticeId = t.changed (proposeChanges r noticeId) := rfl

def answerChanges (r : FriendRequest) (m : Match) (accept : Bool) (noticeId : Uuid) :
    List Change :=
  [.write (.matchRow r.matchId
      (some (m.moved (Operation.verdict accept).1 r.toUser (Operation.verdict accept).2.1 now))),
    .write (.request r.id (some (r.closed (Operation.verdict accept).2.2 now))),
    .expire r.matchId now] ++
  (if accept then []
    else [.write (.conversation r.matchId
      (some ((t.conversationOf r.fromUser r.toUser now).archiveOnce .friendZoneDeclined now)))]) ++
  [.write (.notification (.new noticeId r.fromUser
    (Operation.answerPayload accept r r.toUser).type
    (Operation.answerPayload accept r r.toUser) now))]

theorem responded_eq_changed (r : FriendRequest) (m : Match) (accept : Bool) (noticeId : Uuid) :
    t.responded r m accept noticeId now =
      t.changed (t.answerChanges now r m accept noticeId) := by
  cases accept <;> rfl

/-! ## Endings -/

def leaveChanges (m : Match) (target : MatchState) (reason : ArchiveReason) : List Change :=
  [.write (.matchRow (.of arrow.actor arrow.target)
      (some (m.moved target arrow.actor (some reason) now))),
    .expire (.of arrow.actor arrow.target) now,
    .write (.conversation (.of arrow.actor arrow.target)
      (some ((t.conversationOf arrow.actor arrow.target now).archiveOnce reason now)))]

theorem left_eq_changed (m : Match) (target : MatchState) (reason : ArchiveReason) :
    t.left arrow m target reason now =
      t.changed (t.leaveChanges arrow now m target reason) := rfl

def exitChanges (m : Match) (noticeId : Uuid) : List Change :=
  t.leaveChanges arrow now m .gracefulExit .gracefulExit ++
    [.write (.notification (.new noticeId arrow.target .gracefulExit
      (.gracefulExit (.of arrow.actor arrow.target) arrow.actor) now))]

theorem exited_eq_changed (m : Match) (noticeId : Uuid) :
    t.exited arrow m noticeId now = t.changed (t.exitChanges arrow now m noticeId) := rfl

/-! ## Blocks -/

def blockChanges : List Change :=
  (if t.blocks.contains arrow then []
    else [.write (.block arrow (some ⟨arrow.actor, arrow.target, now⟩))]) ++
  [.write (.matchRow (.of arrow.actor arrow.target)
    (t.matchRows[PairId.of arrow.actor arrow.target]?.map fun m =>
      m.barredBy arrow.actor now))] ++
  (if t.matchRows[PairId.of arrow.actor arrow.target]?.isSome then
      [.expire (.of arrow.actor arrow.target) now]
    else []) ++
  [.write (.conversation (.of arrow.actor arrow.target)
    ((t.conversationToHide arrow now).map fun c =>
      (c.archiveOnce .block now).hiddenFrom arrow.actor))]

theorem barred_eq_changed : t.barred arrow now = t.changed (t.blockChanges arrow now) := by
  unfold barred blockChanges blocked
  split <;> split <;> rfl

theorem unblocked_eq_changed :
    t.unblocked arrow = t.changed [.write (.block arrow none)] := rfl

end Courtship.Tables
