import Courtship.Proofs.Drafts
import Courtship.Proofs.Frame

/-! What an operation reads. It looks only at records of its users: where two sets of tables agree
on these, its draft is the same, whatever else is stored. -/

namespace Courtship

/-! ## Users -/

/-- The users that a command is about. -/
def Command.users (rank : Arrow → Nat) (t : Tables) : Command → List UserId
  | swipe arrow _ | propose arrow _ | gracefulExit arrow | unmatch arrow | block arrow
  | unblock arrow => [arrow.actor, arrow.target]
  | undoLastSwipe user => user :: (t.latestLikeBy rank user).toList.map Like.toUser
  | respond id responder _ =>
    responder :: t.requests[id]?.toList.flatMap fun r => [r.fromUser, r.toUser]

def Question.users : Question → List UserId
  | matchesFor user | blockedBy user | pendingRequestsFor user | notificationsFor user => [user]
  | conversation a b => [a, b]
  | canMessage arrow => [arrow.actor, arrow.target]

namespace Action

def users (rank : Arrow → Nat) (t : Tables) : Action → List UserId
  | command c => c.users rank t
  | question q => q.users

/-- The identifier of the request that it answers. -/
def request? : Action → Option Uuid
  | command (.respond id ..) => some id
  | _ => none

end Action

/-! ## Tables that agree -/

namespace Tables

/-- The records of these users are the same. -/
structure AgreeOn (users : List UserId) (t t' : Tables) : Prop where
  likes : ∀ arrow : Arrow, arrow.actor ∈ users ∨ arrow.target ∈ users →
    t'.likes[arrow]? = t.likes[arrow]?
  matchRows : ∀ a b : UserId, a ∈ users ∨ b ∈ users →
    t'.matchRows[PairId.of a b]? = t.matchRows[PairId.of a b]?
  blocks : ∀ arrow : Arrow, arrow.actor ∈ users ∨ arrow.target ∈ users →
    t'.blocks[arrow]? = t.blocks[arrow]?
  requests : ∀ (id : Uuid) (r : FriendRequest), r.fromUser ∈ users ∨ r.toUser ∈ users →
    (t'.requests[id]? = some r ↔ t.requests[id]? = some r)
  conversations : ∀ a b : UserId, a ∈ users ∨ b ∈ users →
    t'.conversations[PairId.of a b]? = t.conversations[PairId.of a b]?
  notifications : ∀ user ∈ users,
    t'.notifications.filter (fun n => n.recipient = user) =
      t.notifications.filter fun n => n.recipient = user

variable {users : List UserId} {t t' : Tables} {a b : UserId}

theorem ne_pair {c d : UserId} (ha : a ∉ users) (hb : b ∉ users) (h : c ∈ users ∨ d ∈ users) :
    s(c, d) ≠ s(a, b) := by
  intro hpair
  rcases Sym2.eq_iff.1 hpair with ⟨rfl, rfl⟩ | ⟨rfl, rfl⟩ <;> rcases h with h | h <;>
    contradiction

/-- Writes under a pair of other users leave the records of these as they were. -/
theorem WritesUnder.agreeOn (h : WritesUnder a b t t') (ha : a ∉ users) (hb : b ∉ users) :
    AgreeOn users t t' where
  likes arrow hmem := h.likes arrow (ne_pair ha hb hmem)
  matchRows _ _ hmem := h.matchRows _ fun hid =>
    ne_pair ha hb hmem (PairId.of_eq_iff_pair.1 hid)
  blocks arrow hmem := h.blocks arrow (ne_pair ha hb hmem)
  requests id r hmem := h.requests id r (ne_pair ha hb hmem)
  conversations _ _ hmem := h.conversations _ fun hid =>
    ne_pair ha hb hmem (PairId.of_eq_iff_pair.1 hid)
  notifications user huser := by
    obtain ⟨told, htold, hrecipient⟩ := h.notifications
    have hnone : told.filter (fun n => n.recipient = user) = [] := by
      rw [List.filter_eq_nil_iff]
      intro n hn hto
      have hpair := Sym2.mem_iff.1 (hrecipient n hn)
      rw [of_decide_eq_true hto] at hpair
      rcases hpair with rfl | rfl <;> contradiction
    rw [htold, List.filter_append, hnone, List.append_nil]

namespace AgreeOn

theorem refl (users : List UserId) (t : Tables) : AgreeOn users t t where
  likes _ _ := rfl
  matchRows _ _ _ := rfl
  blocks _ _ := rfl
  requests _ _ _ := Iff.rfl
  conversations _ _ _ := rfl
  notifications _ _ := rfl

theorem trans {t'' : Tables} (h : AgreeOn users t t') (h' : AgreeOn users t' t'') :
    AgreeOn users t t'' where
  likes arrow hmem := (h'.likes arrow hmem).trans (h.likes arrow hmem)
  matchRows a b hmem := (h'.matchRows a b hmem).trans (h.matchRows a b hmem)
  blocks arrow hmem := (h'.blocks arrow hmem).trans (h.blocks arrow hmem)
  requests id r hmem := (h'.requests id r hmem).trans (h.requests id r hmem)
  conversations a b hmem := (h'.conversations a b hmem).trans (h.conversations a b hmem)
  notifications user hmem := (h'.notifications user hmem).trans (h.notifications user hmem)

variable {arrow : Arrow} {user : UserId}

/-! ## Scans -/

theorem liveSwipesBy (h : AgreeOn users t t') (ht : t.Keyed) (ht' : t'.Keyed)
    (huser : user ∈ users) : t'.liveSwipesBy user = t.liveSwipesBy user := by
  apply Rows.filter_values_congr
  intro arrow l hl
  rw [Bool.and_eq_true, decide_eq_true_eq] at hl
  have hactor : l.arrow.actor = user := hl.1
  constructor
  · intro hstored
    obtain rfl := ht'.like hstored
    rw [← h.likes _ (.inl (hactor ▸ huser)), hstored]
  · intro hstored
    obtain rfl := ht.like hstored
    rw [h.likes _ (.inl (hactor ▸ huser)), hstored]

theorem latestLikeBy (h : AgreeOn users t t') (ht : t.Keyed) (ht' : t'.Keyed)
    (huser : user ∈ users) (rank : Arrow → Nat) :
    t'.latestLikeBy rank user = t.latestLikeBy rank user := by
  rw [Tables.latestLikeBy, h.liveSwipesBy ht ht' huser, Tables.latestLikeBy]

theorem matchesFor (h : AgreeOn users t t') (ht : t.Keyed) (ht' : t'.Keyed)
    (huser : user ∈ users) : t'.matchesFor user = t.matchesFor user := by
  unfold Tables.matchesFor
  congr 1
  apply Rows.filter_values_congr
  intro pair m hm
  have hmem : m.userA ∈ users ∨ m.userB ∈ users := by
    simp only [Match.involves, Bool.or_eq_true, decide_eq_true_eq] at hm
    rcases hm with rfl | rfl
    · exact .inl huser
    · exact .inr huser
  constructor
  · intro hstored
    obtain ⟨_, rfl⟩ := ht'.matchRow hstored
    rw [← h.matchRows _ _ hmem, hstored]
  · intro hstored
    obtain ⟨_, rfl⟩ := ht.matchRow hstored
    rw [h.matchRows _ _ hmem, hstored]

theorem blockedBy (h : AgreeOn users t t') (ht : t.Keyed) (ht' : t'.Keyed)
    (huser : user ∈ users) : t'.blockedBy user = t.blockedBy user := by
  unfold Tables.blockedBy
  congr 1
  apply Rows.filter_values_congr
  intro arrow b hb
  have hactor : b.arrow.actor = user := of_decide_eq_true hb
  constructor
  · intro hstored
    obtain rfl := ht'.block hstored
    rw [← h.blocks _ (.inl (hactor ▸ huser)), hstored]
  · intro hstored
    obtain rfl := ht.block hstored
    rw [h.blocks _ (.inl (hactor ▸ huser)), hstored]

/-- A scan for requests that one of the users sent or was sent. -/
theorem requestScan (h : AgreeOn users t t') {p : FriendRequest → Bool}
    (hp : ∀ r, p r = true → r.fromUser ∈ users ∨ r.toUser ∈ users) :
    t'.requests.values.filter p = t.requests.values.filter p :=
  Rows.filter_values_congr fun id r hr => h.requests id r (hp r hr)

theorem findPendingRequest (h : AgreeOn users t t') (hactor : arrow.actor ∈ users)
    (pair : PairId) : t'.findPendingRequest arrow pair = t.findPendingRequest arrow pair := by
  unfold Tables.findPendingRequest pendingRequests
  rw [List.find?_filter, List.find?_filter, ← List.head?_filter, ← List.head?_filter,
    h.requestScan]
  intro r hr
  simp only [Bool.and_eq_true, decide_eq_true_eq] at hr
  exact .inl (hr.2.1.1 ▸ hactor)

theorem countRequestsSince (h : AgreeOn users t t') (huser : user ∈ users) (since : Instant) :
    t'.countRequestsSince user since = t.countRequestsSince user since := by
  unfold Tables.countRequestsSince
  rw [List.countP_eq_length_filter, List.countP_eq_length_filter, h.requestScan]
  intro r hr
  simp only [Bool.and_eq_true, decide_eq_true_eq] at hr
  exact .inl (hr.1 ▸ huser)

theorem pendingRequestsFor (h : AgreeOn users t t') (huser : user ∈ users) :
    t'.pendingRequestsFor user = t.pendingRequestsFor user := by
  unfold Tables.pendingRequestsFor pendingRequests
  rw [List.filter_filter, List.filter_filter, h.requestScan]
  intro r hr
  simp only [Bool.and_eq_true, decide_eq_true_eq] at hr
  exact .inr (hr.1 ▸ huser)

theorem notificationsFor (h : AgreeOn users t t') (huser : user ∈ users) :
    t'.notificationsFor user = t.notificationsFor user := by
  rw [Tables.notificationsFor, h.notifications user huser, Tables.notificationsFor]

/-! ## What commands look up -/

theorem matchOf (h : AgreeOn users t t') (hmem : a ∈ users ∨ b ∈ users) (now : Instant) :
    t'.matchOf a b now = t.matchOf a b now := by
  rw [Tables.matchOf, h.matchRows _ _ hmem, Tables.matchOf]

theorem conversationOf (h : AgreeOn users t t') (hmem : a ∈ users ∨ b ∈ users) (now : Instant) :
    t'.conversationOf a b now = t.conversationOf a b now := by
  rw [Tables.conversationOf, h.conversations _ _ hmem, Tables.conversationOf]

theorem blocksContains (h : AgreeOn users t t')
    (hmem : arrow.actor ∈ users ∨ arrow.target ∈ users) :
    t'.blocks.contains arrow = t.blocks.contains arrow := by
  rw [Rows.contains_eq, h.blocks arrow hmem, Rows.contains_eq]

section

variable (h : AgreeOn users t t') (hactor : arrow.actor ∈ users) (now : Instant)

include h hactor

theorem likesContains : t'.likes.contains arrow = t.likes.contains arrow := by
  rw [Rows.contains_eq, h.likes arrow (.inl hactor), Rows.contains_eq]

theorem swipeRefusal : t'.swipeRefusal arrow = t.swipeRefusal arrow := by
  have hback : t'.blocks.contains ⟨arrow.target, arrow.actor⟩ =
      t.blocks.contains ⟨arrow.target, arrow.actor⟩ := h.blocksContains (.inr hactor)
  unfold Tables.swipeRefusal Tables.isBlocked
  rw [h.blocksContains (.inl hactor), hback, h.matchRows _ _ (.inl hactor)]

theorem answersLike (direction : Direction) :
    t'.answersLike arrow direction = t.answersLike arrow direction := by
  unfold Tables.answersLike hasLiveLike
  rw [h.likes ⟨arrow.target, arrow.actor⟩ (.inr hactor)]

theorem upserted (direction : Direction) (id : Uuid) :
    t'.upserted arrow direction now id = t.upserted arrow direction now id := by
  unfold Tables.upserted
  rw [h.likes arrow (.inl hactor)]

theorem swipeResult (direction : Direction) (id : Uuid) :
    t'.swipeResult arrow direction now id = t.swipeResult arrow direction now id := by
  unfold Tables.swipeResult
  rw [h.answersLike hactor, h.matchOf (.inl hactor), h.upserted hactor,
    h.matchRows _ _ (.inl hactor)]

theorem swipeChanges (direction : Direction) (id : Uuid) :
    t'.swipeChanges arrow now direction id = t.swipeChanges arrow now direction id := by
  unfold Tables.swipeChanges
  rw [h.upserted hactor, h.answersLike hactor, h.matchOf (.inl hactor),
    h.conversationOf (.inl hactor)]

theorem matchToEnd (l : Like) : t'.matchToEnd arrow l = t.matchToEnd arrow l := by
  unfold Tables.matchToEnd untouchedMatch
  rw [h.matchRows _ _ (.inl hactor)]

theorem undoChanges (l : Like) (ended : Instant) :
    t'.undoChanges arrow now l ended = t.undoChanges arrow now l ended := by
  unfold Tables.undoChanges
  rw [h.matchToEnd hactor, h.conversations _ _ (.inl hactor)]

theorem proposalRefusal (settings : RelationshipSettings) (message : String) :
    t'.proposalRefusal settings arrow message now =
      t.proposalRefusal settings arrow message now := by
  unfold Tables.proposalRefusal isActive
  rw [h.matchRows _ _ (.inl hactor), h.findPendingRequest hactor, h.countRequestsSince hactor]

theorem exitedMatch : t'.exitedMatch arrow = t.exitedMatch arrow := by
  unfold Tables.exitedMatch
  rw [h.matchRows _ _ (.inl hactor)]

theorem matchToLeave : t'.matchToLeave arrow = t.matchToLeave arrow := by
  unfold Tables.matchToLeave
  rw [h.matchRows _ _ (.inl hactor)]

theorem leaveChanges (m : Match) (target : MatchState) (reason : ArchiveReason) :
    t'.leaveChanges arrow now m target reason = t.leaveChanges arrow now m target reason := by
  unfold Tables.leaveChanges
  rw [h.conversationOf (.inl hactor)]

theorem exitChanges (m : Match) (noticeId : Uuid) :
    t'.exitChanges arrow now m noticeId = t.exitChanges arrow now m noticeId := by
  unfold Tables.exitChanges
  rw [h.leaveChanges hactor]

theorem blockChanges : t'.blockChanges arrow now = t.blockChanges arrow now := by
  unfold Tables.blockChanges conversationToHide
  rw [h.blocksContains (.inl hactor), h.matchRows _ _ (.inl hactor),
    h.conversations _ _ (.inl hactor)]

theorem canMessage : t'.canMessage arrow = t.canMessage arrow := by
  unfold Tables.canMessage
  rw [h.matchRows _ _ (.inl hactor), h.conversations _ _ (.inl hactor)]

end

theorem undoDraft (h : AgreeOn users t t') (ht : t.Keyed) (ht' : t'.Keyed)
    (huser : user ∈ users) (rank : Arrow → Nat) (check : Operation.AgeCheck) (now : Instant) :
    t'.undoDraft rank check user now = t.undoDraft rank check user now := by
  have hend : ∀ b l, t'.matchEnded ⟨user, b⟩ l now = t.matchEnded ⟨user, b⟩ l now := by
    intro b l
    rw [Tables.matchEnded, h.matchToEnd huser, Tables.matchEnded]
  have hchanges : ∀ b l, t'.undoChanges ⟨user, b⟩ now l now = t.undoChanges ⟨user, b⟩ now l now :=
    fun b l => h.undoChanges huser now l now
  simp only [Tables.undoDraft, Tables.lastInWindow, h.latestLikeBy ht ht' huser, hend, hchanges]

theorem toAnswer (h : AgreeOn users t t') (ht : t.Keyed) {id : Uuid}
    (hid : t'.requests[id]? = t.requests[id]?)
    (hmem : ∀ r, t.requests[id]? = some r → r.fromUser ∈ users) (responder : UserId) :
    t'.toAnswer id responder = t.toAnswer id responder := by
  unfold Tables.toAnswer
  rw [hid]
  cases hr : t.requests[id]? with
  | none => rfl
  | some r =>
    dsimp only
    rw [(ht.request hr).2, h.matchRows _ _ (.inl (hmem r hr))]

theorem answerChanges (h : AgreeOn users t t') {r : FriendRequest} (hmem : r.fromUser ∈ users)
    (now : Instant) (m : Match) (accept : Bool) (noticeId : Uuid) :
    t'.answerChanges now r m accept noticeId = t.answerChanges now r m accept noticeId := by
  unfold Tables.answerChanges
  rw [h.conversationOf (.inl hmem)]

end AgreeOn

end Tables

/-! ## Drafts -/

variable {settings : Settings} {now : Instant} {rejects : Bool} {rank : Arrow → Nat}
  {new : Nat → Uuid} {t t' : Tables}

/-- A command drafts the same on tables that agree on its users, as long as the request that it
answers is stored in both of them or in neither. -/
theorem Command.draft_congr {c : Command} (h : t.AgreeOn (c.users rank t) t') (ht : t.Keyed)
    (ht' : t'.Keyed)
    (hrequest : ∀ id, (Action.command c).request? = some id → t.requests[id]? = none →
      t'.requests[id]? = none) :
    c.draft settings now rejects rank t' new = c.draft settings now rejects rank t new := by
  cases c with
  | swipe arrow direction =>
    have hactor : arrow.actor ∈ (swipe arrow direction).users rank t := List.mem_cons_self
    simp only [draft, h.swipeRefusal hactor, h.swipeResult hactor, h.swipeChanges hactor,
      h.likesContains hactor]
  | undoLastSwipe user =>
    exact h.undoDraft ht ht' List.mem_cons_self rank _ now
  | propose arrow message =>
    have hactor : arrow.actor ∈ (propose arrow message).users rank t := List.mem_cons_self
    simp only [draft, h.proposalRefusal hactor]
  | respond id responder accept =>
    have hid : t'.requests[id]? = t.requests[id]? := by
      cases hr : t.requests[id]? with
      | none => exact hrequest id rfl hr
      | some r =>
        refine (h.requests id r (.inl ?_)).2 hr
        simp [users, hr]
    have hmem : ∀ r, t.requests[id]? = some r →
        r.fromUser ∈ (respond id responder accept).users rank t := by
      intro r hr
      simp [users, hr]
    rw [draft, draft, h.toAnswer ht hid hmem]
    cases hfound : t.toAnswer id responder with
    | error e => rfl
    | ok found =>
      obtain ⟨r, current⟩ := found
      dsimp only
      rw [h.answerChanges (hmem r (Tables.toAnswer_ok hfound).1)]
  | gracefulExit arrow =>
    have hactor : arrow.actor ∈ (gracefulExit arrow).users rank t := List.mem_cons_self
    simp only [draft, h.exitedMatch hactor, h.matchToLeave hactor, h.exitChanges hactor]
  | unmatch arrow =>
    have hactor : arrow.actor ∈ (unmatch arrow).users rank t := List.mem_cons_self
    simp only [draft, h.matchToLeave hactor, h.leaveChanges hactor]
  | block arrow =>
    have hactor : arrow.actor ∈ (block arrow).users rank t := List.mem_cons_self
    simp only [draft, h.matchRows _ _ (.inl hactor), h.blockChanges hactor]
  | unblock arrow =>
    have hactor : arrow.actor ∈ (unblock arrow).users rank t := List.mem_cons_self
    simp only [draft, h.blocksContains (.inl hactor)]

theorem Question.reply_congr {q : Question} (h : t.AgreeOn q.users t') (ht : t.Keyed)
    (ht' : t'.Keyed) : q.reply t' = q.reply t := by
  cases q with
  | matchesFor user => exact h.matchesFor ht ht' List.mem_cons_self
  | blockedBy user => exact h.blockedBy ht ht' List.mem_cons_self
  | pendingRequestsFor user => exact h.pendingRequestsFor List.mem_cons_self
  | notificationsFor user => exact h.notificationsFor List.mem_cons_self
  | conversation a b => exact h.conversations a b (.inl List.mem_cons_self)
  | canMessage arrow => exact h.canMessage List.mem_cons_self

theorem Action.draft_congr {a : Action} (h : t.AgreeOn (a.users rank t) t') (ht : t.Keyed)
    (ht' : t'.Keyed)
    (hrequest : ∀ id, a.request? = some id → t.requests[id]? = none →
      t'.requests[id]? = none) :
    a.draft settings now rejects rank t' new = a.draft settings now rejects rank t new := by
  cases a with
  | command c => exact c.draft_congr h ht ht' hrequest
  | question q => rw [draft, draft, q.reply_congr h ht ht']

end Courtship
