import Courtship.Proofs.Requests
import Mathlib.Data.Sym.Sym2

/-! What a command leaves alone. It is about two users: the two that it names, a user and the target
of the swipe that is withdrawn, or the two users of the request that is answered. No record of
another pair changes, also if that pair shares a user with them, and nobody else is told. -/

namespace Courtship

/-! ## Pairs -/

def Arrow.pair (arrow : Arrow) : Sym2 UserId := s(arrow.actor, arrow.target)

def Like.pair (l : Like) : Sym2 UserId := s(l.fromUser, l.toUser)

def Match.pair (m : Match) : Sym2 UserId := s(m.userA, m.userB)

def Block.pair (b : Block) : Sym2 UserId := s(b.blocker, b.blocked)

def FriendRequest.pair (r : FriendRequest) : Sym2 UserId := s(r.fromUser, r.toUser)

def Conversation.pair (c : Conversation) : Sym2 UserId := s(c.userA, c.userB)

theorem PairId.of_eq_iff_pair {a b c d : UserId} : of a b = of c d ↔ s(a, b) = s(c, d) := by
  rw [of_eq_iff, Sym2.eq_iff]

namespace FriendRequest

theorem pair_closed (r : FriendRequest) (status : FriendRequestStatus) (now : Instant) :
    (r.closed status now).pair = r.pair := rfl

theorem pair_expiredOn (r : FriendRequest) (pair : PairId) (now : Instant) :
    (r.expiredOn pair now).pair = r.pair := by
  rw [FriendRequest.pair, expiredOn_fromUser, expiredOn_toUser]
  rfl

end FriendRequest

/-! ## Rows of other pairs -/

/-- A row that does not belong to the pair is found later where it was found before, and only
there. -/
def OthersKept {ν : Type} (pairOf : ν → Sym2 UserId) (pair : Sym2 UserId)
    (found later : Option ν) : Prop :=
  ∀ row, pairOf row ≠ pair → (later = some row ↔ found = some row)

namespace OthersKept

variable {ν : Type} {pairOf : ν → Sym2 UserId} {pair : Sym2 UserId} {found later : Option ν}

theorem same (found : Option ν) : OthersKept pairOf pair found found := fun _ _ => Iff.rfl

theorem of_pair (hfound : ∀ row, found = some row → pairOf row = pair)
    (hlater : ∀ row, later = some row → pairOf row = pair) :
    OthersKept pairOf pair found later := by
  intro row hother
  constructor
  · intro h
    exact absurd (hlater row h) hother
  · intro h
    exact absurd (hfound row h) hother

end OthersKept

namespace Tables

/-- Nothing that does not belong to the pair has changed, and all that was told since was told to
one of the two. -/
structure KeepsOthers (pair : Sym2 UserId) (t t' : Tables) : Prop where
  likes : ∀ arrow : Arrow,
    OthersKept Like.pair pair t.likes[arrow]? t'.likes[arrow]?
  matchRows : ∀ id : PairId,
    OthersKept Match.pair pair t.matchRows[id]? t'.matchRows[id]?
  blocks : ∀ arrow : Arrow,
    OthersKept Block.pair pair t.blocks[arrow]? t'.blocks[arrow]?
  requests : ∀ id : Uuid,
    OthersKept FriendRequest.pair pair t.requests[id]? t'.requests[id]?
  conversations : ∀ id : PairId,
    OthersKept Conversation.pair pair t.conversations[id]? t'.conversations[id]?
  notifications : ∃ told, t'.notifications = t.notifications ++ told ∧
    ∀ n ∈ told, n.recipient ∈ pair

/-- Only rows under keys of the two users are written. Requests have no such keys. -/
structure WritesUnder (a b : UserId) (t t' : Tables) : Prop where
  likes : ∀ arrow : Arrow, arrow.pair ≠ s(a, b) → t'.likes[arrow]? = t.likes[arrow]? := by
    intros; rfl
  matchRows : ∀ id : PairId, id ≠ .of a b → t'.matchRows[id]? = t.matchRows[id]? := by
    intros; rfl
  blocks : ∀ arrow : Arrow, arrow.pair ≠ s(a, b) → t'.blocks[arrow]? = t.blocks[arrow]? := by
    intros; rfl
  requests : ∀ id : Uuid,
    OthersKept FriendRequest.pair s(a, b) t.requests[id]? t'.requests[id]? := by
    intro; exact .same _
  conversations : ∀ id : PairId, id ≠ .of a b → t'.conversations[id]? = t.conversations[id]? := by
    intros; rfl
  notifications : ∃ told, t'.notifications = t.notifications ++ told ∧
    ∀ n ∈ told, n.recipient ∈ s(a, b) := by
    exact ⟨[], (List.append_nil _).symm, by simp⟩

variable {t t' : Tables} {a b : UserId}

namespace Keyed

theorem pair_like (h : t.Keyed) {arrow : Arrow} {l : Like} (hl : t.likes[arrow]? = some l) :
    l.pair = arrow.pair := by
  rw [← h.like hl]
  rfl

theorem pair_block (h : t.Keyed) {arrow : Arrow} {block : Block}
    (hblock : t.blocks[arrow]? = some block) : block.pair = arrow.pair := by
  rw [← h.block hblock]
  rfl

theorem pair_match (h : t.Keyed) {m : Match} (hm : t.matchRows[PairId.of a b]? = some m) :
    m.pair = s(a, b) :=
  PairId.of_eq_iff_pair.1 (h.matchRow hm).2

theorem pair_conversation (h : t.Keyed) {c : Conversation}
    (hc : t.conversations[PairId.of a b]? = some c) : c.pair = s(a, b) :=
  PairId.of_eq_iff_pair.1 (h.conversation hc).2

theorem pair_request (h : t.Keyed) {id : Uuid} {r : FriendRequest}
    (hr : t.requests[id]? = some r) (hon : r.matchId = PairId.of a b) : r.pair = s(a, b) := by
  rw [(h.request hr).2] at hon
  exact PairId.of_eq_iff_pair.1 hon

/-- Rows under a key of the two users belong to them, before the write and after it. -/
theorem keepsOthers (h : t.Keyed) (h' : t'.Keyed) (hwrites : WritesUnder a b t t') :
    t.KeepsOthers s(a, b) t' where
  likes arrow := by
    by_cases hkey : arrow.pair = s(a, b)
    · exact .of_pair (fun _ hl => (h.pair_like hl).trans hkey)
        fun _ hl => (h'.pair_like hl).trans hkey
    · rw [hwrites.likes arrow hkey]
      exact .same _
  matchRows id := by
    by_cases hkey : id = PairId.of a b
    · rw [hkey]
      exact .of_pair (fun _ => h.pair_match) fun _ => h'.pair_match
    · rw [hwrites.matchRows id hkey]
      exact .same _
  blocks arrow := by
    by_cases hkey : arrow.pair = s(a, b)
    · exact .of_pair (fun _ hb => (h.pair_block hb).trans hkey)
        fun _ hb => (h'.pair_block hb).trans hkey
    · rw [hwrites.blocks arrow hkey]
      exact .same _
  requests := hwrites.requests
  conversations id := by
    by_cases hkey : id = PairId.of a b
    · rw [hkey]
      exact .of_pair (fun _ => h.pair_conversation) fun _ => h'.pair_conversation
    · rw [hwrites.conversations id hkey]
      exact .same _
  notifications := hwrites.notifications

/-! ## Writes -/

/-- The requests that expire with the match of two users are theirs. -/
theorem othersKept_expire (h : t.Keyed) (a b : UserId) (now : Instant) (id : Uuid) :
    OthersKept FriendRequest.pair s(a, b) t.requests[id]?
      (t.expire (.of a b) now).requests[id]? := by
  rw [getElem?_expire]
  cases hr : t.requests[id]? with
  | none => exact .same none
  | some r =>
    rcases r.expiredOn_eq_or (.of a b) now with hsame | ⟨_, hon, _⟩
    · rw [Option.map_some, hsame]
      exact .same _
    · have hpair := h.pair_request hr hon
      refine .of_pair ?_ ?_ <;> intro row hrow <;> cases hrow
      · exact hpair
      · rw [r.pair_expiredOn, hpair]

theorem writesUnder_left (h : t.Keyed) (arrow : Arrow) (m : Match) (target : MatchState)
    (reason : ArchiveReason) (now : Instant) :
    WritesUnder arrow.actor arrow.target t (t.left arrow m target reason now) where
  matchRows _ hid := Rows.getElem?_set_of_ne _ hid.symm _
  requests := h.othersKept_expire _ _ now
  conversations _ hid := Rows.getElem?_set_of_ne _ hid.symm _

theorem writesUnder_exited (h : t.Keyed) (arrow : Arrow) (m : Match) (noticeId : Uuid)
    (now : Instant) :
    WritesUnder arrow.actor arrow.target t (t.exited arrow m noticeId now) :=
  { h.writesUnder_left arrow m .gracefulExit .gracefulExit now with
    notifications := ⟨[_], rfl, by simp [Notification.new]⟩ }

theorem writesUnder_barred (h : t.Keyed) (arrow : Arrow) (now : Instant) :
    WritesUnder arrow.actor arrow.target t (t.barred arrow now) where
  matchRows _ hid := Rows.getElem?_set_of_ne _ hid.symm _
  blocks other hother := by
    have hkey : arrow ≠ other := fun e => hother (e ▸ rfl)
    rw [barred_blocks, getElem?_blocked_blocks, if_neg hkey]
  requests id := by
    rw [barred_requests]
    split
    · exact h.othersKept_expire _ _ now id
    · exact .same _
  conversations _ hid := Rows.getElem?_set_of_ne _ hid.symm _

theorem writesUnder_responded (h : t.Keyed) {r : FriendRequest} (hr : t.requests[r.id]? = some r)
    (m : Match) (accept : Bool) (noticeId : Uuid) (now : Instant) :
    WritesUnder r.fromUser r.toUser t (t.responded r m accept noticeId now) where
  matchRows id hid := by
    rw [responded_matchRows, answered_matchRows, (h.request hr).2]
    exact Rows.getElem?_set_of_ne _ hid.symm _
  requests id := by
    rw [getElem?_responded_requests]
    split
    · rename_i hid
      refine .of_pair ?_ ?_ <;> intro row hrow
      · rw [← hid, hr] at hrow
        cases hrow
        rfl
      · cases hrow
        exact r.pair_closed _ now
    · rw [(h.request hr).2, ← getElem?_expire]
      exact h.othersKept_expire _ _ now id
  conversations id hid := by
    rw [responded_conversations, answered_conversations, (h.request hr).2]
    split
    · rfl
    · exact Rows.getElem?_set_of_ne _ hid.symm _
  notifications := ⟨[_], rfl, by simp [Notification.new]⟩

end Keyed

theorem writesUnder_swiped (t : Tables) (arrow : Arrow) (direction : Direction) (now : Instant)
    (id : Uuid) : WritesUnder arrow.actor arrow.target t (t.swiped arrow direction now id) where
  likes other hother := by
    have hkey : arrow ≠ other := fun e => hother (e ▸ rfl)
    exact Rows.getElem?_set_of_ne _ hkey _
  matchRows id hid := by
    rw [swiped_matchRows]
    split
    · exact Rows.getElem?_set_of_ne _ hid.symm _
    · rfl
  conversations id hid := by
    rw [swiped_conversations]
    split
    · exact Rows.getElem?_set_of_ne _ hid.symm _
    · rfl

theorem writesUnder_undone (t : Tables) (arrow : Arrow) (l : Like) (now ended : Instant) :
    WritesUnder arrow.actor arrow.target t (t.undone arrow l now ended) where
  likes other hother := by
    have hkey : arrow ≠ other := fun e => hother (e ▸ rfl)
    exact Rows.getElem?_set_of_ne _ hkey _
  matchRows id hid := by
    rw [undone_matchRows]
    split
    · exact Rows.getElem?_set_of_ne _ hid.symm _
    · rfl
  conversations id hid := by
    rw [undone_conversations]
    split
    · exact Rows.getElem?_set_of_ne _ hid.symm _
    · rfl

theorem writesUnder_proposed {r : FriendRequest} (hfree : t.requests[r.id]? = none)
    (noticeId : Uuid) : WritesUnder r.fromUser r.toUser t (t.proposed r noticeId) where
  requests id := by
    rw [getElem?_proposed_requests]
    split
    · rename_i hid
      refine .of_pair ?_ ?_ <;> intro row hrow
      · rw [← hid, hfree] at hrow
        cases hrow
      · cases hrow
        rfl
    · exact .same _
  notifications := ⟨[_], rfl, by simp [Notification.new]⟩

theorem writesUnder_unblocked (t : Tables) (arrow : Arrow) :
    WritesUnder arrow.actor arrow.target t (t.unblocked arrow) where
  blocks other hother := by
    have hkey : arrow ≠ other := fun e => hother (e ▸ rfl)
    exact Rows.getElem?_set_of_ne _ hkey _

end Tables

/-! ## Commands -/

/-- The two users that a command is about, by the tables that it finds: for an undo the target is
that of the swipe that it withdraws, and for an answer the users are those of the request. -/
inductive Command.About (t : Tables) : (c : Command) → c.Answer → UserId → UserId → Prop
  | swipe (a b : UserId) (direction : Direction) (answer : SwipeResult) :
      About t (.swipe ⟨a, b⟩ direction) answer a b
  | undo (a b : UserId) (answer : UndoResult) (l : Like) (now : Instant)
      (hl : t.likes[(⟨a, b⟩ : Arrow)]? = some l) (hlive : l.isDeleted = false)
      (hundone : answer.undone = l.withdrawn now) : About t (.undoLastSwipe a) answer a b
  | propose (a b : UserId) (message : String) (answer : FriendRequest) :
      About t (.propose ⟨a, b⟩ message) answer a b
  | respond (id : Uuid) (responder : UserId) (accept : Bool) (answer r : FriendRequest)
      (hr : t.requests[id]? = some r) :
      About t (.respond id responder accept) answer r.fromUser r.toUser
  | gracefulExit (a b : UserId) (answer : Match) : About t (.gracefulExit ⟨a, b⟩) answer a b
  | unmatch (a b : UserId) (answer : Match) : About t (.unmatch ⟨a, b⟩) answer a b
  | block (a b : UserId) (answer : Option Match) : About t (.block ⟨a, b⟩) answer a b
  | unblock (a b : UserId) (answer : Bool) : About t (.unblock ⟨a, b⟩) answer a b

variable {settings : Settings} {readings : Readings} {t t' : Tables}

theorem Effect.writesUnder {c : Command} {answer : c.Answer}
    (h : Effect settings readings t c answer t') (ht : t.Keyed) :
    ∃ a b, c.About t answer a b ∧ Tables.WritesUnder a b t t' := by
  cases h with
  | swipe arrow direction id => exact ⟨_, _, .swipe .., t.writesUnder_swiped arrow direction _ id⟩
  | undo arrow l hl =>
    obtain ⟨hstored, hlive, _⟩ := Tables.toWithdraw_ok hl
    exact ⟨_, _, .undo _ _ _ l _ hstored hlive rfl, t.writesUnder_undone arrow l _ _⟩
  | propose arrow message id noticeId hne hopen hfree =>
    have hnew : t.requests[(FriendRequest.new id arrow.actor arrow.target
        (String.ofList (trimmed message.toList)) (readings 0)).id]? = none := hfree
    exact ⟨_, _, .propose .., Tables.writesUnder_proposed hnew noticeId⟩
  | respond id noticeId responder accept r current hfound =>
    obtain ⟨hr, _⟩ := Tables.toAnswer_ok hfound
    obtain rfl := (ht.request hr).1
    exact ⟨_, _, .respond _ _ _ _ r hr, ht.writesUnder_responded hr current accept noticeId _⟩
  | exitAgain => exact ⟨_, _, .gracefulExit .., {}⟩
  | exit arrow current noticeId =>
    exact ⟨_, _, .gracefulExit .., ht.writesUnder_exited arrow current noticeId _⟩
  | unmatch arrow current => exact ⟨_, _, .unmatch .., ht.writesUnder_left arrow current _ _ _⟩
  | block arrow => exact ⟨_, _, .block .., ht.writesUnder_barred arrow _⟩
  | unblock arrow => exact ⟨_, _, .unblock .., t.writesUnder_unblocked arrow⟩

theorem Effect.keepsOthers {c : Command} {answer : c.Answer}
    (h : Effect settings readings t c answer t') (ht : t.Keyed) :
    ∃ a b, c.About t answer a b ∧ t.KeepsOthers s(a, b) t' := by
  obtain ⟨a, b, habout, hwrites⟩ := h.writesUnder ht
  exact ⟨a, b, habout, ht.keepsOthers (h.keyed ht) hwrites⟩

/-! ## Operations -/

/-- The attempt that is answered with a success finds the tables of the first one. -/
theorem Plan.exists_inUnit_of_attempts {α : Type} {body : Readings → Work (Ending α)}
    {retries : Nat} {readings : Readings} {m m' : Memory} {answer : α}
    (h : attempts body retries readings m = (.ok answer, m')) :
    ∃ (last : Readings) (before : Memory), before.tables = m.tables ∧
      (body last).inUnit before = (.ok answer, m') := by
  induction retries generalizing readings m with
  | zero => exact ⟨readings, m, rfl, h⟩
  | succ retries ih =>
    rw [attempts] at h
    split at h
    · rename_i hunit
      obtain ⟨last, before, htables, hlast⟩ := ih h
      exact ⟨last, before, htables.trans (Work.tables_inUnit_error hunit), hlast⟩
    · exact ⟨readings, m, rfl, h⟩

/-- A command that is carried out with nothing else going on has one of its effects too. -/
theorem effect_of_run {c : Command} {first second : Readings} {m m' : Memory} {answer : c.Answer}
    (hm : m.tables.Keyed)
    (h : (c.operation settings).run first second m = (.ok answer, m')) :
    ∃ last, Effect settings last m.tables c answer m'.tables := by
  have htables := (c.operation settings).tables_plan first m
  have hanswer := World.plan_ne_answer_ok settings c first m
  rcases hplan : (c.operation settings).plan first m with ⟨result | ⟨a, b, retries, body⟩, m₁⟩ <;>
    rw [hplan] at htables hanswer <;> simp only [Operation.run, hplan] at h
  · cases h
    exact absurd rfl (hanswer answer)
  · obtain ⟨last, before, hbefore, hunit⟩ := Plan.exists_inUnit_of_attempts h
    have hsame : before.tables = m.tables := hbefore.trans htables
    refine ⟨last, ?_⟩
    rw [← hsame]
    exact effect_of_inUnit (by rw [hplan]) (hsame ▸ hm) hunit

namespace World

/-- **Third parties are left alone.** Along a run each step keeps the tables, or is the success of a
command, and then it keeps every record but those of the two users that the command is about, and
tells nobody else. So does a command that is carried out as a whole on the memory of a run. -/
theorem others_unchanged (settings : Settings) :
    (∀ (events : List Event) (e : Event),
      let w := run settings events
      let w' := run settings (events ++ [e])
      (w'.memory.tables = w.memory.tables ∧
        (w'.outcomes = w.outcomes ∨ ∃ c why, w'.outcomes = .failed c why :: w.outcomes)) ∨
      ∃ c readings answer a b, w'.outcomes = .done c readings answer :: w.outcomes ∧
        c.About w.memory.tables answer a b ∧
        w.memory.tables.KeepsOthers s(a, b) w'.memory.tables) ∧
    (∀ (events : List Event) (c : Command) (first second : Readings),
      let m := (run settings events).memory
      (∃ why m', (c.operation settings).run first second m = (.error why, m') ∧
        m'.tables = m.tables) ∨
      ∃ answer m' a b, (c.operation settings).run first second m = (.ok answer, m') ∧
        c.About m.tables answer a b ∧ m.tables.KeepsOthers s(a, b) m'.tables) := by
  constructor
  · intro events e
    dsimp only
    have hsound : (run settings events).Sound settings := sound_run events
    rw [run_concat]
    cases stepResult hsound e with
    | kept htables houtcomes => exact .inl ⟨htables, .inl houtcomes⟩
    | failed c why htables houtcomes => exact .inl ⟨htables, .inr ⟨c, why, houtcomes⟩⟩
    | done c readings answer heffect houtcomes =>
      obtain ⟨a, b, habout, hkeeps⟩ := heffect.keepsOthers hsound.keyed
      exact .inr ⟨c, readings, answer, a, b, houtcomes, habout, hkeeps⟩
  · intro events c first second
    dsimp only
    have hsound : (run settings events).Sound settings := sound_run events
    have hkeyed := hsound.keyed
    rcases hrun : (c.operation settings).run first second (run settings events).memory with
      ⟨why | answer, m'⟩
    · exact .inl ⟨why, m', rfl, Operation.tables_run_error hrun⟩
    · obtain ⟨last, heffect⟩ := effect_of_run hkeyed hrun
      obtain ⟨a, b, habout, hkeeps⟩ := heffect.keepsOthers hkeyed
      exact .inr ⟨answer, m', a, b, rfl, habout, hkeeps⟩

end World

end Courtship
