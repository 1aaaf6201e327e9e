import Courtship.Proofs.Agreement
import Courtship.Proofs.Apart

/-! What the changes of an operation are about: records of two of its users. A request that it
writes is one of theirs, or a new one. -/

namespace Courtship

/-- Whether the draft is for records of the two users, where a request that it writes is one of
theirs or new. -/
structure Draft.For {α : Type} (d : Draft α) (t : Tables) (new : Nat → Uuid) (a b : UserId) :
    Prop where
  changes : ∀ x ∈ d.changes, x.Of a b
  requests : ∀ x ∈ d.changes, ∀ id, x.request? = some id →
    (∃ i < d.taken, id = new i) ∨ ∃ r, t.requests[id]? = some r ∧ r.matchId = .of a b
  writes : Tables.WritesUnder a b t (t.changed d.changes)

namespace Draft

variable {α : Type} {d : Draft α} {t : Tables} {new : Nat → Uuid} {a b : UserId}

theorem for_of_unchanged (h : d.changes = []) : d.For t new a b where
  changes := by simp [h]
  requests := by simp [h]
  writes := by
    rw [h]
    exact {}

/-- No request is written, except that some may expire. -/
theorem for_of_plain (h : ∀ x ∈ d.changes, x.Of a b ∧ x.request? = none)
    (hwrites : Tables.WritesUnder a b t (t.changed d.changes)) : d.For t new a b where
  changes x hx := (h x hx).1
  requests x hx id hid := by
    rw [(h x hx).2] at hid
    cases hid
  writes := hwrites

end Draft

namespace Tables

variable {t : Tables} {arrow : Arrow} {now : Instant}

theorem plain_swipeChanges (direction : Direction) (id : Uuid) :
    ∀ x ∈ t.swipeChanges arrow now direction id,
      x.Of arrow.actor arrow.target ∧ x.request? = none := by
  unfold swipeChanges
  split <;> simp [Change.Of, Change.request?, Arrow.pair]

theorem plain_undoChanges (l : Like) (ended : Instant) :
    ∀ x ∈ t.undoChanges arrow now l ended,
      x.Of arrow.actor arrow.target ∧ x.request? = none := by
  unfold undoChanges
  split <;> simp [Change.Of, Change.request?, Arrow.pair]

theorem plain_leaveChanges (m : Match) (target : MatchState) (reason : ArchiveReason) :
    ∀ x ∈ t.leaveChanges arrow now m target reason,
      x.Of arrow.actor arrow.target ∧ x.request? = none := by
  simp [leaveChanges, Change.Of, Change.request?]

theorem plain_exitChanges (m : Match) (noticeId : Uuid) :
    ∀ x ∈ t.exitChanges arrow now m noticeId,
      x.Of arrow.actor arrow.target ∧ x.request? = none := by
  simp [exitChanges, leaveChanges, Change.Of, Change.request?, Notification.new]

theorem plain_blockChanges :
    ∀ x ∈ t.blockChanges arrow now, x.Of arrow.actor arrow.target ∧ x.request? = none := by
  unfold blockChanges
  split <;> split <;> simp [Change.Of, Change.request?, Arrow.pair]

end Tables

namespace Draft

variable {α : Type} {t : Tables} {new : Nat → Uuid} {a b : UserId} {now : Instant}

theorem for_answeredWithNotice {result : α} {changes : List Tables.Change} {taken : Nat}
    (h : (answered result changes (taken + 1)).For t new a b) (rejects : Bool) :
    (answeredWithNotice rejects result changes taken).For t new a b := by
  unfold answeredWithNotice
  split
  · exact for_of_unchanged rfl
  · exact h

theorem for_proposal (hfree : t.requests[new 0]? = none) (message : String) (noticeId : Uuid) :
    (answered (FriendRequest.new (new 0) a b message now)
      (Tables.proposeChanges (.new (new 0) a b message now) noticeId) 2).For t new a b where
  changes := by
    simp [answered, Tables.proposeChanges, Tables.Change.Of, FriendRequest.new, Notification.new]
  requests := by
    intro x hx id hid
    rcases List.mem_pair.1 hx with rfl | rfl <;> cases hid
    exact .inl ⟨0, Nat.two_pos, rfl⟩
  writes := Tables.writesUnder_proposed (r := .new (new 0) a b message now) hfree noticeId

theorem for_answer (ht : t.Keyed) {r : FriendRequest} (hr : t.requests[r.id]? = some r)
    (result : α) (m : Match) (accept : Bool) (noticeId : Uuid) (taken : Nat) :
    (answered result (t.answerChanges now r m accept noticeId) taken).For t new r.fromUser
      r.toUser where
  changes := by
    have hpair := (ht.request hr).2
    cases accept <;>
      simp [answered, Tables.answerChanges, Tables.Change.Of, FriendRequest.closed,
        Notification.new, hpair]
  requests := by
    have hpair := (ht.request hr).2
    intro x hx id hid
    have hwritten : id = r.id := by
      cases accept <;>
        simp only [answered, Tables.answerChanges, Bool.false_eq_true, ↓reduceIte, List.append_nil,
          List.cons_append, List.nil_append, List.mem_cons, List.not_mem_nil, or_false] at hx <;>
        rcases hx with rfl | rfl | rfl | rfl | rfl <;> cases hid <;> rfl
    exact .inr ⟨r, hwritten ▸ hr, hpair⟩
  writes := by
    rw [answered, ← t.responded_eq_changed now r m accept noticeId]
    exact ht.writesUnder_responded hr m accept noticeId now

theorem for_exit (ht : t.Keyed) {arrow : Arrow} (result : α) (m : Match) (noticeId : Uuid)
    (taken : Nat) : (answered result (t.exitChanges arrow now m noticeId) taken).For t new
      arrow.actor arrow.target := by
  refine for_of_plain (t.plain_exitChanges m noticeId) ?_
  rw [answered, ← t.exited_eq_changed arrow now m noticeId]
  exact ht.writesUnder_exited arrow m noticeId now

end Draft

variable (settings : Settings) (now : Instant) (rejects : Bool) (rank : Arrow → Nat) {t : Tables}
  {new : Nat → Uuid}

theorem Command.for_draft (ht : t.Keyed) (hfree : t.requests[new 0]? = none) (c : Command) :
    ∃ a ∈ c.users rank t, ∃ b ∈ c.users rank t,
      (c.draft settings now rejects rank t new).For t new a b := by
  cases c with
  | swipe arrow direction =>
    refine ⟨arrow.actor, List.mem_cons_self, arrow.target, by simp [users], ?_⟩
    simp only [draft]
    split
    · exact Draft.for_of_unchanged rfl
    · split
      · exact Draft.for_of_unchanged rfl
      · refine Draft.for_of_plain (t.plain_swipeChanges direction _) ?_
        rw [Draft.answered, ← t.swiped_eq_changed arrow now direction]
        exact t.writesUnder_swiped arrow direction now _
  | undoLastSwipe user =>
    rw [draft, Tables.undoDraft]
    cases hlast : t.lastInWindow rank (Operation.requireInWindow settings.matching) user now with
    | error why =>
      exact ⟨user, List.mem_cons_self, user, List.mem_cons_self, Draft.for_of_unchanged rfl⟩
    | ok l =>
      have hlatest := Tables.lastInWindow_ok hlast
      refine ⟨user, List.mem_cons_self, l.toUser, by simp [users, hlatest], ?_⟩
      refine Draft.for_of_plain (t.plain_undoChanges l now) ?_
      dsimp only
      rw [Draft.answered, ← t.undone_eq_changed _ now l now]
      exact t.writesUnder_undone ⟨user, l.toUser⟩ l now now
  | propose arrow message =>
    refine ⟨arrow.actor, List.mem_cons_self, arrow.target, by simp [users], ?_⟩
    simp only [draft]
    split
    · exact Draft.for_of_unchanged rfl
    · split
      · exact Draft.for_of_unchanged rfl
      · exact Draft.for_answeredWithNotice (Draft.for_proposal hfree _ _) rejects
  | respond id responder accept =>
    rw [draft]
    cases hfound : t.toAnswer id responder with
    | error e =>
      exact ⟨responder, List.mem_cons_self, responder, List.mem_cons_self,
        Draft.for_of_unchanged rfl⟩
    | ok found =>
      obtain ⟨r, current⟩ := found
      have hr := (Tables.toAnswer_ok hfound).1
      obtain rfl := (ht.request hr).1
      refine ⟨r.fromUser, by simp [users, hr], r.toUser, by simp [users, hr], ?_⟩
      exact Draft.for_answeredWithNotice (Draft.for_answer ht hr _ current accept _ _) rejects
  | gracefulExit arrow =>
    refine ⟨arrow.actor, List.mem_cons_self, arrow.target, by simp [users], ?_⟩
    rw [draft]
    split
    · exact Draft.for_of_unchanged rfl
    · split
      · exact Draft.for_of_unchanged rfl
      · exact Draft.for_answeredWithNotice (Draft.for_exit ht _ _ _ _) rejects
  | unmatch arrow =>
    refine ⟨arrow.actor, List.mem_cons_self, arrow.target, by simp [users], ?_⟩
    rw [draft]
    split
    · exact Draft.for_of_unchanged rfl
    · rename_i current _
      refine Draft.for_of_plain (t.plain_leaveChanges current .unmatched .unmatch) ?_
      rw [Draft.answered, ← t.left_eq_changed arrow now current]
      exact ht.writesUnder_left arrow current _ _ now
  | block arrow =>
    refine ⟨arrow.actor, List.mem_cons_self, arrow.target, by simp [users], ?_⟩
    simp only [draft]
    split
    · exact Draft.for_of_unchanged rfl
    · refine Draft.for_of_plain t.plain_blockChanges ?_
      rw [Draft.answered, ← t.barred_eq_changed arrow now]
      exact ht.writesUnder_barred arrow now
  | unblock arrow =>
    refine ⟨arrow.actor, List.mem_cons_self, arrow.target, by simp [users], ?_⟩
    simp only [draft]
    split
    · exact Draft.for_of_unchanged rfl
    · refine Draft.for_of_plain ?_ (t.writesUnder_unblocked arrow)
      simp [Draft.answered, Tables.Change.Of, Tables.Change.request?, Arrow.pair]

theorem Action.for_draft (ht : t.Keyed) (hfree : t.requests[new 0]? = none) (a : Action) :
    ∃ u ∈ a.users rank t, ∃ v ∈ a.users rank t,
      (a.draft settings now rejects rank t new).For t new u v := by
  cases a with
  | command c => exact c.for_draft settings now rejects rank ht hfree
  | question q =>
    have huser : ∃ user, user ∈ q.users := by
      cases q <;> exact ⟨_, List.mem_cons_self⟩
    obtain ⟨user, huser⟩ := huser
    exact ⟨user, huser, user, huser, Draft.for_of_unchanged rfl⟩

end Courtship
