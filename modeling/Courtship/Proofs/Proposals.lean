import Courtship.Proofs.FreeLocks
import Courtship.Proofs.Quota
import Courtship.Proofs.Supply
import Courtship.Proofs.Text.Blank

/-! Proposing a friendship: what it comes to on every memory of a run. Five things can speak against
it, and the first of them is the answer; else the request is stored and its receiver told of it,
and nothing else is touched. -/

namespace Courtship

/-! ## Objections -/

/-- What can speak against a proposal. -/
inductive Objection where
  | toOneself
  | noActiveMatch
  | tooShort
  | pending
  | limitReached
  deriving DecidableEq

namespace Objection

/-- As they are looked at. -/
def inOrder : List Objection := [toOneself, noActiveMatch, tooShort, pending, limitReached]

/-- The answer to a proposal that it speaks against. -/
def error (settings : RelationshipSettings) : Objection → EngineError
  | toOneself => .invalidRequest "cannot send a friend request to yourself"
  | noActiveMatch => .noActiveMatch
  | tooShort => .messageTooShort settings.minFriendRequestLength.toNat
  | pending => .requestPending
  | limitReached => .rateLimited settings.friendRequestsPerDay.toNat

theorem error_injective (settings : RelationshipSettings) :
    Function.Injective (error settings) := by
  intro o o' h
  cases o <;> cases o' <;> first | rfl | cases h

/-- Whether it speaks against the proposal of `a` to `b`. The limit is on what `a` sent on the day
of `now`, by UTC, or later. -/
def Applies (settings : RelationshipSettings) (t : Tables) (a b : UserId) (message : String)
    (now : Instant) : Objection → Prop
  | toOneself => a = b
  | noActiveMatch => ¬∃ m, t.matchRows[PairId.of a b]? = some m ∧ m.state = .active
  | tooShort => ∃ kept, Trims message.toList kept ∧
      kept.length < settings.minFriendRequestLength.toNat
  | pending => ∃ (id : Uuid) (r : FriendRequest), t.requests[id]? = some r ∧
      r.status = .pending ∧ r.fromUser = a ∧ r.toUser = b
  | limitReached => settings.friendRequestsPerDay.toNat ≤
      t.sentWhen a fun time => now.day ≤ time.day

/-- It applies, and none of those before it does. -/
structure IsFirst (o : Objection) (P : Objection → Prop) : Prop where
  applies : P o
  others : ∀ earlier ∈ inOrder.takeWhile (· ≠ o), ¬P earlier

theorem IsFirst.unique {o o' : Objection} {P : Objection → Prop} (h : o.IsFirst P)
    (h' : o'.IsFirst P) : o = o' := by
  have hother : o' ∉ inOrder.takeWhile (· ≠ o) := fun hmem => h.others o' hmem h'.applies
  have hother' : o ∉ inOrder.takeWhile (· ≠ o') := fun hmem => h'.others o hmem h.applies
  clear h h'
  revert hother hother'
  cases o <;> cases o' <;> decide

end Objection

/-! ## What is found -/

namespace Tables

variable (t : Tables) (settings : RelationshipSettings) (a b : UserId) (message : String)
  (now : Instant)

theorem isActive_iff_not_applies : t.isActive ⟨a, b⟩ = true ↔
    ¬Objection.noActiveMatch.Applies settings t a b message now := by
  rw [isActive_eq_true, Objection.Applies, not_not]

theorem short_iff_applies :
    (trimmed message.toList).length < settings.minFriendRequestLength.toNat ↔
      Objection.tooShort.Applies settings t a b message now := by
  simp only [Objection.Applies, trims_iff, exists_eq_left]

variable {t}

/-- The search looks at one direction only, though requests of both are on the same match. -/
theorem Keyed.isSome_findPendingRequest (ht : t.Keyed) :
    (t.findPendingRequest ⟨a, b⟩ (.of a b)).isSome = true ↔
      Objection.pending.Applies settings t a b message now := by
  rw [findPendingRequest, List.find?_isSome]
  simp only [pendingRequests, List.mem_filter, Rows.mem_values, FriendRequest.isPending_eq_true,
    Bool.and_eq_true, decide_eq_true_eq, Objection.Applies]
  constructor
  · rintro ⟨r, ⟨⟨id, hr⟩, hpending⟩, ⟨hfrom, hto⟩, -⟩
    exact ⟨id, r, hr, hpending, hfrom, hto⟩
  · rintro ⟨id, r, hr, hpending, rfl, rfl⟩
    exact ⟨r, ⟨⟨id, hr⟩, hpending⟩, ⟨rfl, rfl⟩, (ht.request hr).2⟩

/-- With fewer requests than the count can tell apart it does not wrap around. -/
theorem limit_iff_applies (hfew : t.sentWhen a (fun _ => true) < UInt32.size) :
    settings.friendRequestsPerDay.toNat ≤ t.countRequestsSince a now.startOfDay ↔
      Objection.limitReached.Applies settings t a b message now := by
  have hsome : t.sentWhen a (fun time => now.day ≤ time.day) ≤ t.sentWhen a fun _ => true :=
    t.sentWhen_mono _ fun _ _ => rfl
  rw [countRequestsSince_startOfDay, Nat.mod_eq_of_lt (Nat.lt_of_le_of_lt hsome hfew)]
  rfl

/-- The reason that a proposal to another user is turned down for is the first that applies. -/
theorem Keyed.proposalRefusal_cases (ht : t.Keyed)
    (hfew : t.sentWhen a (fun _ => true) < UInt32.size) (hne : a ≠ b) :
    (∃ o : Objection, o.IsFirst (Objection.Applies settings t a b message now) ∧
      t.proposalRefusal settings ⟨a, b⟩ message now = some (o.error settings)) ∨
    (∀ o : Objection, ¬o.Applies settings t a b message now) ∧
      t.proposalRefusal settings ⟨a, b⟩ message now = none := by
  have hother : ¬Objection.toOneself.Applies settings t a b message now := hne
  have hactive := t.isActive_iff_not_applies settings a b message now
  have hshort := t.short_iff_applies settings a b message now
  have hpending := ht.isSome_findPendingRequest settings a b message now
  have hlimit := limit_iff_applies settings a b message now hfew
  generalize Objection.Applies settings t a b message now = P at *
  unfold proposalRefusal
  by_cases hno : P .noActiveMatch
  · refine .inl ⟨.noActiveMatch, ⟨hno, ?_⟩, ?_⟩
    · simp [Objection.inOrder, hother]
    · simp [hactive, hno, Objection.error]
  rw [if_neg (by simp [hactive, hno])]
  by_cases hlength : P .tooShort
  · refine .inl ⟨.tooShort, ⟨hlength, ?_⟩, if_pos (hshort.2 hlength)⟩
    simp [Objection.inOrder, hother, hno]
  rw [if_neg (hshort.not.2 hlength)]
  by_cases hwaits : P .pending
  · refine .inl ⟨.pending, ⟨hwaits, ?_⟩, if_pos (hpending.2 hwaits)⟩
    simp [Objection.inOrder, hother, hno, hlength]
  rw [if_neg (hpending.not.2 hwaits)]
  by_cases hfull : P .limitReached
  · refine .inl ⟨.limitReached, ⟨hfull, ?_⟩, if_pos (hlimit.2 hfull)⟩
    simp [Objection.inOrder, hother, hno, hlength, hwaits]
  · refine .inr ⟨?_, if_neg (hlimit.not.2 hfull)⟩
    rintro (_ | _ | _ | _ | _) <;> assumption

end Tables

/-! ## How it comes out -/

/-- What it comes to that `a` proposes to `b`, and all of it. -/
structure Asked (t : Tables) (a b : UserId) (message : String) (now : Instant) (noticeId : Uuid)
    (r : FriendRequest) (t' : Tables) : Prop where
  request : r = { r with
    matchId := .of a b
    fromUser := a
    toUser := b
    status := .pending
    createdAt := now
    respondedAt := none }
  message : Trims message.toList r.message.toList
  unused : t.requests[r.id]? = none
  requests : t'.requests = t.requests.set r.id (some r)
  notifications : t'.notifications = t.notifications ++ [{
    id := noticeId
    recipient := b
    type := .friendRequest
    payload := .friendRequest r.id (.of a b) a r.message
    createdAt := now
    readAt := none
    dismissedAt := none }]
  matchRows : t'.matchRows = t.matchRows
  conversations : t'.conversations = t.conversations
  likes : t'.likes = t.likes
  blocks : t'.blocks = t.blocks

/-- How it comes out that `a` proposes to `b`, by the memory that is found: the answer and the
memory that is left. -/
inductive Proposal (settings : RelationshipSettings) (a b : UserId) (message : String)
    (held : Memory) (now : Instant) : Except (Failure EngineError) FriendRequest × Memory → Prop
  | refused (o : Objection)
      (hfirst : o.IsFirst (Objection.Applies settings held.tables a b message now)) :
      Proposal settings a b message held now (.error (.error (o.error settings)), held)
  | refusedNotice (hfree : ∀ o : Objection, ¬o.Applies settings held.tables a b message now)
      (hrejects : held.rejectsNotifications = true) :
      Proposal settings a b message held now
        (.error (.error (.storage Memory.sinkError)), { held with minted := held.minted + 1 })
  | conflict (hfree : ∀ o : Objection, ¬o.Applies settings held.tables a b message now)
      (hheard : held.rejectsNotifications = false) (hconflict : held.commitConflicts ≠ 0) :
      Proposal settings a b message held now
        (.error (.error (.storageConflict Memory.conflictError)), { held with
          commitConflicts := held.commitConflicts - 1
          minted := held.minted + 2 })
  | sent (r : FriendRequest) (t' : Tables)
      (hfree : ∀ o : Objection, ¬o.Applies settings held.tables a b message now)
      (hheard : held.rejectsNotifications = false) (hnone : held.commitConflicts = 0)
      (hasked : Asked held.tables a b message now (.fresh (held.minted + 1)) r t') :
      Proposal settings a b message held now
        (.ok r, { held with tables := t', minted := held.minted + 2 })

namespace Proposal

variable {settings : RelationshipSettings} {a b : UserId} {message : String} {held : Memory}
  {now : Instant} {come : Except (Failure EngineError) FriendRequest × Memory}

theorem eq_of_first (h : Proposal settings a b message held now come) {o : Objection}
    (hfirst : o.IsFirst (Objection.Applies settings held.tables a b message now)) :
    come = (.error (.error (o.error settings)), held) := by
  cases h with
  | refused o' hfirst' => rw [hfirst'.unique hfirst]
  | refusedNotice hfree | conflict hfree | sent _ _ hfree =>
    exact absurd hfirst.applies (hfree o)

theorem exists_of_free (h : Proposal settings a b message held now come)
    (hfree : ∀ o : Objection, ¬o.Applies settings held.tables a b message now)
    (hheard : held.rejectsNotifications = false) (hnone : held.commitConflicts = 0) :
    ∃ r t', come = (.ok r, { held with tables := t', minted := held.minted + 2 }) ∧
      Asked held.tables a b message now (.fresh (held.minted + 1)) r t' := by
  cases h with
  | refused o hfirst => exact absurd hfirst.applies (hfree o)
  | refusedNotice _ hrejects => cases hheard.symm.trans hrejects
  | conflict _ _ hconflict => exact absurd hnone hconflict
  | sent r t' _ _ _ hasked => exact ⟨r, t', rfl, hasked⟩

end Proposal

theorem Tables.asked_proposed {t : Tables} {id : Uuid} (hunused : t.requests[id]? = none)
    (a b : UserId) (message : String) (now : Instant) (noticeId : Uuid) :
    let r := FriendRequest.new id a b (String.ofList (trimmed message.toList)) now
    Asked t a b message now noticeId r (t.proposed r noticeId) where
  request := rfl
  message := by
    rw [FriendRequest.new, String.toList_ofList]
    exact trims_trimmed _
  unused := hunused
  requests := rfl
  notifications := rfl
  matchRows := rfl
  conversations := rfl
  likes := rfl
  blocks := rfl

namespace Operation

variable (settings : RelationshipSettings) {a b : UserId} (message : String)

theorem propose_run (hne : a ≠ b) (first second : Readings) (held : Memory) :
    (propose settings ⟨a, b⟩ message).run first second held =
      held.settle ((proposeWork settings ⟨a, b⟩ message (second 0)).perform held) := by
  rw [← Work.inUnit_eq, propose, if_neg hne]
  rfl

end Operation

namespace World

variable {settings : Settings}

theorem proposal_run (settings : Settings) (events : List Event)
    (hroom : (run settings events).memory.minted < 2 ^ 122) (rules : RelationshipSettings)
    (a b : UserId) (hfew : (run settings events).memory.tables.sentWhen a (fun _ => true) <
      UInt32.size) (message : String) (first second : Readings) :
    Proposal rules a b message (run settings events).memory (second 0)
      ((Operation.propose rules ⟨a, b⟩ message).run first second
        (run settings events).memory) := by
  have hkeyed : (run settings events).memory.tables.Keyed := (sound_run events).keyed
  have hunused := (supplied_run settings events).getElem?_requests (Nat.le_refl _) hroom
  generalize (run settings events).memory = held at *
  by_cases hne : a = b
  · subst hne
    have hrun : (Operation.propose rules ⟨a, a⟩ message).run first second held =
        (.error (.error (Objection.toOneself.error rules)), held) := by
      rw [Operation.propose, if_pos rfl]
      rfl
    rw [hrun]
    exact .refused .toOneself ⟨rfl, by simp [Objection.inOrder]⟩
  · rw [Operation.propose_run rules message hne, Operation.perform_proposeWork]
    rcases hkeyed.proposalRefusal_cases rules a b message (second 0) hfew hne with
      ⟨o, hfirst, hrefusal⟩ | ⟨hfree, hrefusal⟩
    · rw [hrefusal]
      exact .refused o hfirst
    · rw [hrefusal, Operation.perform_insertProposal_unused hunused]
      dsimp only
      by_cases hrejects : held.rejectsNotifications = true
      · rw [if_pos hrejects]
        exact .refusedNotice hfree hrejects
      · have hheard : held.rejectsNotifications = false := Bool.eq_false_iff.2 hrejects
        rw [if_neg hrejects, Memory.settle]
        by_cases hnone : held.commitConflicts = 0
        · rw [if_pos hnone]
          exact .sent _ _ hfree hheard hnone (Tables.asked_proposed hunused a b message _ _)
        · rw [if_neg hnone]
          exact .conflict hfree hheard hnone

/-- **What a proposal comes to is settled by what is found.** On the memory after any run, whatever
faults are switched on, of the five things that can speak against a proposal the first that applies
is the answer, and nothing is changed. If none applies, the request is stored with its message
trimmed, its receiver is told of it, and nothing else is touched; or a fault has it all taken back.
That needs an identifier to be had for the request, and that its sender has sent fewer than a word
of 32 bits can count. A service that nobody else uses gets to the same answer and the same memory,
and its locks are free again. -/
theorem proposing_settled (settings : Settings) (events : List Event) (a b : UserId)
    (hroom : (run settings events).memory.minted < 2 ^ 122)
    (hfew : (run settings events).memory.tables.sentWhen a (fun _ => true) < UInt32.size)
    (message : String) :
    let held := (run settings events).memory
    (∀ (rules : RelationshipSettings) (first second : Readings),
      Proposal rules a b message held (second 0)
        ((Operation.propose rules ⟨a, b⟩ message).run first second held)) ∧
    ∀ s : Service Memory, s.Idle → s.store = held →
      let come := s.command (.propose ⟨a, b⟩ message)
      come.2.Idle ∧
        Proposal s.settings.relationships a b message held s.clock (come.1, come.2.store) := by
  intro held
  have hrun (rules : RelationshipSettings) (first second : Readings) :=
    proposal_run settings events hroom rules a b hfew message first second
  refine ⟨hrun, fun s hidle hstore => ?_⟩
  obtain ⟨hcome, hidle'⟩ := hidle.command (.propose ⟨a, b⟩ message)
  refine ⟨hidle', ?_⟩
  rw [hcome, hstore]
  exact hrun s.settings.relationships s.readings s.readings

/-- One of two users who match has asked the other. -/
def suggested : List Event :=
  inTurn .epoch [.swipe ⟨.ofNat 1, .ofNat 2⟩ .like, .swipe ⟨.ofNat 2, .ofNat 1⟩ .like,
    .propose ⟨.ofNat 1, .ofNat 2⟩ "let us be friends"]

theorem suggested_leaves :
    let held := (run {} suggested).memory
    held.rejectsNotifications = false ∧ held.commitConflicts = 0 ∧ held.minted = 4 ∧
      held.tables.sentWhen (.ofNat 1) (fun _ => true) = 1 ∧
      held.tables.sentWhen (.ofNat 2) (fun _ => true) = 0 ∧
      held.tables.proposalRefusal {} ⟨.ofNat 1, .ofNat 2⟩ "let us be friends, please" .epoch =
        some .requestPending ∧
      held.tables.proposalRefusal {} ⟨.ofNat 2, .ofNat 1⟩ " me too, gladly\n" .epoch = none := by
  decide +kernel

/-- To ask again is too early, to ask back is not. -/
theorem proposing_settled_both_ways :
    let held := (run {} suggested).memory
    let s := Service.new {} held .epoch
    let again := s.command (.propose ⟨.ofNat 1, .ofNat 2⟩ "let us be friends, please")
    let back := s.command (.propose ⟨.ofNat 2, .ofNat 1⟩ " me too, gladly\n")
    (held.minted < 2 ^ 122 ∧ held.tables.sentWhen (.ofNat 1) (fun _ => true) < UInt32.size ∧
      held.tables.sentWhen (.ofNat 2) (fun _ => true) < UInt32.size) ∧
    (again.1 = .error (.error .requestPending) ∧ again.2.store = held) ∧
    ∃ r, back.1 = .ok r ∧ r.message = "me too, gladly" ∧
      back.2.store.tables.requests[r.id]? = some r := by
  obtain ⟨hrejects, hnone, hminted, hone, hother, hpending, hfree⟩ := suggested_leaves
  have hroom : (run {} suggested).memory.minted < 2 ^ 122 := by rw [hminted]; decide
  have hfew : (run {} suggested).memory.tables.sentWhen (.ofNat 1) (fun _ => true) <
      UInt32.size := by rw [hone]; decide
  have hfew' : (run {} suggested).memory.tables.sentWhen (.ofNat 2) (fun _ => true) <
      UInt32.size := by rw [hother]; decide
  have hkeyed : (run {} suggested).memory.tables.Keyed := (sound_run suggested).keyed
  obtain ⟨-, hagain⟩ := proposing_settled {} suggested (.ofNat 1) (.ofNat 2) hroom hfew
    "let us be friends, please"
  obtain ⟨-, hback⟩ := proposing_settled {} suggested (.ofNat 2) (.ofNat 1) hroom hfew'
    " me too, gladly\n"
  generalize (run {} suggested).memory = found at *
  intro held s again back
  obtain ⟨-, hagain⟩ := hagain s (Service.idle_new _ _ _) rfl
  obtain ⟨-, hback⟩ := hback s (Service.idle_new _ _ _) rfl
  refine ⟨⟨hroom, hfew, hfew'⟩, ?_, ?_⟩
  · rcases hkeyed.proposalRefusal_cases {} (.ofNat 1) (.ofNat 2) "let us be friends, please" .epoch
      hfew (by decide) with ⟨o, hfirst, hrefusal⟩ | ⟨-, hrefusal⟩
    · obtain rfl : o = .pending :=
        Objection.error_injective {} (Option.some.inj (hrefusal.symm.trans hpending))
      exact Prod.mk.inj (hagain.eq_of_first hfirst)
    · cases hpending.symm.trans hrefusal
  · rcases hkeyed.proposalRefusal_cases {} (.ofNat 2) (.ofNat 1) " me too, gladly\n" .epoch
      hfew' (by decide) with ⟨o, -, hrefusal⟩ | ⟨hnoObjection, -⟩
    · cases hfree.symm.trans hrefusal
    · obtain ⟨r, t', hcome, hasked⟩ := hback.exists_of_free hnoObjection hrejects hnone
      obtain ⟨hr, hstore⟩ := Prod.mk.inj hcome
      have hmessage : r.message.toList = "me too, gladly".toList :=
        hasked.message.eq_trimmed.trans (by decide)
      refine ⟨r, hr, String.toList_inj.1 hmessage, ?_⟩
      rw [hstore, hasked.requests, Rows.getElem?_set_self]

end World

end Courtship
