import Courtship.Proofs.Midnight
import Courtship.Proofs.Requests

/-! The daily limit of friend requests. A proposal counts what its sender has sent since midnight,
and is turned down when that reaches the limit, so no day ever holds more, in whatever order the
clock shows the days. What is stored are the proposals that succeeded, and no others. -/

namespace Courtship

/-! ## Sent requests -/

/-- What never changes of a request: who sent it, and when. -/
def FriendRequest.sending (r : FriendRequest) : UserId × Instant := (r.fromUser, r.createdAt)

theorem FriendRequest.sending_expiredOn (r : FriendRequest) (pair : PairId) (now : Instant) :
    (r.expiredOn pair now).sending = r.sending := by
  rcases r.expiredOn_eq_or pair now with h | ⟨_, _, h⟩ <;> rw [h]
  rfl

namespace Tables

variable {t t' : Tables} {user : UserId}

/-- How many of the stored requests the user sent at a time of which `p` holds. -/
def sentWhen (t : Tables) (user : UserId) (p : Instant → Bool) : Nat :=
  t.requests.values.countP fun r => r.fromUser = user && p r.createdAt

theorem sentWhen_empty (user : UserId) (p : Instant → Bool) : empty.sentWhen user p = 0 := by
  have hnone : ∀ r ∈ empty.requests.values, ¬(decide (r.fromUser = user) && p r.createdAt) := by
    intro r hr
    obtain ⟨id, hid⟩ := Rows.mem_values.1 hr
    simp [empty] at hid
  exact List.countP_eq_zero.2 hnone

theorem sentWhen_mono (t : Tables) (user : UserId) {p q : Instant → Bool}
    (h : ∀ time, p time = true → q time = true) : t.sentWhen user p ≤ t.sentWhen user q := by
  refine List.countP_mono_left ?_
  intro r _ hr
  rw [Bool.and_eq_true] at hr ⊢
  exact ⟨hr.1, h _ hr.2⟩

/-- What is counted since midnight is what was sent on that day or on a later one. -/
theorem countRequestsSince_startOfDay (t : Tables) (user : UserId) (now : Instant) :
    t.countRequestsSince user now.startOfDay =
      t.sentWhen user (fun time => now.day ≤ time.day) % UInt32.size := by
  simp only [countRequestsSince, sentWhen, Instant.startOfDay_le_iff]

theorem sentWhen_congr
    (h : ∀ id : Uuid, t'.requests[id]?.map FriendRequest.sending =
      t.requests[id]?.map FriendRequest.sending) (user : UserId) (p : Instant → Bool) :
    t'.sentWhen user p = t.sentWhen user p := by
  have hcount : ∀ tables : Tables, tables.sentWhen user p =
      (tables.requests.values.map FriendRequest.sending).countP
        fun sending => sending.1 = user && p sending.2 := by
    intro tables
    rw [List.countP_map]
    rfl
  rw [hcount, hcount]
  exact (Rows.map_values_perm h).countP_eq _

theorem sentWhen_proposed {r : FriendRequest} (hfree : t.requests[r.id]? = none) (noticeId : Uuid)
    (user : UserId) (p : Instant → Bool) :
    (t.proposed r noticeId).sentWhen user p =
      t.sentWhen user p + if r.fromUser = user && p r.createdAt then 1 else 0 := by
  have hperm : (t.proposed r noticeId).requests.values.Perm (r :: t.requests.values) :=
    Rows.values_set_perm hfree r
  rw [sentWhen, hperm.countP_eq, List.countP_cons]
  rfl

end Tables

/-! ## What a step does to them -/

variable {settings : Settings} {readings : Readings} {t t' : Tables}

theorem Effect.sending_kept {c : Command} {answer : c.Answer}
    (h : Effect settings readings t c answer t') (ht : t.Keyed)
    (hpropose : ∀ arrow message, c ≠ .propose arrow message) (id : Uuid) :
    t'.requests[id]?.map FriendRequest.sending = t.requests[id]?.map FriendRequest.sending := by
  have hexpired : ∀ (pair : PairId) (now : Instant),
      (t.requests[id]?.map fun r => r.expiredOn pair now).map FriendRequest.sending =
        t.requests[id]?.map FriendRequest.sending := by
    intro pair now
    rw [Option.map_map]
    congr 1
    funext r
    exact r.sending_expiredOn pair now
  by_cases hrespond : ∃ id responder accept, c = .respond id responder accept
  · obtain ⟨_, _, _, rfl⟩ := hrespond
    cases h with
    | respond _ noticeId responder accept r current hfound =>
      obtain ⟨hr, _⟩ := Tables.toAnswer_ok hfound
      obtain rfl := (ht.request hr).1
      rw [Tables.getElem?_responded_requests]
      split
      · rename_i hid
        rw [← hid, hr]
        rfl
      · exact hexpired _ _
  · have hunanswered := h.unanswered hpropose fun id responder accept hc =>
      hrespond ⟨id, responder, accept, hc⟩
    rcases hunanswered.requests with hsame | ⟨pair, now, hexpire, _⟩
    · rw [hsame]
    · rw [hexpire, Tables.getElem?_expire]
      exact hexpired pair now

namespace World

/-- Whether a command was a proposal of the user, made at a time of which `p` holds. -/
def Outcome.isProposal (user : UserId) (p : Instant → Bool) : Outcome → Bool
  | .done (.propose arrow _) readings _ => arrow.actor = user && p (readings 0)
  | _ => false

theorem sentWhen_effect {c : Command} {answer : c.Answer}
    (h : Effect settings readings t c answer t') (ht : t.Keyed) (user : UserId)
    (p : Instant → Bool) :
    t'.sentWhen user p = t.sentWhen user p +
      if (Outcome.done c readings answer).isProposal user p then 1 else 0 := by
  by_cases hpropose : ∃ arrow message, c = .propose arrow message
  · obtain ⟨arrow, message, rfl⟩ := hpropose
    cases h with
    | propose _ _ id noticeId hne hopen hfree =>
      exact Tables.sentWhen_proposed hfree noticeId user p
  · have hother : ∀ arrow message, c ≠ .propose arrow message :=
      fun arrow message hc => hpropose ⟨arrow, message, hc⟩
    rw [Tables.sentWhen_congr (h.sending_kept ht hother)]
    cases c with
    | propose arrow message => exact absurd rfl (hother arrow message)
    | swipe | undoLastSwipe | respond | gracefulExit | unmatch | block | unblock => rfl

/-- The stored requests of a user are the proposals of the user that succeeded. -/
theorem sentWhen_run (settings : Settings) (user : UserId) (p : Instant → Bool)
    (events : List Event) :
    (run settings events).memory.tables.sentWhen user p =
      (run settings events).outcomes.countP (Outcome.isProposal user p) := by
  refine run_induction
    (P := fun t outcomes => t.sentWhen user p = outcomes.countP (Outcome.isProposal user p))
    ?_ ?_ ?_ events
  · exact Tables.sentWhen_empty user p
  · intro t outcomes c why h
    exact h
  · intro events t' c readings answer h heffect
    rw [sentWhen_effect heffect (sound_run events).keyed, h, List.countP_cons]

/-! ## The limit -/

/-- A day that would be over the limit is the day of a proposal, which has counted it. -/
theorem sentOn_le_effect {c : Command} {answer : c.Answer}
    (h : Effect settings readings t c answer t') (ht : t.Keyed) {user : UserId}
    (hfew : t'.sentWhen user (fun _ => true) < UInt32.size)
    (hquota : ∀ day, t.sentWhen user (fun time => time.day = day) ≤
      settings.relationships.friendRequestsPerDay.toNat) (day : Int) :
    t'.sentWhen user (fun time => time.day = day) ≤
      settings.relationships.friendRequestsPerDay.toNat := by
  have hall := sentWhen_effect h ht user fun _ => true
  have hday := sentWhen_effect h ht user fun time => time.day = day
  by_cases hcounted : (Outcome.done c readings answer).isProposal user fun time => time.day = day
  · rw [if_pos hcounted] at hday
    cases h with
    | propose arrow message id noticeId hne hopen hfree =>
      simp only [Outcome.isProposal, Bool.and_eq_true, decide_eq_true_eq] at hcounted
      obtain ⟨rfl, rfl⟩ := hcounted
      have hsince : t.sentWhen arrow.actor (fun time => time.day = (readings 0).day) ≤
          t.sentWhen arrow.actor fun time => (readings 0).day ≤ time.day := by
        refine t.sentWhen_mono _ ?_
        intro time htime
        rw [decide_eq_true_eq] at htime ⊢
        exact Int.le_of_eq htime.symm
      have hsent : t.sentWhen arrow.actor (fun time => (readings 0).day ≤ time.day) ≤
          t.sentWhen arrow.actor fun _ => true := t.sentWhen_mono _ fun _ _ => rfl
      obtain ⟨_, _, _, hopen⟩ := Tables.proposalRefusal_eq_none.1 hopen
      rw [Tables.countRequestsSince_startOfDay, Nat.mod_eq_of_lt (by omega)] at hopen
      omega
    | swipe | undo | respond | exitAgain | exit | unmatch | block | unblock => cases hcounted
  · rw [if_neg hcounted] at hday
    rw [hday]
    exact hquota day

theorem sentOn_le_run (settings : Settings) (user : UserId) (events : List Event) :
    (run settings events).memory.tables.sentWhen user (fun _ => true) < UInt32.size →
      ∀ day, (run settings events).memory.tables.sentWhen user (fun time => time.day = day) ≤
        settings.relationships.friendRequestsPerDay.toNat := by
  refine run_induction
    (P := fun t _ => t.sentWhen user (fun _ => true) < UInt32.size → ∀ day,
      t.sentWhen user (fun time => time.day = day) ≤
        settings.relationships.friendRequestsPerDay.toNat) ?_ ?_ ?_ events
  · intro _ day
    rw [Tables.sentWhen_empty]
    exact Nat.zero_le _
  · intro t outcomes c why h
    exact h
  · intro events t' c readings answer h heffect hfew
    have hsound : (run settings events).Sound settings := sound_run events
    have hmore := sentWhen_effect heffect hsound.keyed user fun _ => true
    exact sentOn_le_effect heffect hsound.keyed hfew (h (by omega))

end World

/-! ## Refusals -/

theorem Tables.proposalRefusal_rateLimited {t : Tables} {settings : RelationshipSettings}
    {arrow : Arrow} {message : String} {now : Instant} {limit : Nat}
    (h : t.proposalRefusal settings arrow message now = some (.rateLimited limit)) :
    limit = settings.friendRequestsPerDay.toNat ∧
      limit ≤ t.sentWhen arrow.actor fun time => now.day ≤ time.day := by
  unfold proposalRefusal at h
  split at h
  · cases h
  split at h
  · cases h
  split at h
  · cases h
  split at h
  · rename_i hfull
    cases h
    rw [countRequestsSince_startOfDay] at hfull
    exact ⟨rfl, Nat.le_trans hfull (Nat.mod_le _ _)⟩
  · cases h

/-- A unit that fails with anything but a conflict has failed before its commit. -/
theorem Work.perform_of_inUnit_error {α : Type} {w : Work (Ending α)} {m m' : Memory}
    {why : Failure EngineError} (h : w.inUnit m = (.error why, m'))
    (hwhy : ∀ e, why ≠ .error (.storageConflict e)) : ∃ m'', w.perform m = (.error why, m'') := by
  rw [inUnit_eq] at h
  rcases hw : w.perform m with ⟨why' | a | a, m''⟩ <;> rw [hw] at h
  · cases h
    exact ⟨m'', rfl⟩
  · by_cases hnone : m''.commitConflicts = 0 <;> simp only [Memory.settle, hnone, ↓reduceIte] at h
    · cases h
    · cases h
      exact absurd rfl (hwhy _)
  · cases h

/-- Neither the writes nor the commit of a proposal are ever reported as the limit. -/
theorem Operation.inUnit_proposeWork_rateLimited {settings : RelationshipSettings} {arrow : Arrow}
    {message : String} {now : Instant} {m m' : Memory} {limit : Nat}
    (h : (proposeWork settings arrow message now).inUnit m =
      (.error (.error (.rateLimited limit)), m')) :
    m.tables.proposalRefusal settings arrow message now = some (.rateLimited limit) := by
  obtain ⟨m'', hperform⟩ := Work.perform_of_inUnit_error h (by simp)
  rw [perform_proposeWork] at hperform
  split at hperform
  · rename_i e hrefusal
    cases hperform
    exact hrefusal
  · rw [perform_insertProposal] at hperform
    dsimp only at hperform
    split at hperform
    · cases hperform
    split at hperform <;> cases hperform

namespace World

theorem Outcome.of_eq_failed {c c' : Command} {readings : Readings}
    {result : Except (Failure EngineError) c.Answer} {why : Failure EngineError}
    (h : Outcome.of c readings result = .failed c' why) : c' = c ∧ result = .error why := by
  cases result with
  | error => cases h; exact ⟨rfl, rfl⟩
  | ok answer => cases h

/-- Only an attempt of a proposal, at the tables that it finds, reports the limit. -/
theorem rateLimited_step {w : World} (hw : w.Sound settings) {e : Event} {arrow : Arrow}
    {message : String} {limit : Nat}
    (h : (w.step settings e).outcomes =
      .failed (.propose arrow message) (.error (.rateLimited limit)) :: w.outcomes) :
    ∃ place readings, e = .attempt place readings ∧
      w.memory.tables.proposalRefusal settings.relationships arrow message (readings 0) =
        some (.rateLimited limit) := by
  cases e with
  | call c readings =>
    simp only [step, called] at h
    split at h
    · rename_i result m hplan
      obtain ⟨rfl, rfl⟩ := Outcome.of_eq_failed (List.cons.inj h).1
      simp only [Command.operation, Operation.propose] at hplan
      split at hplan <;> cases hplan
    · exact absurd h.symm (List.cons_ne_self _ _)
  | attempt place readings =>
    simp only [step] at h
    split at h
    · rename_i task htask
      obtain ⟨c, a, b, retries, body⟩ := task
      obtain ⟨first, m₀, retries, hplan⟩ := hw.planned _ (List.mem_of_getElem? htask)
      refine ⟨place, readings, rfl, ?_⟩
      simp only [attempted] at h
      split at h
      · exact absurd h.symm (List.cons_ne_self _ _)
      · rename_i result m _ _ hunit _
        obtain ⟨rfl, rfl⟩ := Outcome.of_eq_failed (List.cons.inj h).1
        simp only [Command.operation, Operation.propose] at hplan
        split at hplan <;> cases hplan
        exact Operation.inUnit_proposeWork_rateLimited hunit
    · exact absurd h.symm (List.cons_ne_self _ _)
  | timeOut place user =>
    simp only [step] at h
    split at h
    · exact absurd (List.cons.inj h).1 (by simp [EngineError.ofLockTimeout])
    · exact absurd h.symm (List.cons_ne_self _ _)
  | cancel | ask | setFaults | rerank => exact absurd h.symm (List.cons_ne_self _ _)

/-- **No day holds more requests than the limit.** As long as a user has sent fewer requests than a
word of 32 bits can count, at most as many as the limit were sent on any one day. All that is stored
and so counted are the proposals that succeeded, none that was taken back. And a proposal is turned
down for the limit only by an attempt that finds that many requests sent on its day or later. -/
theorem daily_quota (settings : Settings) :
    (∀ (events : List Event) (user : UserId),
      let w := run settings events
      (w.memory.tables.sentWhen user (fun _ => true) < UInt32.size → ∀ day : Int,
        w.memory.tables.sentWhen user (fun time => time.day = day) ≤
          settings.relationships.friendRequestsPerDay.toNat) ∧
      ∀ p : Instant → Bool,
        w.memory.tables.sentWhen user p = w.outcomes.countP (Outcome.isProposal user p)) ∧
    (∀ (events : List Event) (e : Event) (arrow : Arrow) (message : String) (limit : Nat),
      (run settings (events ++ [e])).outcomes =
        .failed (.propose arrow message) (.error (.rateLimited limit)) ::
          (run settings events).outcomes →
      limit = settings.relationships.friendRequestsPerDay.toNat ∧
        ∃ place readings, e = .attempt place readings ∧
          limit ≤ (run settings events).memory.tables.sentWhen arrow.actor
            fun time => (readings 0).day ≤ time.day) := by
  constructor
  · intro events user
    exact ⟨sentOn_le_run settings user events, fun p => sentWhen_run settings user p events⟩
  · intro events e arrow message limit h
    rw [run_concat] at h
    obtain ⟨place, readings, he, hrefusal⟩ := rateLimited_step (sound_run events) h
    obtain ⟨hlimit, hsent⟩ := Tables.proposalRefusal_rateLimited hrefusal
    exact ⟨hlimit, place, readings, he, hsent⟩

def oneADay : Settings := { relationships := { friendRequestsPerDay := 1 } }

def secondProposal : Command := .propose ⟨.ofNat 1, .ofNat 3⟩ "let us be friends"

/-- A user with two matches has sent a request on one of them, and proposes on the other. -/
def proposingTwice : List Event :=
  let user := UserId.ofNat 1
  inTurn .epoch [.swipe ⟨user, .ofNat 2⟩ .like, .swipe ⟨.ofNat 2, user⟩ .like,
    .swipe ⟨user, .ofNat 3⟩ .like, .swipe ⟨.ofNat 3, user⟩ .like,
    .propose ⟨user, .ofNat 2⟩ "let us be friends"] ++ [.call secondProposal fun _ => .epoch]

theorem proposingTwice_refused :
    (run oneADay (proposingTwice ++ [.attempt 0 fun _ => .epoch])).outcomes =
      .failed secondProposal (.error (.rateLimited 1)) ::
        (run oneADay proposingTwice).outcomes := by
  rfl

/-- One of the two proposals is stored, and the other one is turned down. -/
theorem daily_quota_proposing_twice :
    let t := (run oneADay proposingTwice).memory.tables
    t.sentWhen (.ofNat 1) (fun _ => true) < UInt32.size ∧
      (run oneADay (proposingTwice ++ [.attempt 0 fun _ => .epoch])).outcomes =
        .failed secondProposal (.error (.rateLimited 1)) ::
          (run oneADay proposingTwice).outcomes ∧
      (∀ day : Int, t.sentWhen (.ofNat 1) (fun time => time.day = day) ≤ 1) ∧
      1 ≤ t.sentWhen (.ofNat 1) fun time => Instant.epoch.day ≤ time.day := by
  intro t
  obtain ⟨hstates, hrefusals⟩ := daily_quota oneADay
  obtain ⟨hdays, hcount⟩ := hstates proposingTwice (.ofNat 1)
  have hfew : t.sentWhen (.ofNat 1) (fun _ => true) < UInt32.size := by
    rw [hcount]
    decide +kernel
  obtain ⟨_, place, readings, he, hsent⟩ := hrefusals _ _ _ _ _ proposingTwice_refused
  cases he
  exact ⟨hfew, proposingTwice_refused, hdays hfew, hsent⟩

end World

end Courtship
