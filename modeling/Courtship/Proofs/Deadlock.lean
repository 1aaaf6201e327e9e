import Courtship.Proofs.Traffic
import Mathlib.Data.Prod.Lex

/-! Which calls wait for which, and why some call can always go on. A call that has the lock of a
user waits for a larger user at most, or for the tables, and one that has the tables waits for
nobody; so no circle of waiting calls ever closes. -/

namespace Courtship

/-! ## Standing in a queue -/

namespace Lock

variable {l : Lock}

/-- The second ticket waits, and the first one holds the lock or stands before it. -/
def Ahead (l : Lock) (first second : Nat) : Prop :=
  second ∈ l.waiters ∧ (l.holder = some first ∨ l.waiters.idxOf first < l.waiters.idxOf second)

/-- How many tickets have to go before this one has the lock. -/
def position (l : Lock) (ticket : Nat) : Nat :=
  if l.holder = some ticket then 0 else l.waiters.idxOf ticket + 1

theorem position_lt (h : l.tickets.Nodup) {first second : Nat} (hahead : l.Ahead first second) :
    l.position first < l.position second := by
  obtain ⟨hwaits, hfirst⟩ := hahead
  have hsecond : l.holder ≠ some second := by
    intro hholder
    rw [tickets, hholder, Option.toList_some, List.singleton_append, List.nodup_cons] at h
    exact h.1 hwaits
  rw [position, position, if_neg hsecond]
  split
  · exact Nat.succ_pos _
  · rename_i hholder
    exact Nat.succ_lt_succ (hfirst.resolve_left hholder)

/-- A ticket that does not hold the lock waits for the one that does. -/
theorem exists_ahead (h : l.Served) {ticket : Nat} (hticket : ticket ∈ l.tickets)
    (hheld : l.holder ≠ some ticket) :
    ∃ first, l.holder = some first ∧ l.Ahead first ticket := by
  have hwaits : ticket ∈ l.waiters := by
    rcases List.mem_append.1 hticket with hholder | hwaits
    · exact absurd (Option.mem_toList.1 hholder) hheld
    · exact hwaits
  cases hholder : l.holder with
  | none =>
    rw [h hholder] at hwaits
    cases hwaits
  | some first => exact ⟨first, rfl, hwaits, .inl hholder⟩

end Lock

namespace Traffic

/-! ## Who waits for whom -/

/-- A call that waits for a lock waits for the call that holds it, and for those that stand before
it in the queue. -/
inductive WaitsFor (t : Traffic) (place other : Nat) : Prop
  | user (request : Request) (retries : Nat) (body : Readings → Work (Ending request.Answer))
      (a : Acquisition) (ahead : Activity) (l : Lease)
      (hcall : t.calls[place]? = some ⟨request, .locking retries body, .waiting a⟩)
      (hother : t.calls[other]? = some ahead) (hl : l ∈ ahead.caller.asked)
      (hlock : l.lock = a.waiting.lock)
      (hahead : (t.shared.registry.lockAt a.waiting.lock).Ahead l.ticket a.waiting.ticket)
  | tables (call ahead : Activity) (hcall : t.calls[place]? = some call)
      (hother : t.calls[other]? = some ahead) (hahead : t.shared.tablesLock.Ahead other place)

end Traffic

namespace Activity

/-- Has a result or was cancelled, and has given back all locks. -/
def Finished (call : Activity) : Prop :=
  ∃ result, call.phase = .leaving result ∧ call.caller = .idle

/-- How far down the call waits: for no lock, for the tables, or for a user, the larger ones first.
-/
def depth : Activity → Nat
  | ⟨_, .looking _, _⟩ => 1
  | ⟨_, .working _ _, _⟩ => 1
  | ⟨_, .locking _ _, .waiting a⟩ => 2 + (2 ^ 128 - a.waiting.user.toNat)
  | _ => 0

/-- Where the call at this place stands in the queue that it waits in. -/
def position (s : Shared) (place : Nat) : Activity → Nat
  | ⟨_, .looking _, _⟩ => s.tablesLock.position place
  | ⟨_, .working _ _, _⟩ => s.tablesLock.position place
  | ⟨_, .locking _ _, .waiting a⟩ => (s.registry.lockAt a.waiting.lock).position a.waiting.ticket
  | _ => 0

theorem depth_of_wantsTables {call : Activity} (h : call.phase.wantsTables = true) :
    call.depth = 1 := by
  obtain ⟨request, phase, caller⟩ := call
  cases phase <;> first | rfl | cases h

theorem position_of_wantsTables {call : Activity} (h : call.phase.wantsTables = true)
    (s : Shared) (place : Nat) : call.position s place = s.tablesLock.position place := by
  obtain ⟨request, phase, caller⟩ := call
  cases phase <;> first | rfl | cases h

end Activity

namespace Traffic

/-- Every wait leads to a call of smaller rank. -/
def rank (t : Traffic) (place : Nat) : Nat ×ₗ Nat :=
  match t.calls[place]? with
  | some call => toLex (call.depth, call.position t.shared place)
  | none => toLex (0, 0)

theorem rank_of_getElem? {t : Traffic} {place : Nat} {call : Activity}
    (h : t.calls[place]? = some call) :
    t.rank place = toLex (call.depth, call.position t.shared place) := by
  rw [rank, h]

theorem mem_crowd {t : Traffic} {place : Nat} {call : Activity}
    (h : t.calls[place]? = some call) : call.caller ∈ t.crowd.callers :=
  List.mem_of_getElem? (getElem?_crowd h)

/-- Whoever is ahead in the queue for a user waits for nobody, for the tables, for a larger user, or
further to the front of the same queue. -/
theorem Sound.rank_lt_user {t : Traffic} (h : t.Sound) {place other : Nat} {request : Request}
    {retries : Nat} {body : Readings → Work (Ending request.Answer)} {a : Acquisition}
    {ahead : Activity} {l : Lease}
    (hcall : t.calls[place]? = some ⟨request, .locking retries body, .waiting a⟩)
    (hother : t.calls[other]? = some ahead) (hl : l ∈ ahead.caller.asked)
    (hlock : l.lock = a.waiting.lock)
    (hahead : (t.shared.registry.lockAt a.waiting.lock).Ahead l.ticket a.waiting.ticket) :
    t.rank other < t.rank place := by
  have hagrees := h.crowd.agrees
  have hleases := Crowd.asked_sublist_leases t.crowd.callers
  have hmem : a.waiting ∈ t.crowd.leases :=
    Crowd.mem_leases_of_asked (mem_crowd hcall) List.mem_cons_self
  have hfits := h.fits ahead (List.mem_of_getElem? hother)
  rw [rank_of_getElem? hcall, rank_of_getElem? hother, Prod.Lex.toLex_lt_toLex]
  have huser : l.user = a.waiting.user :=
    (hagrees.lock_eq_iff (Crowd.mem_leases_of_asked (mem_crowd hother) hl) hmem).1 hlock
  have hdeep : 1 < (⟨request, .locking retries body, .waiting a⟩ : Activity).depth := by
    simp only [Activity.depth]
    omega
  obtain ⟨request', phase, caller⟩ := ahead
  cases phase with
  | called op =>
    cases hfits
    cases hl
  | looking look =>
    cases hfits
    cases hl
  | working => exact .inl hdeep
  | leaving => exact .inl (Nat.zero_lt_of_lt hdeep)
  | locking retries' body' =>
    cases caller with
    | taking => exact .inl (Nat.zero_lt_of_lt hdeep)
    | asking => exact .inl (Nat.zero_lt_of_lt hdeep)
    | leaving => exact .inl (Nat.zero_lt_of_lt hdeep)
    | returning => exact .inl (Nat.zero_lt_of_lt hdeep)
    | waiting a' =>
      rcases List.mem_cons.1 hl with rfl | hheld
      · refine .inr ⟨by simp only [Activity.depth, huser], ?_⟩
        simp only [Activity.position]
        rw [hlock]
        exact Lock.position_lt (hagrees.nodup_tickets hleases _) hahead
      · have hlt := Caller.InOrder.held_lt hfits l hheld
        have hbound := a'.waiting.user.uuid.toNat_lt
        refine .inl ?_
        simp only [Activity.depth]
        rw [huser] at hlt
        change a'.waiting.user.toNat < 2 ^ 128 at hbound
        omega

theorem Sound.rank_lt {t : Traffic} (h : t.Sound) {place other : Nat}
    (hwaits : t.WaitsFor place other) : t.rank other < t.rank place := by
  cases hwaits with
  | user request retries body a ahead l hcall hother hl hlock hahead =>
    exact h.rank_lt_user hcall hother hl hlock hahead
  | tables call ahead hcall hother hahead =>
    obtain ⟨hwaits, hfirst⟩ := hahead
    have hticket : place ∈ t.shared.tablesLock.tickets := List.mem_append_right _ hwaits
    have hother' : other ∈ t.shared.tablesLock.tickets := by
      rcases hfirst with hholder | hbefore
      · exact List.mem_append_left _ (Option.mem_toList.2 hholder)
      · have hlength := Nat.lt_of_lt_of_le hbefore List.idxOf_le_length
        exact List.mem_append_right _ (List.idxOf_lt_length_iff.1 hlength)
    rw [h.queued.mem_iff, wants_of_getElem? hcall] at hticket
    rw [h.queued.mem_iff, wants_of_getElem? hother] at hother'
    rw [rank_of_getElem? hcall, rank_of_getElem? hother, Prod.Lex.toLex_lt_toLex]
    refine .inr ⟨?_, ?_⟩
    · rw [Activity.depth_of_wantsTables hticket, Activity.depth_of_wantsTables hother']
    · rw [Activity.position_of_wantsTables hticket, Activity.position_of_wantsTables hother']
      exact Lock.position_lt h.queued.nodup ⟨hwaits, hfirst⟩

/-! ## Going on -/

/-- Where the tables are held by another call, that one is not finished. -/
theorem Sound.waits_for_tables {t : Traffic} (h : t.Sound) {place : Nat} {call : Activity}
    (hcall : t.calls[place]? = some call) (hwants : call.phase.wantsTables = true)
    (hheld : t.shared.tablesLock.holder ≠ some place) :
    ∃ other ahead, t.calls[other]? = some ahead ∧ ¬ahead.Finished ∧ t.WaitsFor place other := by
  have hticket : place ∈ t.shared.tablesLock.tickets := by
    rw [h.queued.mem_iff, wants_of_getElem? hcall, hwants]
  obtain ⟨other, hholder, hahead⟩ := Lock.exists_ahead h.queued.served hticket hheld
  have hother : other ∈ t.shared.tablesLock.tickets :=
    List.mem_append_left _ (Option.mem_toList.2 hholder)
  rw [h.queued.mem_iff, wants, Option.any_eq_true] at hother
  obtain ⟨ahead, hfound, hwants'⟩ := hother
  refine ⟨other, ahead, hfound, ?_, .tables call ahead hcall hfound hahead⟩
  rintro ⟨result, hphase, _⟩
  rw [hphase] at hwants'
  cases hwants'

/-- Where the lock of a user is held by another call, that one is not finished. -/
theorem Sound.waits_for_user {t : Traffic} (h : t.Sound) {place : Nat} {request : Request}
    {retries : Nat} {body : Readings → Work (Ending request.Answer)} {a : Acquisition}
    (hcall : t.calls[place]? = some ⟨request, .locking retries body, .waiting a⟩)
    (hheld : ¬t.shared.registry.isHeld a.waiting = true) :
    ∃ other ahead, t.calls[other]? = some ahead ∧ ¬ahead.Finished ∧ t.WaitsFor place other := by
  have hagrees := h.crowd.agrees
  have hasked : a.waiting ∈ t.crowd.asked :=
    List.mem_flatMap.2 ⟨_, mem_crowd hcall, List.mem_cons_self⟩
  rw [Registry.isHeld_eq_true] at hheld
  obtain ⟨ticket, hholder, hahead⟩ :=
    Lock.exists_ahead (hagrees.served _) (hagrees.mem_tickets hasked) hheld
  obtain ⟨l, hl, hlock, rfl⟩ := hagrees.exists_of_holder hholder
  obtain ⟨c, hc, hl⟩ := List.mem_flatMap.1 hl
  obtain ⟨ahead, hmem, rfl⟩ := List.mem_map.1 hc
  obtain ⟨other, hother⟩ := List.mem_iff_getElem?.1 hmem
  refine ⟨other, ahead, hother, ?_,
    .user request retries body a ahead l hcall hother hl hlock hahead⟩
  rintro ⟨_, _, hidle⟩
  rw [hidle] at hl
  cases hl

/-- A call that cannot go on waits for another one. -/
theorem Sound.goesOn_or_waits {t : Traffic} (h : t.Sound) {place : Nat} {call : Activity}
    (hcall : t.calls[place]? = some call) (hunfinished : ¬call.Finished) :
    (∃ t', t.GoesOn place t') ∨
      ∃ other ahead, t.calls[other]? = some ahead ∧ ¬ahead.Finished ∧ t.WaitsFor place other := by
  have hfits := h.fits call (List.mem_of_getElem? hcall)
  obtain ⟨request, phase, caller⟩ := call
  cases phase with
  | called op =>
    cases hfits
    cases op with
    | plain plan => exact .inl ⟨_, .mk _ _ _ _ _ _ hcall (.plan plan)⟩
    | reading look => exact .inl ⟨_, .mk _ _ _ _ _ _ hcall (.askToLook look)⟩
  | looking look =>
    cases hfits
    by_cases hheld : t.shared.tablesLock.holder = some place
    · exact .inl ⟨_, .mk _ _ _ _ _ _ hcall (.look look (fun _ => .epoch) hheld)⟩
    · exact .inr (h.waits_for_tables hcall rfl hheld)
  | locking retries body =>
    obtain ⟨users, hclimbs, _⟩ := hfits
    cases hclimbs with
    | taking held rest =>
      cases rest with
      | nil => exact .inl ⟨_, .mk _ _ _ _ _ _ hcall (.askToWork retries body held)⟩
      | cons user rest =>
        exact .inl ⟨_, .mk _ _ _ _ _ _ hcall
          (.lock retries body _ _ _ (.lease held user rest 0))⟩
    | asking a => exact .inl ⟨_, .mk _ _ _ _ _ _ hcall (.lock retries body _ _ _ (.ask a))⟩
    | waiting a =>
      by_cases hheld : t.shared.registry.isHeld a.waiting = true
      · exact .inl ⟨_, .mk _ _ _ _ _ _ hcall (.lock retries body _ _ _ (.granted a hheld))⟩
      · exact .inr (h.waits_for_user hcall hheld)
  | working retries body =>
    obtain ⟨_, held, rfl⟩ := hfits
    by_cases hheld : t.shared.tablesLock.holder = some place
    · exact .inl ⟨_, .mk _ _ _ _ _ _ hcall
        (.work retries body held (fun _ => .epoch) hheld)⟩
    · exact .inr (h.waits_for_tables hcall rfl hheld)
  | leaving result =>
    cases hfits with
    | leaving leases =>
      cases leases with
      | nil => exact absurd ⟨result, rfl, rfl⟩ hunfinished
      | cons l leases =>
        exact .inl ⟨_, .mk _ _ _ _ _ _ hcall (.unlock result _ _ _ (.letGo l leases))⟩
    | returning l leases =>
      exact .inl ⟨_, .mk _ _ _ _ _ _ hcall (.unlock result _ _ _ (.returnLease l leases))⟩

theorem Sound.transGen_rank_lt {t : Traffic} (h : t.Sound) {place other : Nat}
    (hwaits : Relation.TransGen t.WaitsFor place other) : t.rank other < t.rank place := by
  induction hwaits with
  | single hwaits => exact h.rank_lt hwaits
  | tail _ hwaits ih => exact (h.rank_lt hwaits).trans ih

/-- The calls that are waited for are followed until one of them can go on. -/
theorem Sound.exists_goesOn {t : Traffic} (h : t.Sound) (place : Nat) {call : Activity}
    (hcall : t.calls[place]? = some call) (hunfinished : ¬call.Finished) :
    ∃ other t', t.GoesOn other t' := by
  induction hrank : t.rank place using WellFoundedLT.induction generalizing place call with
  | ind rank ih =>
    rcases h.goesOn_or_waits hcall hunfinished with
      ⟨t', hgoes⟩ | ⟨other, ahead, hother, hlater, hwaits⟩
    · exact ⟨place, t', hgoes⟩
    · exact ih _ (hrank ▸ h.rank_lt hwaits) other hother hlater rfl

/-- **No deadlock.** In every state that calls come to on one service, no call waits for itself by
way of others; an unfinished one that cannot go on waits for another unfinished one; and so, as
long as any call is unfinished, some call can go on, and nobody's time has to be over for that. -/
theorem no_deadlock {settings : Settings} {t : Traffic} (h : t.Reachable settings) :
    (∀ place, ¬Relation.TransGen t.WaitsFor place place) ∧
    (∀ (place : Nat) (call : Activity), t.calls[place]? = some call → ¬call.Finished →
      (∃ t', t.GoesOn place t') ∨
        ∃ other ahead, t.calls[other]? = some ahead ∧ ¬ahead.Finished ∧ t.WaitsFor place other) ∧
    ((∃ call ∈ t.calls, ¬call.Finished) → ∃ place t', t.GoesOn place t') := by
  have hs := sound_of_reachable h
  refine ⟨?_, ?_, ?_⟩
  · intro place hcircle
    exact lt_irrefl _ (hs.transGen_rank_lt hcircle)
  · intro place call hcall hunfinished
    exact hs.goesOn_or_waits hcall hunfinished
  · rintro ⟨call, hmem, hunfinished⟩
    obtain ⟨place, hcall⟩ := List.mem_iff_getElem?.1 hmem
    exact hs.exists_goesOn place hcall hunfinished

/-- Two users unmatch each other at once. Both calls have asked for the smaller user. -/
def meeting : Traffic :=
  let low := UserId.ofNat 1
  let high := UserId.ofNat 2
  let (first, r) := Registry.empty.lease low
  let (second, r) := r.lease low
  ⟨⟨(r.request first).request second, .free, .empty⟩,
    [⟨.command (.unmatch ⟨low, high⟩),
      .locking 0 fun readings => Operation.unmatchWork ⟨low, high⟩ (readings 0),
      .waiting ⟨[], first, [high], 5⟩⟩,
    ⟨.command (.unmatch ⟨high, low⟩),
      .locking 0 fun readings => Operation.unmatchWork ⟨high, low⟩ (readings 0),
      .waiting ⟨[], second, [high], 5⟩⟩]⟩

theorem reachable_meeting : meeting.Reachable {} := by
  have hfirst : Relation.ReflTransGen (Step {}) empty _ :=
    .tail .refl (.arrive (.command (.unmatch ⟨.ofNat 1, .ofNat 2⟩)))
  have hsecond := hfirst.tail (.arrive (.command (.unmatch ⟨.ofNat 2, .ofNat 1⟩)))
  have hplanned := (hsecond.tail (.goOn 0 _ (.mk _ _ _ _ _ _ rfl (.plan _)))).tail
    (.goOn 1 _ (.mk _ _ _ _ _ _ rfl (.plan _)))
  have hleased := (hplanned.tail
    (.goOn 0 _ (.mk _ _ _ _ _ _ rfl (.lock _ _ _ _ _ (.lease _ _ _ 5))))).tail
    (.goOn 1 _ (.mk _ _ _ _ _ _ rfl (.lock _ _ _ _ _ (.lease _ _ _ 5))))
  exact (hleased.tail (.goOn 0 _ (.mk _ _ _ _ _ _ rfl (.lock _ _ _ _ _ (.ask _))))).tail
    (.goOn 1 _ (.mk _ _ _ _ _ _ rfl (.lock _ _ _ _ _ (.ask _))))

/-- The second call waits for the first one, which can go on. -/
theorem no_deadlock_meeting :
    meeting.WaitsFor 1 0 ∧ (∃ call ∈ meeting.calls, ¬call.Finished) ∧
      ¬Relation.TransGen meeting.WaitsFor 1 1 ∧ ∃ place t', meeting.GoesOn place t' := by
  obtain ⟨hcircle, _, hgoes⟩ := no_deadlock reachable_meeting
  have hunfinished : ∃ call ∈ meeting.calls, ¬call.Finished := by
    refine ⟨_, List.mem_cons_self, ?_⟩
    rintro ⟨_, hphase, _⟩
    cases hphase
  refine ⟨?_, hunfinished, hcircle 1, hgoes hunfinished⟩
  refine .user _ _ _ _ _ _ rfl rfl List.mem_cons_self rfl ⟨?_, .inl ?_⟩
  · decide +kernel
  · decide +kernel

end Traffic

end Courtship
