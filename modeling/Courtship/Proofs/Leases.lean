import Courtship.Lock.Registry
import Courtship.Proofs.Rows
import Mathlib.Data.List.Perm.Subperm

/-! What the registry of the locks has to agree with: the leases that are out, and those of them
that have asked for their lock and not let go of it yet. -/

namespace Courtship

/-! ## One lock -/

namespace Lock

variable {l : Lock}

/-- The holder, and the queue behind it. -/
def tickets (l : Lock) : List Nat := l.holder.toList ++ l.waiters

/-- Nobody waits for a lock that is free. -/
def Served (l : Lock) : Prop := l.holder = none → l.waiters = []

theorem served_free : free.Served := fun _ => rfl

theorem served_request (l : Lock) (ticket : Nat) : (l.request ticket).Served := by
  unfold Served request
  cases l.holder <;> simp

theorem Served.leave (h : l.Served) (ticket : Nat) : (l.leave ticket).Served := by
  unfold Served Lock.leave
  split
  · intro hnone
    rw [List.head?_eq_none_iff] at hnone
    simp [hnone]
  · intro hnone
    simp [h hnone]

theorem tickets_request (h : l.Served) (ticket : Nat) :
    (l.request ticket).tickets = l.tickets ++ [ticket] := by
  unfold tickets request
  cases hholder : l.holder with
  | none => simp [h hholder]
  | some t => simp

/-- Whether it holds the lock or waits, a ticket that leaves is gone from it, and no other one. -/
theorem tickets_leave (h : l.tickets.Nodup) (ticket : Nat) :
    (l.leave ticket).tickets = l.tickets.filter (· ≠ ticket) := by
  unfold tickets at h ⊢
  unfold leave
  split
  · rename_i hholder
    rw [hholder] at h ⊢
    rw [Option.toList_some, List.singleton_append, List.nodup_cons] at h
    have hothers : l.waiters.filter (· ≠ ticket) = l.waiters := by
      rw [List.filter_eq_self]
      intro t ht
      rw [decide_eq_true_eq]
      rintro rfl
      exact h.1 ht
    rw [Option.toList_some, List.singleton_append, List.filter_cons_of_neg (by simp), hothers]
    cases l.waiters <;> rfl
  · rename_i hholder
    cases hother : l.holder with
    | none => simp
    | some t =>
      have hne : t ≠ ticket := fun e => hholder (by rw [hother, e])
      simp [hne]

theorem holder_request {ticket : Nat} (h : l.holder = some ticket) (other : Nat) :
    (l.request other).holder = some ticket := by
  simp [request, h]

theorem holder_leave {ticket other : Nat} (h : l.holder = some ticket) (hne : other ≠ ticket) :
    (l.leave other).holder = some ticket := by
  have hother : l.holder ≠ some other := by
    rw [h]
    simpa using hne.symm
  rw [leave, if_neg hother, h]

end Lock

/-! ## Operations on the registry -/

namespace Registry

variable {r : Registry} {leases asked : List Lease}

theorem lockAt_setLock (r : Registry) (lock other : Nat) (l : Lock) :
    (r.setLock lock l).lockAt other = if lock = other then l else r.lockAt other := by
  rw [lockAt, setLock, Rows.get?_set]
  by_cases hother : lock = other
  · rw [if_pos hother, if_pos hother]
    split
    · rename_i hfree
      rw [hfree]
      rfl
    · rfl
  · rw [if_neg hother, if_neg hother]
    rfl

theorem lockAt_request (r : Registry) (l : Lease) (lock : Nat) :
    (r.request l).lockAt lock =
      if l.lock = lock then (r.lockAt lock).request l.ticket else r.lockAt lock := by
  rw [request, lockAt_setLock]
  split
  · rename_i h
    rw [h]
  · rfl

theorem lockAt_letGo (r : Registry) (l : Lease) (lock : Nat) :
    (r.letGo l).lockAt lock =
      if l.lock = lock then (r.lockAt lock).leave l.ticket else r.lockAt lock := by
  rw [letGo, lockAt_setLock]
  split
  · rename_i h
    rw [h]
  · rfl

/-- The entry of a user once one more lease on it is out. -/
def leasedEntry (r : Registry) (user : UserId) : LockEntry :=
  match r.entries[user]? with
  | some e => { e with leases := e.leases + 1 }
  | none => ⟨r.nextLock, 1⟩

/-- It is the old entry with one more lease, or a new one under a new lock. -/
theorem leasedEntry_eq_or (r : Registry) (user : UserId) :
    (∃ e, r.entries[user]? = some e ∧
      r.leasedEntry user = { e with leases := e.leases + 1 }) ∨
    (r.entries[user]? = none ∧ r.leasedEntry user = ⟨r.nextLock, 1⟩) := by
  unfold leasedEntry
  cases he : r.entries[user]? with
  | some e => exact .inl ⟨e, rfl, rfl⟩
  | none => exact .inr ⟨rfl, rfl⟩

theorem lease_fst (r : Registry) (user : UserId) :
    (r.lease user).1 = ⟨user, (r.leasedEntry user).lock, r.nextTicket⟩ := by
  unfold lease leasedEntry
  cases r.entries[user]? <;> rfl

theorem entries_lease (r : Registry) (user : UserId) :
    (r.lease user).2.entries = r.entries.set user (some (r.leasedEntry user)) := by
  unfold lease leasedEntry
  cases r.entries[user]? <;> rfl

@[simp] theorem lockAt_lease (r : Registry) (user : UserId) (lock : Nat) :
    (r.lease user).2.lockAt lock = r.lockAt lock := by
  unfold lease
  cases r.entries[user]? <;> rfl

theorem nextTicket_lease (r : Registry) (user : UserId) :
    (r.lease user).2.nextTicket = r.nextTicket + 1 := by
  unfold lease
  cases r.entries[user]? <;> rfl

theorem nextLock_lease (r : Registry) (user : UserId) :
    r.nextLock ≤ (r.lease user).2.nextLock ∧
      (r.entries[user]? = none → r.nextLock < (r.lease user).2.nextLock) := by
  unfold lease
  cases r.entries[user]? <;> simp

theorem entries_returnLease {l : Lease} {e : LockEntry} (h : r.entries[l.user]? = some e) :
    (r.returnLease l).entries = r.entries.set l.user
      (if e.leases ≤ 1 then none else some { e with leases := e.leases - 1 }) := by
  rw [returnLease, h]
  dsimp only
  split <;> rfl

@[simp] theorem lockAt_returnLease (r : Registry) (l : Lease) (lock : Nat) :
    (r.returnLease l).lockAt lock = r.lockAt lock := by
  unfold returnLease
  split
  · split <;> rfl
  · rfl

@[simp] theorem nextTicket_returnLease (r : Registry) (l : Lease) :
    (r.returnLease l).nextTicket = r.nextTicket := by
  unfold returnLease
  split
  · split <;> rfl
  · rfl

@[simp] theorem nextLock_returnLease (r : Registry) (l : Lease) :
    (r.returnLease l).nextLock = r.nextLock := by
  unfold returnLease
  split
  · split <;> rfl
  · rfl

/-! ### Who holds a lock -/

theorem isHeld_eq_true {l : Lease} :
    r.isHeld l = true ↔ (r.lockAt l.lock).holder = some l.ticket := decide_eq_true_iff

theorem isHeld_lease {l : Lease} (h : r.isHeld l = true) (user : UserId) :
    (r.lease user).2.isHeld l = true := by
  rwa [isHeld_eq_true, lockAt_lease, ← isHeld_eq_true]

theorem isHeld_returnLease {l : Lease} (h : r.isHeld l = true) (other : Lease) :
    (r.returnLease other).isHeld l = true := by
  rwa [isHeld_eq_true, lockAt_returnLease, ← isHeld_eq_true]

theorem isHeld_request {l : Lease} (h : r.isHeld l = true) (other : Lease) :
    (r.request other).isHeld l = true := by
  rw [isHeld_eq_true] at h ⊢
  rw [lockAt_request]
  split
  · exact Lock.holder_request h _
  · exact h

theorem isHeld_letGo {l other : Lease} (h : r.isHeld l = true) (hne : other.ticket ≠ l.ticket) :
    (r.letGo other).isHeld l = true := by
  rw [isHeld_eq_true] at h ⊢
  rw [lockAt_letGo]
  split
  · exact Lock.holder_leave h hne
  · exact h

/-! ## Agreement -/

/-- The entries count the leases, each of which is on the lock of its entry, and a lock has the
tickets of those that have asked for it. -/
structure Agrees (r : Registry) (leases asked : List Lease) : Prop where
  entry : ∀ l ∈ leases, ∃ e, r.entries[l.user]? = some e ∧ e.lock = l.lock
  count : ∀ {user : UserId} {e : LockEntry}, r.entries[user]? = some e →
    0 < e.leases ∧ e.leases = leases.countP fun l => l.user = user
  lock_lt : ∀ {user : UserId} {e : LockEntry}, r.entries[user]? = some e → e.lock < r.nextLock
  lock_inj : ∀ {user other : UserId} {e e' : LockEntry}, r.entries[user]? = some e →
    r.entries[other]? = some e' → e.lock = e'.lock → user = other
  ticket_lt : ∀ l ∈ leases, l.ticket < r.nextTicket
  nodup : (leases.map Lease.ticket).Nodup
  served : ∀ lock, (r.lockAt lock).Served
  queue : ∀ lock, (r.lockAt lock).tickets.Perm
    ((asked.filter fun l => l.lock = lock).map Lease.ticket)

/-- What the entries tell of the leases: for which users there are any, how many, and on which
lock. -/
structure Counts (r : Registry) (leases : List Lease) : Prop where
  entry : ∀ user : UserId, r.entries[user]?.isSome ↔ ∃ l ∈ leases, l.user = user
  count : ∀ (user : UserId) (e : LockEntry), r.entries[user]? = some e →
    e.leases = leases.countP fun l => l.user = user
  lock : ∀ l ∈ leases, ∀ e, r.entries[l.user]? = some e → l.lock = e.lock

theorem agrees_empty : empty.Agrees [] [] where
  entry := by simp
  count h := by simp [empty] at h
  lock_lt h := by simp [empty] at h
  lock_inj h := by simp [empty] at h
  ticket_lt := by simp
  nodup := List.nodup_nil
  served _ := Lock.served_free
  queue lock := by simp [lockAt, empty, Lock.tickets, Lock.free]

namespace Agrees

theorem perm (h : r.Agrees leases asked) {leases' asked' : List Lease}
    (hleases : leases.Perm leases') (hasked : asked.Perm asked') : r.Agrees leases' asked' where
  entry l hl := h.entry l (hleases.mem_iff.2 hl)
  count he := by
    rw [← hleases.countP_eq]
    exact h.count he
  lock_lt := h.lock_lt
  lock_inj := h.lock_inj
  ticket_lt l hl := h.ticket_lt l (hleases.mem_iff.2 hl)
  nodup := (hleases.map _).nodup_iff.1 h.nodup
  served := h.served
  queue lock := (h.queue lock).trans ((hasked.filter _).map _)

theorem none_of_entry (h : r.Agrees leases asked) {user : UserId}
    (hnone : r.entries[user]? = none) : leases.countP (fun l => l.user = user) = 0 := by
  rw [List.countP_eq_zero]
  intro l hl huser
  obtain ⟨e, he, _⟩ := h.entry l hl
  rw [of_decide_eq_true huser, hnone] at he
  cases he

theorem leasedEntry_lock_ne (h : r.Agrees leases asked) {user other : UserId} {e : LockEntry}
    (hother : user ≠ other) (he : r.entries[other]? = some e) :
    (r.leasedEntry user).lock ≠ e.lock := by
  intro hlock
  rcases r.leasedEntry_eq_or user with ⟨e', he', hnew⟩ | ⟨_, hnew⟩ <;> rw [hnew] at hlock
  · exact hother (h.lock_inj he' he hlock)
  · have hlt := h.lock_lt he
    rw [← hlock] at hlt
    exact Nat.lt_irrefl _ hlt

/-! ### Steps -/

theorem lease (h : r.Agrees leases asked) (user : UserId) :
    (r.lease user).2.Agrees ((r.lease user).1 :: leases) asked := by
  obtain ⟨hle, hlt⟩ := r.nextLock_lease user
  constructor
  case entry =>
    intro l hl
    rw [entries_lease, Rows.get?_set]
    rcases List.mem_cons.1 hl with rfl | hl
    · rw [lease_fst, if_pos rfl]
      exact ⟨_, rfl, rfl⟩
    · obtain ⟨e, he, hlock⟩ := h.entry l hl
      by_cases huser : user = l.user
      · rw [if_pos huser]
        subst huser
        rcases r.leasedEntry_eq_or l.user with ⟨e', he', hnew⟩ | ⟨hnone, _⟩
        · rw [he'] at he
          cases he
          exact ⟨_, rfl, by rw [hnew, ← hlock]⟩
        · rw [hnone] at he
          cases he
      · rw [if_neg huser]
        exact ⟨e, he, hlock⟩
  case count =>
    intro other e he
    rw [entries_lease, Rows.get?_set] at he
    rw [List.countP_cons, lease_fst]
    by_cases hother : user = other
    · rw [if_pos hother] at he
      subst hother
      cases he
      rw [if_pos (decide_eq_true rfl)]
      rcases r.leasedEntry_eq_or user with ⟨e', he', hnew⟩ | ⟨hnone, hnew⟩
      · rw [hnew, ← (h.count he').2]
        exact ⟨Nat.succ_pos _, rfl⟩
      · rw [hnew, h.none_of_entry hnone]
        exact ⟨Nat.one_pos, rfl⟩
    · rw [if_neg hother] at he
      rw [if_neg (by simpa using hother)]
      exact h.count he
  case lock_lt =>
    intro other e he
    rw [entries_lease, Rows.get?_set] at he
    split at he
    · cases he
      rcases r.leasedEntry_eq_or user with ⟨e', he', hnew⟩ | ⟨hnone, hnew⟩
      · have hold := h.lock_lt he'
        rw [hnew]
        exact Nat.lt_of_lt_of_le hold hle
      · rw [hnew]
        exact hlt hnone
    · exact Nat.lt_of_lt_of_le (h.lock_lt he) hle
  case lock_inj =>
    intro one other e e' he he' hlock
    rw [entries_lease, Rows.get?_set] at he he'
    split at he <;> split at he'
    · rename_i hone hother
      rw [← hone, hother]
    · rename_i hone hother
      cases he
      exact absurd hlock (h.leasedEntry_lock_ne hother he')
    · rename_i hone hother
      cases he'
      exact absurd hlock.symm (h.leasedEntry_lock_ne hone he)
    · exact h.lock_inj he he' hlock
  case ticket_lt =>
    intro l hl
    rw [nextTicket_lease]
    rcases List.mem_cons.1 hl with rfl | hl
    · rw [lease_fst]
      exact Nat.lt_succ_self _
    · exact Nat.lt_succ_of_lt (h.ticket_lt l hl)
  case nodup =>
    rw [List.map_cons, List.nodup_cons]
    refine ⟨?_, h.nodup⟩
    intro hmem
    obtain ⟨l, hl, hticket⟩ := List.mem_map.1 hmem
    rw [lease_fst] at hticket
    exact absurd (h.ticket_lt l hl) (by simp [hticket])
  case served =>
    intro lock
    rw [lockAt_lease]
    exact h.served lock
  case queue =>
    intro lock
    rw [lockAt_lease]
    exact h.queue lock

theorem request (h : r.Agrees leases asked) (l : Lease) :
    (r.request l).Agrees leases (l :: asked) where
  entry := h.entry
  count := h.count
  lock_lt := h.lock_lt
  lock_inj := h.lock_inj
  ticket_lt := h.ticket_lt
  nodup := h.nodup
  served lock := by
    rw [lockAt_request]
    split
    · exact Lock.served_request _ _
    · exact h.served lock
  queue lock := by
    rw [lockAt_request]
    split
    · rename_i hlock
      rw [Lock.tickets_request (h.served lock), List.filter_cons_of_pos (by simpa using hlock)]
      exact List.perm_append_singleton _ _ |>.trans ((h.queue lock).cons _)
    · rename_i hlock
      rw [List.filter_cons_of_neg (by simpa using hlock)]
      exact h.queue lock

theorem letGo {l : Lease} (h : r.Agrees leases (l :: asked))
    (hnodup : ((l :: asked).map Lease.ticket).Nodup) : (r.letGo l).Agrees leases asked where
  entry := h.entry
  count := h.count
  lock_lt := h.lock_lt
  lock_inj := h.lock_inj
  ticket_lt := h.ticket_lt
  nodup := h.nodup
  served lock := by
    rw [lockAt_letGo]
    split
    · exact (h.served lock).leave _
    · exact h.served lock
  queue lock := by
    have hqueue := h.queue lock
    rw [lockAt_letGo]
    split
    · rename_i hlock
      have hothers : (((l :: asked).filter fun l => l.lock = lock).map Lease.ticket).Nodup :=
        hnodup.sublist (List.filter_sublist.map _)
      rw [List.filter_cons_of_pos (by simpa using hlock), List.map_cons] at hqueue hothers
      rw [Lock.tickets_leave (hqueue.nodup_iff.2 hothers)]
      refine (hqueue.filter _).trans ?_
      rw [List.filter_cons_of_neg (by simp), List.filter_eq_self.2]
      intro ticket hticket
      rw [decide_eq_true_eq]
      rintro rfl
      exact (List.nodup_cons.1 hothers).1 hticket
    · rename_i hlock
      rw [List.filter_cons_of_neg (by simpa using hlock)] at hqueue
      exact hqueue

/-- The count does not underflow, and reaches nought with the last lease. -/
theorem returnLease {l : Lease} (h : r.Agrees (l :: leases) asked) :
    (r.returnLease l).Agrees leases asked := by
  obtain ⟨e, he, hlock⟩ := h.entry l List.mem_cons_self
  obtain ⟨_, hcount⟩ := h.count he
  rw [List.countP_cons, if_pos (decide_eq_true rfl)] at hcount
  constructor
  case entry =>
    intro other hother
    rw [entries_returnLease he, Rows.get?_set]
    obtain ⟨e', he', hlock'⟩ := h.entry other (List.mem_cons_of_mem _ hother)
    by_cases huser : l.user = other.user
    · rw [← huser, he] at he'
      cases he'
      have hpos : 0 < leases.countP fun other => other.user = l.user :=
        List.countP_pos_iff.2 ⟨other, hother, decide_eq_true huser.symm⟩
      rw [if_pos huser, if_neg (by omega)]
      exact ⟨_, rfl, hlock'⟩
    · rw [if_neg huser]
      exact ⟨e', he', hlock'⟩
  case count =>
    intro user found hfound
    rw [entries_returnLease he, Rows.get?_set] at hfound
    split at hfound
    · rename_i huser
      split at hfound <;> cases hfound
      rw [← huser]
      dsimp only
      omega
    · rename_i huser
      have hother := h.count hfound
      rwa [List.countP_cons, if_neg (by simpa using huser)] at hother
  case lock_lt =>
    intro user found hfound
    rw [nextLock_returnLease]
    rw [entries_returnLease he, Rows.get?_set] at hfound
    split at hfound
    · have hold := h.lock_lt he
      split at hfound <;> cases hfound
      exact hold
    · exact h.lock_lt hfound
  case lock_inj =>
    have hold : ∀ {user : UserId} {found : LockEntry},
        (r.returnLease l).entries[user]? = some found →
        ∃ e', r.entries[user]? = some e' ∧ e'.lock = found.lock := by
      intro user found hfound
      rw [entries_returnLease he, Rows.get?_set] at hfound
      split at hfound
      · rename_i huser
        split at hfound <;> cases hfound
        exact ⟨e, huser ▸ he, rfl⟩
      · exact ⟨found, hfound, rfl⟩
    intro user other found found' hfound hfound' hsame
    obtain ⟨e₁, he₁, hlock₁⟩ := hold hfound
    obtain ⟨e₂, he₂, hlock₂⟩ := hold hfound'
    exact h.lock_inj he₁ he₂ (by rw [hlock₁, hlock₂, hsame])
  case ticket_lt =>
    intro other hother
    rw [nextTicket_returnLease]
    exact h.ticket_lt other (List.mem_cons_of_mem _ hother)
  case nodup =>
    exact (List.nodup_cons.1 h.nodup).2
  case served =>
    intro lock
    rw [lockAt_returnLease]
    exact h.served lock
  case queue =>
    intro lock
    rw [lockAt_returnLease]
    exact h.queue lock

/-! ### What follows -/

theorem lock_eq_iff (h : r.Agrees leases asked) {l other : Lease} (hl : l ∈ leases)
    (hother : other ∈ leases) : l.lock = other.lock ↔ l.user = other.user := by
  obtain ⟨e, he, hlock⟩ := h.entry l hl
  obtain ⟨e', he', hlock'⟩ := h.entry other hother
  constructor
  · intro hsame
    exact h.lock_inj he he' (by rw [hlock, hlock', hsame])
  · intro huser
    rw [huser, he'] at he
    cases he
    rw [← hlock, ← hlock']

theorem counts (h : r.Agrees leases asked) : r.Counts leases where
  entry user := by
    constructor
    · intro hsome
      obtain ⟨e, he⟩ := Option.isSome_iff_exists.1 hsome
      obtain ⟨hpos, hcount⟩ := h.count he
      rw [hcount, List.countP_pos_iff] at hpos
      obtain ⟨l, hl, huser⟩ := hpos
      exact ⟨l, hl, of_decide_eq_true huser⟩
    · rintro ⟨l, hl, rfl⟩
      obtain ⟨e, he, _⟩ := h.entry l hl
      rw [he]
      rfl
  count user e he := (h.count he).2
  lock l hl e he := by
    obtain ⟨e', he', hlock⟩ := h.entry l hl
    rw [he'] at he
    cases he
    exact hlock.symm

/-- Of all leases on a user one holds the lock at most. -/
theorem eq_of_isHeld (h : r.Agrees leases asked) {l other : Lease} (hl : l ∈ leases)
    (hother : other ∈ leases) (huser : l.user = other.user) (hheld : r.isHeld l = true)
    (hheld' : r.isHeld other = true) : l = other := by
  rw [isHeld_eq_true] at hheld hheld'
  rw [(h.lock_eq_iff hl hother).2 huser, hheld', Option.some_inj] at hheld
  exact List.inj_on_of_nodup_map h.nodup hl hother hheld.symm

/-- The holder of a lock is a lease that has asked for it. -/
theorem exists_of_holder (h : r.Agrees leases asked) {lock ticket : Nat}
    (hholder : (r.lockAt lock).holder = some ticket) :
    ∃ l ∈ asked, l.lock = lock ∧ l.ticket = ticket := by
  have hmem : ticket ∈ (r.lockAt lock).tickets := by simp [Lock.tickets, hholder]
  obtain ⟨l, hl, hticket⟩ := List.mem_map.1 ((h.queue lock).mem_iff.1 hmem)
  rw [List.mem_filter, decide_eq_true_eq] at hl
  exact ⟨l, hl.1, hl.2, hticket⟩

theorem nodup_tickets (h : r.Agrees leases asked) (hasked : asked.Sublist leases) (lock : Nat) :
    (r.lockAt lock).tickets.Nodup := by
  refine (h.queue lock).nodup_iff.2 (h.nodup.sublist ?_)
  exact (List.filter_sublist.trans hasked).map Lease.ticket

theorem mem_tickets (h : r.Agrees leases asked) {l : Lease} (hl : l ∈ asked) :
    l.ticket ∈ (r.lockAt l.lock).tickets := by
  refine (h.queue l.lock).mem_iff.2 (List.mem_map_of_mem ?_)
  rw [List.mem_filter]
  exact ⟨hl, decide_eq_true rfl⟩

end Agrees

end Registry

end Courtship
