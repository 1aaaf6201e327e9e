import Courtship.Lock.Acquisition
import Courtship.Proofs.Leases
import Mathlib.Data.List.Flatten
import Mathlib.Data.List.Perm.Basic
import Mathlib.Logic.Relation

/-! Any number of callers at the registry of the locks, step by step and in any interleaving. To
take a lease, to ask for the lock, to be granted it, to let go of it and to return the lease are
steps of their own, and a caller may give up wherever it waits: when its time is over, when it is
cancelled, also when the lock has just been handed to it. -/

namespace Courtship

/-! ## Callers -/

/-- Where a caller stands with the locks that it wants. -/
inductive Caller where
  /-- Has some of the locks, the last one first, and goes on to the users in `rest`. -/
  | taking (held : List Lease) (rest : List UserId)
  /-- Has the lease for the next lock, and has not asked for that yet. -/
  | asking (a : Acquisition)
  | waiting (a : Acquisition)
  /-- Gives everything back, one after the other. -/
  | leaving (leases : List Lease)
  /-- Has let go of the lock, and not returned the lease yet; the others come after it. -/
  | returning (l : Lease) (leases : List Lease)

namespace Caller

/-- With nothing to give back. -/
def idle : Caller := .leaving []

/-- The leases that the caller has out. -/
def leases : Caller → List Lease
  | taking held _ => held
  | asking a => a.waiting :: a.held
  | waiting a => a.waiting :: a.held
  | leaving leases => leases
  | returning l leases => l :: leases

/-- Those that have asked for their lock, and have not let go of it. -/
def asked : Caller → List Lease
  | taking held _ => held
  | asking a => a.held
  | waiting a => a.waiting :: a.held
  | leaving leases => leases
  | returning _ leases => leases

/-- The locks that the caller was granted and has not begun to give back. -/
def guards : Caller → List Lease
  | taking held _ => held
  | asking a => a.held
  | waiting a => a.held
  | leaving _ => []
  | returning _ _ => []

def Holds (c : Caller) (r : Registry) (user : UserId) : Prop :=
  ∃ l ∈ c.asked, l.user = user ∧ r.isHeld l = true

def WaitsFor (c : Caller) (r : Registry) (user : UserId) : Prop :=
  ∃ l ∈ c.asked, l.user = user ∧ l.ticket ∈ (r.lockAt l.lock).waiters

def HasLease (c : Caller) (user : UserId) : Prop := ∃ l ∈ c.leases, l.user = user

theorem asked_sublist (c : Caller) : c.asked.Sublist c.leases := by
  cases c with
  | taking held rest => exact .refl _
  | asking a => exact List.sublist_cons_self _ _
  | waiting a => exact .refl _
  | leaving leases => exact .refl _
  | returning l leases => exact List.sublist_cons_self _ _

theorem guards_subset_leases (c : Caller) : c.guards ⊆ c.leases := by
  cases c with
  | taking held rest => exact List.Subset.refl _
  | asking a => exact List.subset_cons_self _ _
  | waiting a => exact List.subset_cons_self _ _
  | leaving leases => exact List.nil_subset _
  | returning l leases => exact List.nil_subset _

/-! ## Steps of a caller -/

/-- What a caller makes up its mind to do. No lock changes with that. -/
inductive Decides : Caller → Caller → Prop
  | enter (users : List UserId) : Decides .idle (.taking [] users)
  | release (held : List Lease) (rest : List UserId) :
      Decides (.taking held rest) (.leaving held)
  | giveUpAsking (a : Acquisition) : Decides (.asking a) (.returning a.waiting a.held)
  | giveUp (a : Acquisition) : Decides (.waiting a) (.leaving (a.waiting :: a.held))

/-- What a caller goes through at the registry `r`, which is another one then. A lock comes before
its lease, the last lock before the others. -/
inductive Advances (r : Registry) : Caller → Caller → Registry → Prop
  | lease (held : List Lease) (user : UserId) (rest : List UserId) (deadline : Nat) :
      Advances r (.taking held (user :: rest)) (.asking ⟨held, (r.lease user).1, rest, deadline⟩)
        (r.lease user).2
  | ask (a : Acquisition) : Advances r (.asking a) (.waiting a) (r.request a.waiting)
  | granted (a : Acquisition) (h : r.isHeld a.waiting = true) :
      Advances r (.waiting a) (.taking (a.waiting :: a.held) a.rest) r
  | letGo (l : Lease) (leases : List Lease) :
      Advances r (.leaving (l :: leases)) (.returning l leases) (r.letGo l)
  | returnLease (l : Lease) (leases : List Lease) :
      Advances r (.returning l leases) (.leaving leases) (r.returnLease l)

/-- A step of a caller, and what it makes of the registry. -/
inductive Step : Caller × Registry → Caller × Registry → Prop
  | decide {c c' : Caller} (r : Registry) (h : c.Decides c') : Step (c, r) (c', r)
  | advance {c c' : Caller} {r r' : Registry} (h : c.Advances r c' r') : Step (c, r) (c', r')

/-- Steps of one caller, with all others standing still. -/
abbrev Steps : Caller × Registry → Caller × Registry → Prop := Relation.ReflTransGen Step

variable {c c' : Caller} {r r' : Registry}

theorem Decides.leases_eq (h : c.Decides c') : c'.leases = c.leases := by
  cases h <;> rfl

theorem Decides.asked_eq (h : c.Decides c') : c'.asked = c.asked := by
  cases h <;> rfl

theorem Decides.guards_subset (h : c.Decides c') : c'.guards ⊆ c.guards := by
  cases h <;> simp [guards]

/-- A step of one caller keeps the registry in agreement, whatever leases the others have. -/
theorem Advances.agrees (h : c.Advances r c' r') {leases asked : List Lease}
    (hothers : asked.Sublist leases) (hr : r.Agrees (c.leases ++ leases) (c.asked ++ asked)) :
    r'.Agrees (c'.leases ++ leases) (c'.asked ++ asked) := by
  cases h with
  | lease held user rest deadline => exact hr.lease user
  | ask a => exact hr.request a.waiting
  | granted a hheld => exact hr
  | letGo l rest =>
    have hsub : (l :: rest ++ asked).Sublist (l :: rest ++ leases) := hothers.append_left _
    exact hr.letGo (hr.nodup.sublist (hsub.map Lease.ticket))
  | returnLease l rest => exact hr.returnLease

/-- A step of one caller takes the lock from no lease but one of its own. -/
theorem Advances.isHeld (h : c.Advances r c' r') {l : Lease} (hheld : r.isHeld l = true)
    (hne : ∀ own ∈ c.leases, own.ticket ≠ l.ticket) : r'.isHeld l = true := by
  cases h with
  | lease held user rest deadline => exact Registry.isHeld_lease hheld user
  | ask a => exact Registry.isHeld_request hheld a.waiting
  | granted => exact hheld
  | letGo own rest => exact Registry.isHeld_letGo hheld (hne own List.mem_cons_self)
  | returnLease own rest => exact Registry.isHeld_returnLease hheld own

theorem Advances.guarded (h : c.Advances r c' r') (hc : ∀ l ∈ c.guards, r.isHeld l = true) :
    ∀ l ∈ c'.guards, r'.isHeld l = true := by
  cases h with
  | lease held user rest deadline => exact fun l hl => Registry.isHeld_lease (hc l hl) user
  | ask a => exact fun l hl => Registry.isHeld_request (hc l hl) a.waiting
  | granted a hheld =>
    intro l hl
    rcases List.mem_cons.1 hl with rfl | hl
    · exact hheld
    · exact hc l hl
  | letGo => simp [guards]
  | returnLease => simp [guards]

end Caller

/-! ## Crowds -/

structure Crowd where
  registry : Registry
  callers : List Caller

namespace Crowd

def empty : Crowd := ⟨.empty, []⟩

/-- All leases that are out. -/
def leases (s : Crowd) : List Lease := s.callers.flatMap Caller.leases

def asked (s : Crowd) : List Lease := s.callers.flatMap Caller.asked

/-- The leases of all callers but the one at this place. -/
def leasesBut (s : Crowd) (place : Nat) : List Lease :=
  (s.callers.eraseIdx place).flatMap Caller.leases

inductive Step : Crowd → Crowd → Prop
  | arrive (s : Crowd) : Step s ⟨s.registry, s.callers ++ [.idle]⟩
  | move (s : Crowd) (place : Nat) (c c' : Caller) (r : Registry)
      (hc : s.callers[place]? = some c) (h : Caller.Step (c, s.registry) (c', r)) :
      Step s ⟨r, s.callers.set place c'⟩

abbrev Steps : Crowd → Crowd → Prop := Relation.ReflTransGen Step

def Reachable (s : Crowd) : Prop := Steps empty s

/-- What holds in every reachable state. -/
structure Sound (s : Crowd) : Prop where
  agrees : s.registry.Agrees s.leases s.asked
  guarded : ∀ c ∈ s.callers, ∀ l ∈ c.guards, s.registry.isHeld l = true

variable {s s' : Crowd} {place : Nat} {c c' : Caller}

/-- The caller at a place, and the others. -/
theorem set_perm (hc : s.callers[place]? = some c) (c' : Caller) :
    (s.callers.set place c').Perm (c' :: s.callers.eraseIdx place) :=
  List.set_perm_cons_eraseIdx (List.getElem?_eq_some_iff.1 hc).1 c'

theorem perm_eraseIdx (hc : s.callers[place]? = some c) :
    s.callers.Perm (c :: s.callers.eraseIdx place) := by
  obtain ⟨hplace, rfl⟩ := List.getElem?_eq_some_iff.1 hc
  exact (List.getElem_cons_eraseIdx_perm hplace).symm

theorem leases_perm (hc : s.callers[place]? = some c) :
    s.leases.Perm (c.leases ++ s.leasesBut place) :=
  (perm_eraseIdx hc).flatMap_right _

theorem asked_sublist_leases (callers : List Caller) :
    (callers.flatMap Caller.asked).Sublist (callers.flatMap Caller.leases) :=
  List.Sublist.flatMap_right callers fun c _ => c.asked_sublist

/-- No other caller has a lease of the caller at this place. -/
theorem ticket_ne_of_mem_eraseIdx (h : s.registry.Agrees s.leases s.asked)
    (hc : s.callers[place]? = some c) {other : Caller}
    (hother : other ∈ s.callers.eraseIdx place) {own l : Lease} (hown : own ∈ c.leases)
    (hl : l ∈ other.leases) : own.ticket ≠ l.ticket := by
  have hnodup := ((leases_perm hc).map Lease.ticket).nodup_iff.1 h.nodup
  rw [List.map_append, List.nodup_append] at hnodup
  exact hnodup.2.2 _ (List.mem_map_of_mem hown) _
    (List.mem_map_of_mem (List.mem_flatMap.2 ⟨other, hother, hl⟩))

/-! ## What a step keeps -/

namespace Sound

theorem set (h : s.Sound) (hc : s.callers[place]? = some c) {r : Registry}
    (hagrees : r.Agrees (c'.leases ++ s.leasesBut place)
      (c'.asked ++ (s.callers.eraseIdx place).flatMap Caller.asked))
    (hown : ∀ l ∈ c'.guards, r.isHeld l = true)
    (hothers : ∀ l, s.registry.isHeld l = true → (∀ own ∈ c.leases, own.ticket ≠ l.ticket) →
      r.isHeld l = true) : Sound ⟨r, s.callers.set place c'⟩ where
  agrees := by
    refine hagrees.perm ?_ ?_ <;> exact ((set_perm hc c').flatMap_right _).symm
  guarded := by
    intro other hother l hl
    rcases List.mem_cons.1 ((set_perm hc c').mem_iff.1 hother) with rfl | hother
    · exact hown l hl
    · refine hothers l (h.guarded other (List.mem_of_mem_eraseIdx hother) l hl) ?_
      intro own hown
      exact ticket_ne_of_mem_eraseIdx h.agrees hc hother hown (other.guards_subset_leases hl)

theorem step (h : s.Sound) (hstep : Step s s') : s'.Sound := by
  cases hstep with
  | arrive =>
    refine ⟨?_, ?_⟩
    · have hagrees := h.agrees
      simpa [leases, asked, Caller.idle, Caller.leases, Caller.asked] using hagrees
    · intro c hc
      rcases List.mem_append.1 hc with hc | hc
      · exact h.guarded c hc
      · rw [List.mem_singleton] at hc
        subst hc
        simp [Caller.idle, Caller.guards]
  | move place c c' r hc hmove =>
    have hagrees := h.agrees.perm (leases_perm hc) ((perm_eraseIdx hc).flatMap_right _)
    have hguarded := h.guarded c (List.mem_of_getElem? hc)
    cases hmove with
    | decide _ hdecides =>
      refine h.set hc ?_ ?_ fun l hl _ => hl
      · rw [hdecides.leases_eq, hdecides.asked_eq]
        exact hagrees
      · exact fun l hl => hguarded l (hdecides.guards_subset hl)
    | advance hadvances =>
      refine h.set hc ?_ ?_ fun l hl => hadvances.isHeld hl
      · exact hadvances.agrees (asked_sublist_leases _) hagrees
      · exact hadvances.guarded hguarded

theorem steps (h : s.Sound) (hsteps : Steps s s') : s'.Sound := by
  induction hsteps with
  | refl => exact h
  | tail _ hstep ih => exact ih.step hstep

end Sound

theorem sound_of_reachable (h : s.Reachable) : s.Sound := by
  have hempty : empty.Sound := ⟨Registry.agrees_empty, by simp [empty]⟩
  exact hempty.steps h

end Crowd

/-! ## What the calls of the service do -/

namespace Caller

/-- Where an acquisition leaves its caller. -/
def after : Acquisition.Progress → Caller
  | .held leases => .taking leases []
  | .waiting a => .waiting a
  | .timedOut _ => .idle

variable {x y : Caller × Registry} {c c' : Caller} {r r' : Registry}

/-- Steps of one caller that need no decision. -/
abbrev Goes : Caller × Registry → Caller × Registry → Prop :=
  Relation.ReflTransGen fun x y => x.1.Advances x.2 y.1 y.2

theorem Goes.steps (h : Goes x y) : Steps x y :=
  Relation.ReflTransGen.mono (fun _ _ => .advance) _ _ h

theorem Advances.trans (h : c.Advances r c' r') (hgoes : Goes (c', r') y) : Goes (c, r) y :=
  .head h hgoes

theorem Decides.trans (h : c.Decides c') (hsteps : Steps (c', r) y) : Steps (c, r) y :=
  .head (.decide r h) hsteps

theorem goes_leaving (leases : List Lease) (r : Registry) :
    Goes (.leaving leases, r) (.idle, r.releaseAll leases) := by
  induction leases generalizing r with
  | nil => exact .refl
  | cons l leases ih =>
    exact (Advances.letGo l leases).trans ((Advances.returnLease l leases).trans (ih _))

theorem goes_acquire (deadline : Nat) (held : List Lease) (users : List UserId) (r : Registry) :
    Goes (.taking held users, r)
      (Prod.map after id (Acquisition.advance r deadline held users)) := by
  induction users generalizing held r with
  | nil => exact .refl
  | cons user rest ih =>
    refine (Advances.lease held user rest deadline).trans ((Advances.ask _).trans ?_)
    rw [Acquisition.advance]
    dsimp only
    split
    · rename_i hheld
      exact (Advances.granted _ hheld).trans (ih _ _)
    · exact .refl

theorem steps_release (held : List Lease) (rest : List UserId) (r : Registry) :
    Steps (.taking held rest, r) (.idle, r.releaseAll held) :=
  (Decides.release held rest).trans (goes_leaving held r).steps

theorem steps_cancel (a : Acquisition) (r : Registry) :
    Steps (.waiting a, r) (.idle, a.cancel r) :=
  (Decides.giveUp a).trans (goes_leaving _ r).steps

theorem steps_expire (now : Nat) (p : Acquisition.Progress × Registry) :
    Steps (Prod.map after id p) (Prod.map after id (Acquisition.expire now p)) := by
  rcases p with ⟨leases | a | user, r⟩
  · exact .refl
  · unfold Acquisition.expire
    dsimp only
    split
    · exact steps_cancel a r
    · exact .refl
  · exact .refl

theorem steps_start (users : List UserId) (now timeout : Nat) (r : Registry) :
    Steps (.idle, r) (Prod.map after id (Acquisition.start r users now timeout)) :=
  (Decides.enter users).trans ((goes_acquire _ _ _ r).steps.trans (steps_expire now _))

theorem steps_poll (a : Acquisition) (now : Nat) (r : Registry) :
    Steps (.waiting a, r) (Prod.map after id (a.poll r now)) := by
  unfold Acquisition.poll
  split
  · rename_i hheld
    have hgoes := (Advances.granted a hheld).trans (goes_acquire a.deadline _ a.rest r)
    exact hgoes.steps.trans (steps_expire now _)
  · exact steps_expire now (.waiting a, r)

/-- Whatever a caller has come to, it can go, and waits for nobody. -/
theorem exists_steps_idle (c : Caller) (r : Registry) : ∃ r', Steps (c, r) (.idle, r') := by
  cases c with
  | taking held rest => exact ⟨_, steps_release held rest r⟩
  | asking a =>
    have hgoes := (Advances.returnLease (r := r) a.waiting a.held).trans (goes_leaving _ _)
    exact ⟨_, (Decides.giveUpAsking a).trans hgoes.steps⟩
  | waiting a => exact ⟨_, steps_cancel a r⟩
  | leaving leases => exact ⟨_, (goes_leaving leases r).steps⟩
  | returning l leases =>
    exact ⟨_, ((Advances.returnLease l leases).trans (goes_leaving _ _)).steps⟩

end Caller

namespace Crowd

variable {s : Crowd} {place : Nat} {c : Caller}

/-- What a caller does on its own it can do in a crowd. -/
theorem steps_of_caller (hc : s.callers[place]? = some c) {y : Caller × Registry}
    (h : Caller.Steps (c, s.registry) y) : Steps s ⟨y.2, s.callers.set place y.1⟩ := by
  obtain ⟨hplace, hget⟩ := List.getElem?_eq_some_iff.1 hc
  induction h with
  | refl =>
    subst hget
    rw [List.set_getElem_self]
  | @tail before y _ hstep ih =>
    have hbefore : (s.callers.set place before.1)[place]? = some before.1 :=
      List.getElem?_set_self hplace
    have hmove := Step.move ⟨before.2, s.callers.set place before.1⟩ place before.1 y.1 y.2
      hbefore hstep
    rw [List.set_set] at hmove
    exact ih.tail hmove

/-- A call that starts to take locks is a caller that comes in. -/
theorem steps_start (s : Crowd) (users : List UserId) (now timeout : Nat) :
    Steps s ⟨(Acquisition.start s.registry users now timeout).2,
      s.callers ++ [.after (Acquisition.start s.registry users now timeout).1]⟩ := by
  have hplace : (s.callers ++ [Caller.idle])[s.callers.length]? = some .idle := by simp
  have hsteps := steps_of_caller (s := ⟨s.registry, s.callers ++ [.idle]⟩) hplace
    (Caller.steps_start users now timeout s.registry)
  refine .head (.arrive s) ?_
  simpa using hsteps

/-! ## What holds in every state -/

theorem Sound.counts_leases (h : s.Sound) : s.registry.Counts s.leases := h.agrees.counts

theorem exists_mem_leases {p : Lease → Prop} :
    (∃ l ∈ s.leases, p l) ↔ ∃ c ∈ s.callers, ∃ l ∈ c.leases, p l := by
  simp only [leases, List.mem_flatMap]
  constructor
  · rintro ⟨l, ⟨c, hc, hl⟩, hp⟩
    exact ⟨c, hc, l, hl, hp⟩
  · rintro ⟨c, hc, l, hl, hp⟩
    exact ⟨l, ⟨c, hc, hl⟩, hp⟩

theorem mem_leases_of_asked {l : Lease} (hc : c ∈ s.callers) (hl : l ∈ c.asked) :
    l ∈ s.leases :=
  List.mem_flatMap.2 ⟨c, hc, c.asked_sublist.subset hl⟩

theorem Sound.eq_of_holds (h : s.Sound) {user : UserId} {other : Nat} {c' : Caller}
    (hc : s.callers[place]? = some c) (hc' : s.callers[other]? = some c')
    (hholds : c.Holds s.registry user) (hholds' : c'.Holds s.registry user) : place = other := by
  obtain ⟨l, hl, rfl, hheld⟩ := hholds
  obtain ⟨l', hl', huser, hheld'⟩ := hholds'
  have hsame : l = l' := h.agrees.eq_of_isHeld
    (mem_leases_of_asked (List.mem_of_getElem? hc) hl)
    (mem_leases_of_asked (List.mem_of_getElem? hc') hl') huser.symm hheld hheld'
  by_contra hne
  have hother : c' ∈ s.callers.eraseIdx place :=
    List.mem_eraseIdx_iff_getElem?.2 ⟨other, Ne.symm hne, hc'⟩
  exact ticket_ne_of_mem_eraseIdx h.agrees hc hother (c.asked_sublist.subset hl)
    (c'.asked_sublist.subset hl') (by rw [hsame])

/-- Whoever holds a lock or waits for one has a lease. -/
theorem Sound.entry_iff (h : s.Sound) (user : UserId) :
    s.registry.entries[user]?.isSome ↔ ∃ c ∈ s.callers,
      c.Holds s.registry user ∨ c.WaitsFor s.registry user ∨ c.HasLease user := by
  rw [h.counts_leases.entry, exists_mem_leases]
  refine exists_congr fun c => and_congr_right fun _ => ?_
  constructor
  · exact fun hlease => .inr (.inr hlease)
  · rintro (⟨l, hl, huser, _⟩ | ⟨l, hl, huser, _⟩ | hlease)
    · exact ⟨l, c.asked_sublist.subset hl, huser⟩
    · exact ⟨l, c.asked_sublist.subset hl, huser⟩
    · exact hlease

/-- Once a caller is through, the registry counts the leases of the others. -/
theorem Sound.counts_leasesBut (h : s.Sound) (hc : s.callers[place]? = some c) {r : Registry}
    (hsteps : Caller.Steps (c, s.registry) (.idle, r)) : r.Counts (s.leasesBut place) := by
  have hidle : Sound ⟨r, s.callers.set place .idle⟩ := h.steps (steps_of_caller hc hsteps)
  have hleases := (set_perm hc .idle).flatMap_right Caller.leases
  exact (hidle.agrees.perm hleases (.refl _)).counts

theorem Sound.counts_timedOut (h : s.Sound) {users : List UserId} {now timeout : Nat}
    {user : UserId} {r : Registry}
    (hstart : Acquisition.start s.registry users now timeout = (.timedOut user, r)) :
    r.Counts s.leases := by
  have hsteps := steps_start s users now timeout
  rw [hstart] at hsteps
  have hcounts := (h.steps hsteps).counts_leases
  simpa [leases, Caller.after, Caller.idle, Caller.leases] using hcounts

theorem Sound.entries_empty (h : s.Sound) (hidle : ∀ c ∈ s.callers, c = .idle) :
    s.registry.entries = ∅ := by
  apply Std.ExtTreeMap.ext_getElem?
  intro user
  have hnone : ¬s.registry.entries[user]?.isSome := by
    rw [h.counts_leases.entry, exists_mem_leases]
    rintro ⟨c, hc, l, hl, _⟩
    rw [hidle c hc] at hl
    cases hl
  rw [Option.not_isSome_iff_eq_none.1 hnone]
  simp

/-- **The entries are those of the leases that are out.** In every state that a crowd comes to, one
caller at most holds the lock of a user, and who was granted one holds it. There is an entry for
a user exactly when some caller holds the lock, waits for it or still has a lease; the entry counts
the leases on the user, all of them are on its lock, and there is one left whenever a lease is to be
returned. Each caller can go without waiting, and then, as after a failed acquisition and a
cancelled one, the leases of the others are all that is counted. With nobody there any more no entry
is left. -/
theorem entries_count_leases (h : s.Reachable) :
    (∀ (user : UserId) (i j : Nat) (c c' : Caller), s.callers[i]? = some c →
      s.callers[j]? = some c' → c.Holds s.registry user → c'.Holds s.registry user → i = j) ∧
    (∀ c ∈ s.callers, ∀ l ∈ c.guards, s.registry.isHeld l = true) ∧
    (∀ user : UserId, s.registry.entries[user]?.isSome ↔ ∃ c ∈ s.callers,
      c.Holds s.registry user ∨ c.WaitsFor s.registry user ∨ c.HasLease user) ∧
    s.registry.Counts s.leases ∧
    (∀ l ∈ s.leases, ∃ e, s.registry.entries[l.user]? = some e ∧ 0 < e.leases) ∧
    (∀ (i : Nat) (c : Caller), s.callers[i]? = some c →
      ∃ r, Caller.Steps (c, s.registry) (.idle, r) ∧ r.Counts (s.leasesBut i)) ∧
    (∀ (users : List UserId) (now timeout : Nat) (user : UserId) (r : Registry),
      Acquisition.start s.registry users now timeout = (.timedOut user, r) →
        r.Counts s.leases) ∧
    (∀ (i : Nat) (a : Acquisition), s.callers[i]? = some (.waiting a) →
      (a.cancel s.registry).Counts (s.leasesBut i) ∧
      ∀ (now : Nat) (user : UserId) (r : Registry),
        a.poll s.registry now = (.timedOut user, r) → r.Counts (s.leasesBut i)) ∧
    ((∀ c ∈ s.callers, c = .idle) → s.registry.entries = ∅) := by
  have hs := sound_of_reachable h
  refine ⟨?_, hs.guarded, hs.entry_iff, hs.counts_leases, ?_, ?_, ?_, ?_, hs.entries_empty⟩
  · intro user i j c c' hc hc' hholds hholds'
    exact hs.eq_of_holds hc hc' hholds hholds'
  · intro l hl
    obtain ⟨e, he, _⟩ := hs.agrees.entry l hl
    exact ⟨e, he, (hs.agrees.count he).1⟩
  · intro i c hc
    obtain ⟨r, hsteps⟩ := c.exists_steps_idle s.registry
    exact ⟨r, hsteps, hs.counts_leasesBut hc hsteps⟩
  · intro users now timeout user r hstart
    exact hs.counts_timedOut hstart
  · intro i a ha
    refine ⟨hs.counts_leasesBut ha (Caller.steps_cancel a s.registry), ?_⟩
    intro now user r hpoll
    have hsteps := Caller.steps_poll a now s.registry
    rw [hpoll] at hsteps
    exact hs.counts_leasesBut ha hsteps

/-- One caller has the lock of a user, and another one, who wants two locks, waits for it. -/
def twoCallers : Crowd :=
  let first := Acquisition.start .empty [.ofNat 1] 0 5
  let second := Acquisition.start first.2 (Acquisition.inLockOrder (.ofNat 2) (.ofNat 1)) 0 5
  ⟨second.2, [.after first.1, .after second.1]⟩

theorem reachable_twoCallers : twoCallers.Reachable :=
  (steps_start empty [.ofNat 1] 0 5).trans (steps_start _ (Acquisition.inLockOrder _ _) 0 5)

/-- The wait that is cancelled has its lease back, and the other caller keeps the lock. -/
theorem entries_count_leases_two_callers :
    ∃ a, twoCallers.callers[1]? = some (.waiting a) ∧
      twoCallers.registry.entries[UserId.ofNat 1]? = some ⟨0, 2⟩ ∧
      twoCallers.registry.Counts twoCallers.leases ∧
      (a.cancel twoCallers.registry).Counts (twoCallers.leasesBut 1) ∧
      twoCallers.leases.length = 2 ∧ (twoCallers.leasesBut 1).length = 1 := by
  obtain ⟨_, _, _, hcounts, _, _, _, hcancelled, _⟩ := entries_count_leases reachable_twoCallers
  exact ⟨_, rfl, by decide +kernel, hcounts, (hcancelled 1 _ rfl).1, rfl, rfl⟩

end Crowd

end Courtship
