import Courtship.Proofs.Crowd
import Courtship.Proofs.PairName
import Courtship.Service
import Courtship.Store.Memory

/-! Any number of calls on one service at once, one lock step at a time. A call may look at the
tables first; then it takes the locks of its users, the smaller one first, and for each try of its
unit of work the lock of the tables; then it gives all of them back. It never wants the lock of a
user while it has that of the tables. -/

namespace Courtship

/-! ## Calls -/

/-- What can be put to the service. -/
inductive Request where
  | command (c : Command)
  | question (q : Question)

namespace Request

@[reducible] def Answer : Request → Type
  | command c => c.Answer
  | question q => q.Answer

def operation (settings : Settings) : (request : Request) → Operation request.Answer
  | command c => c.operation settings
  | question q => q.operation

end Request

/-- How far a call has come. -/
inductive Phase (α : Type) where
  | called (op : Operation α)
  /-- Has asked for the tables, to look at them. -/
  | looking (look : Work (Readings → Plan α))
  | locking (retries : Nat) (body : Readings → Work (Ending α))
  /-- Has the locks of its users, and has asked for the tables. -/
  | working (retries : Nat) (body : Readings → Work (Ending α))
  /-- There is no result if the call was cancelled. -/
  | leaving (result : Option (Except (Failure EngineError) α))

/-- A call, with where it stands. -/
structure Activity where
  request : Request
  phase : Phase request.Answer
  caller : Caller

/-- What all calls share. -/
structure Shared where
  registry : Registry
  /-- The lock of the tables. Its tickets are the places of the calls. -/
  tablesLock : Lock
  memory : Memory

namespace Phase

variable {α : Type}

def wantsTables : Phase α → Bool
  | looking _ => true
  | working _ _ => true
  | _ => false

/-- What there is to do for a plan. -/
def planned : Plan α → Phase α × Caller
  | .answer result => (leaving (some result), .idle)
  | .locked a b retries body => (locking retries body, .taking [] (Acquisition.inLockOrder a b))

/-- After a conflict there is another try, as long as there are any; the users stay locked. -/
def attempted (body : Readings → Work (Ending α)) (held : List Lease) :
    Nat → Except (Failure EngineError) α → Phase α × Caller
  | retries + 1, .error (.error (.storageConflict _)) => (locking retries body, .taking held [])
  | _, result => (leaving (some result), .leaving held)

/-- A step that the call at this place can take as soon as it has the lock that it needs. -/
inductive Goes (place : Nat) (s : Shared) :
    Phase α × Caller → Phase α × Caller → Shared → Prop
  | plan (plan : Plan α) : Goes place s (called (.plain plan), .idle) (planned plan) s
  | askToLook (look : Work (Readings → Plan α)) :
      Goes place s (called (.reading look), .idle) (looking look, .idle)
        { s with tablesLock := s.tablesLock.request place }
  | look (look : Work (Readings → Plan α)) (readings : Readings)
      (h : s.tablesLock.holder = some place) :
      Goes place s (looking look, .idle)
        (planned ((Operation.reading look).plan readings s.memory).1)
        { s with
          tablesLock := s.tablesLock.leave place
          memory := ((Operation.reading look).plan readings s.memory).2 }
  | lock (retries : Nat) (body : Readings → Work (Ending α)) (c c' : Caller) (r : Registry)
      (h : c.Advances s.registry c' r) :
      Goes place s (locking retries body, c) (locking retries body, c') { s with registry := r }
  | askToWork (retries : Nat) (body : Readings → Work (Ending α)) (held : List Lease) :
      Goes place s (locking retries body, .taking held []) (working retries body, .taking held [])
        { s with tablesLock := s.tablesLock.request place }
  | work (retries : Nat) (body : Readings → Work (Ending α)) (held : List Lease)
      (readings : Readings) (h : s.tablesLock.holder = some place) :
      Goes place s (working retries body, .taking held [])
        (attempted body held retries ((body readings).inUnit s.memory).1)
        { s with
          tablesLock := s.tablesLock.leave place
          memory := ((body readings).inUnit s.memory).2 }
  | unlock (result : Option (Except (Failure EngineError) α)) (c c' : Caller) (r : Registry)
      (h : c.Advances s.registry c' r) :
      Goes place s (leaving result, c) (leaving result, c') { s with registry := r }

/-- The time of a call is over, or it is cancelled: at any time, also when a lock has just been
handed to it. -/
inductive GivesUp (place : Nat) (s : Shared) :
    Phase α × Caller → Phase α × Caller → Shared → Prop
  | cancelCalled (op : Operation α) :
      GivesUp place s (called op, .idle) (leaving none, .idle) s
  | cancelLook (look : Work (Readings → Plan α)) :
      GivesUp place s (looking look, .idle) (leaving none, .idle)
        { s with tablesLock := s.tablesLock.leave place }
  | cancelLock (retries : Nat) (body : Readings → Work (Ending α)) (c c' : Caller)
      (h : c.Decides c') : GivesUp place s (locking retries body, c) (leaving none, c') s
  | timeOut (retries : Nat) (body : Readings → Work (Ending α)) (a : Acquisition) (waited : Nat)
      (c c' : Caller) (hc : c = .asking a ∨ c = .waiting a) (h : c.Decides c') :
      GivesUp place s (locking retries body, c)
        (leaving (some (.error (.error (.ofLockTimeout ⟨a.waiting.user, waited⟩)))), c') s
  | cancelWork (retries : Nat) (body : Readings → Work (Ending α)) (held : List Lease) :
      GivesUp place s (working retries body, .taking held []) (leaving none, .leaving held)
        { s with tablesLock := s.tablesLock.leave place }

end Phase

/-! ## Traffic -/

structure Traffic where
  shared : Shared
  calls : List Activity

namespace Traffic

def empty : Traffic := ⟨⟨.empty, .free, .empty⟩, []⟩

/-- The calls as callers at the registry. -/
def crowd (t : Traffic) : Crowd := ⟨t.shared.registry, t.calls.map Activity.caller⟩

/-- The call at this place takes a step, and neither its time nor that of another one is over. -/
inductive GoesOn (t : Traffic) (place : Nat) : Traffic → Prop
  | mk (request : Request) (p p' : Phase request.Answer) (c c' : Caller) (s : Shared)
      (hcall : t.calls[place]? = some ⟨request, p, c⟩)
      (h : Phase.Goes place t.shared (p, c) (p', c') s) :
      GoesOn t place ⟨s, t.calls.set place ⟨request, p', c'⟩⟩

inductive Step (settings : Settings) (t : Traffic) : Traffic → Prop
  | arrive (request : Request) :
      Step settings t
        ⟨t.shared, t.calls ++ [⟨request, .called (request.operation settings), .idle⟩]⟩
  | goOn (place : Nat) (t' : Traffic) (h : t.GoesOn place t') : Step settings t t'
  | giveUp (place : Nat) (request : Request) (p p' : Phase request.Answer) (c c' : Caller)
      (s : Shared) (hcall : t.calls[place]? = some ⟨request, p, c⟩)
      (h : Phase.GivesUp place t.shared (p, c) (p', c') s) :
      Step settings t ⟨s, t.calls.set place ⟨request, p', c'⟩⟩
  | setFaults (rejectsNotifications : Bool) (commitConflicts : Nat) :
      Step settings t
        { t with shared.memory := { t.shared.memory with
          rejectsNotifications := rejectsNotifications
          commitConflicts := commitConflicts } }
  | rerank (rank : Arrow → Nat) : Step settings t { t with shared.memory.rank := rank }

def Reachable (settings : Settings) (t : Traffic) : Prop :=
  Relation.ReflTransGen (Step settings) empty t

end Traffic

/-! ## What holds of every call -/

namespace Caller

/-- On the way up through these users: some are locked, and the others are yet to come. -/
inductive Climbs : Caller → List UserId → Prop
  | taking (held : List Lease) (rest : List UserId) :
      Climbs (.taking held rest) ((held.map Lease.user).reverse ++ rest)
  | asking (a : Acquisition) :
      Climbs (.asking a) (((a.waiting :: a.held).map Lease.user).reverse ++ a.rest)
  | waiting (a : Acquisition) :
      Climbs (.waiting a) (((a.waiting :: a.held).map Lease.user).reverse ++ a.rest)

/-- Takes the locks of users in ascending order. -/
def InOrder (c : Caller) : Prop :=
  ∃ users, c.Climbs users ∧ users.Pairwise fun u v => u.toNat < v.toNat

/-- Has begun to give its locks back, if it had any. -/
inductive IsLeaving : Caller → Prop
  | leaving (leases : List Lease) : IsLeaving (.leaving leases)
  | returning (l : Lease) (leases : List Lease) : IsLeaving (.returning l leases)

variable {c c' : Caller} {r r' : Registry}

theorem Advances.climbs (h : c.Advances r c' r') {users : List UserId} (hc : c.Climbs users) :
    c'.Climbs users := by
  cases h with
  | lease held user rest deadline =>
    cases hc
    have hclimbs := Climbs.asking ⟨held, (r.lease user).1, rest, deadline⟩
    rw [List.map_cons, List.reverse_cons, List.append_assoc, Registry.lease_fst] at hclimbs
    rw [Registry.lease_fst]
    exact hclimbs
  | ask a =>
    cases hc
    exact .waiting a
  | granted a =>
    cases hc
    exact .taking (a.waiting :: a.held) a.rest
  | letGo => cases hc
  | returnLease => cases hc

theorem Advances.isLeaving (h : c.Advances r c' r') (hc : c.IsLeaving) : c'.IsLeaving := by
  cases h with
  | lease => cases hc
  | ask => cases hc
  | granted => cases hc
  | letGo l leases => exact .returning l leases
  | returnLease l leases => exact .leaving leases

theorem Decides.isLeaving (h : c.Decides c') (hc : c.InOrder) : c'.IsLeaving := by
  obtain ⟨users, hclimbs, _⟩ := hc
  cases h with
  | enter => cases hclimbs
  | release held rest => exact .leaving held
  | giveUpAsking a => exact .returning a.waiting a.held
  | giveUp a => exact .leaving (a.waiting :: a.held)

/-- The locks that a caller has are those of smaller users than the one it waits for. -/
theorem InOrder.held_lt {a : Acquisition} (h : InOrder (.waiting a)) :
    ∀ l ∈ a.held, l.user.toNat < a.waiting.user.toNat := by
  obtain ⟨users, hclimbs, hsorted⟩ := h
  cases hclimbs
  rw [List.map_cons, List.reverse_cons, List.append_assoc, List.pairwise_append] at hsorted
  intro l hl
  refine hsorted.2.2 l.user ?_ a.waiting.user ?_
  · rw [List.mem_reverse]
    exact List.mem_map_of_mem hl
  · exact List.mem_cons_self

end Caller

theorem Acquisition.inLockOrder_sorted (a b : UserId) :
    (inLockOrder a b).Pairwise fun u v => u.toNat < v.toNat := by
  unfold inLockOrder
  dsimp only
  split
  · exact List.pairwise_singleton _ _
  · rename_i hne
    have hlt : (inOrder a b).1.toNat < (inOrder a b).2.toNat := by
      apply inOrder_lt
      rintro rfl
      exact hne (by simp [inOrder])
    simpa using hlt

namespace Phase

variable {α : Type} {place : Nat} {s s' : Shared} {x y : Phase α × Caller}

/-- A call has leases only from when it locks its users until it leaves, and it has all locks that
it wants when it asks for the tables. -/
def Fits : Phase α → Caller → Prop
  | called _, c => c = .idle
  | looking _, c => c = .idle
  | locking _ _, c => c.InOrder
  | working _ _, c => c.InOrder ∧ ∃ held, c = .taking held []
  | leaving _, c => c.IsLeaving

theorem fits_planned (plan : Plan α) : (planned plan).1.Fits (planned plan).2 := by
  cases plan with
  | answer result => exact .leaving []
  | locked a b retries body =>
    exact ⟨_, .taking [] _, Acquisition.inLockOrder_sorted a b⟩

theorem steps_planned (plan : Plan α) (r : Registry) :
    Caller.Steps (.idle, r) ((planned plan).2, r) := by
  cases plan with
  | answer result => exact .refl
  | locked a b retries body => exact (Caller.Decides.enter _).trans .refl

theorem attempted_eq_or (body : Readings → Work (Ending α)) (held : List Lease) (retries : Nat)
    (result : Except (Failure EngineError) α) :
    (∃ fewer, attempted body held retries result = (locking fewer body, .taking held [])) ∨
      attempted body held retries result = (leaving (some result), .leaving held) := by
  unfold attempted
  split
  · exact .inl ⟨_, rfl⟩
  · exact .inr rfl

/-- What any step of a call does: its caller takes steps, and the call stands in the queue of the
tables from when it asks for them until it is done with them. -/
structure Moves (place : Nat) (s : Shared) (x y : Phase α × Caller) (s' : Shared) : Prop where
  caller : Caller.Steps (x.2, s.registry) (y.2, s'.registry)
  tables : s'.tablesLock = s.tablesLock ∧ y.1.wantsTables = x.1.wantsTables ∨
    s'.tablesLock = s.tablesLock.request place ∧ x.1.wantsTables = false ∧
      y.1.wantsTables = true ∨
    s'.tablesLock = s.tablesLock.leave place ∧ y.1.wantsTables = false
  fits : x.1.Fits x.2 → y.1.Fits y.2

theorem wantsTables_planned (plan : Plan α) : (planned plan).1.wantsTables = false := by
  cases plan <;> rfl

theorem Goes.moves (h : Goes place s x y s') : Moves place s x y s' := by
  cases h with
  | plan plan =>
    exact ⟨steps_planned plan _, .inl ⟨rfl, wantsTables_planned plan⟩, fun _ => fits_planned plan⟩
  | askToLook look => exact ⟨.refl, .inr (.inl ⟨rfl, rfl, rfl⟩), id⟩
  | look look readings hholder =>
    exact ⟨steps_planned _ _, .inr (.inr ⟨rfl, wantsTables_planned _⟩), fun _ => fits_planned _⟩
  | lock retries body c c' r hadvances =>
    refine ⟨.single (.advance hadvances), .inl ⟨rfl, rfl⟩, ?_⟩
    rintro ⟨users, hclimbs, hsorted⟩
    exact ⟨users, hadvances.climbs hclimbs, hsorted⟩
  | askToWork retries body held =>
    exact ⟨.refl, .inr (.inl ⟨rfl, rfl, rfl⟩), fun horder => ⟨horder, held, rfl⟩⟩
  | work retries body held readings hholder =>
    rcases attempted_eq_or body held retries ((body readings).inUnit s.memory).1 with
      ⟨fewer, hagain⟩ | hlast
    · rw [hagain]
      exact ⟨.refl, .inr (.inr ⟨rfl, rfl⟩), And.left⟩
    · rw [hlast]
      exact ⟨(Caller.Decides.release held []).trans .refl, .inr (.inr ⟨rfl, rfl⟩),
        fun _ => .leaving held⟩
  | unlock result c c' r hadvances =>
    exact ⟨.single (.advance hadvances), .inl ⟨rfl, rfl⟩, hadvances.isLeaving⟩

theorem GivesUp.moves (h : GivesUp place s x y s') : Moves place s x y s' := by
  cases h with
  | cancelCalled op => exact ⟨.refl, .inl ⟨rfl, rfl⟩, fun _ => .leaving []⟩
  | cancelLook look => exact ⟨.refl, .inr (.inr ⟨rfl, rfl⟩), fun _ => .leaving []⟩
  | cancelLock retries body c c' hdecides =>
    exact ⟨hdecides.trans .refl, .inl ⟨rfl, rfl⟩, hdecides.isLeaving⟩
  | timeOut retries body a waited c c' hc hdecides =>
    exact ⟨hdecides.trans .refl, .inl ⟨rfl, rfl⟩, hdecides.isLeaving⟩
  | cancelWork retries body held =>
    exact ⟨(Caller.Decides.release held []).trans .refl, .inr (.inr ⟨rfl, rfl⟩),
      fun _ => .leaving held⟩

end Phase

namespace Traffic

/-- Whether the call at this place has asked for the tables. -/
def wants (calls : List Activity) (place : Nat) : Bool :=
  calls[place]?.any fun call => call.phase.wantsTables

theorem wants_of_getElem? {calls : List Activity} {place : Nat} {call : Activity}
    (h : calls[place]? = some call) : wants calls place = call.phase.wantsTables := by
  simp [wants, h]

theorem wants_set {calls : List Activity} {place : Nat} {call : Activity}
    (h : calls[place]? = some call) (call' : Activity) (other : Nat) :
    wants (calls.set place call') other =
      if place = other then call'.phase.wantsTables else wants calls other := by
  have hplace := (List.getElem?_eq_some_iff.1 h).1
  rw [wants, List.getElem?_set]
  by_cases hother : place = other
  · rw [if_pos hother, if_pos hother, if_pos hplace]
    rfl
  · rw [if_neg hother, if_neg hother, wants]

/-- The lock of the tables has the places of the calls that have asked for them. -/
structure InQueue (l : Lock) (calls : List Activity) : Prop where
  served : l.Served
  nodup : l.tickets.Nodup
  mem_iff : ∀ place, place ∈ l.tickets ↔ wants calls place = true

theorem InQueue.moves {s s' : Shared} {calls : List Activity} (h : InQueue s.tablesLock calls)
    {place : Nat} {request : Request} {x y : Phase request.Answer × Caller}
    (hcall : calls[place]? = some ⟨request, x.1, x.2⟩) (hmoves : Phase.Moves place s x y s') :
    InQueue s'.tablesLock (calls.set place ⟨request, y.1, y.2⟩) := by
  have hwants := wants_of_getElem? hcall
  have hset := wants_set hcall ⟨request, y.1, y.2⟩
  rcases hmoves.tables with ⟨hlock, hsame⟩ | ⟨hlock, hbefore, hafter⟩ | ⟨hlock, hafter⟩
  · rw [hlock]
    refine ⟨h.served, h.nodup, fun other => ?_⟩
    rw [h.mem_iff, hset]
    split
    · rename_i hother
      rw [← hother, hwants, hsame]
    · rfl
  · have hnew : place ∉ s.tablesLock.tickets := by
      rw [h.mem_iff, hwants, hbefore]
      simp
    rw [hlock]
    refine ⟨Lock.served_request _ _, ?_, fun other => ?_⟩
    · rw [Lock.tickets_request h.served]
      exact List.nodup_append.2 ⟨h.nodup, List.nodup_singleton _, by
        intro one hone two htwo hsame
        rw [List.mem_singleton] at htwo
        rw [hsame, htwo] at hone
        exact hnew hone⟩
    · rw [Lock.tickets_request h.served, hset, List.mem_append, List.mem_singleton, h.mem_iff]
      split
      · rename_i hother
        simp [hother, hafter]
      · rename_i hother
        simp [Ne.symm hother]
  · rw [hlock]
    refine ⟨h.served.leave _, ?_, fun other => ?_⟩
    · rw [Lock.tickets_leave h.nodup]
      exact h.nodup.filter _
    · rw [Lock.tickets_leave h.nodup, hset, List.mem_filter, h.mem_iff, decide_eq_true_eq]
      split
      · rename_i hother
        simp [hother, hafter]
      · rename_i hother
        simp [Ne.symm hother]

/-- What holds in every reachable state. -/
structure Sound (t : Traffic) : Prop where
  crowd : t.crowd.Sound
  queued : InQueue t.shared.tablesLock t.calls
  fits : ∀ call ∈ t.calls, call.phase.Fits call.caller

variable {settings : Settings} {t t' : Traffic}

theorem getElem?_crowd {place : Nat} {call : Activity} (h : t.calls[place]? = some call) :
    t.crowd.callers[place]? = some call.caller := by
  simp [crowd, h]

theorem Sound.moves (h : t.Sound) {place : Nat} {request : Request}
    {x y : Phase request.Answer × Caller} {s : Shared}
    (hcall : t.calls[place]? = some ⟨request, x.1, x.2⟩)
    (hmoves : Phase.Moves place t.shared x y s) :
    Sound ⟨s, t.calls.set place ⟨request, y.1, y.2⟩⟩ where
  crowd := by
    have hsound := h.crowd.steps (Crowd.steps_of_caller (getElem?_crowd hcall) hmoves.caller)
    rw [Traffic.crowd, List.map_set]
    exact hsound
  queued := h.queued.moves hcall hmoves
  fits := by
    intro call hmem
    rcases List.mem_or_eq_of_mem_set hmem with hmem | rfl
    · exact h.fits call hmem
    · exact hmoves.fits (h.fits _ (List.mem_of_getElem? hcall))

theorem Sound.arrive (h : t.Sound) (request : Request) (op : Operation request.Answer) :
    Sound ⟨t.shared, t.calls ++ [⟨request, .called op, .idle⟩]⟩ where
  crowd := by
    have hsound := h.crowd.step (.arrive t.crowd)
    rw [Traffic.crowd, List.map_append]
    exact hsound
  queued := by
    refine ⟨h.queued.served, h.queued.nodup, fun place => ?_⟩
    rw [h.queued.mem_iff, wants, wants]
    by_cases hplace : place < t.calls.length
    · rw [List.getElem?_append_left hplace]
    · rw [List.getElem?_append_right (Nat.le_of_not_lt hplace),
        List.getElem?_eq_none (Nat.le_of_not_lt hplace)]
      cases place - t.calls.length <;> simp [Phase.wantsTables]
  fits := by
    intro call hmem
    rcases List.mem_append.1 hmem with hmem | hmem
    · exact h.fits call hmem
    · rw [List.mem_singleton] at hmem
      subst hmem
      exact rfl

theorem Sound.step (h : t.Sound) (hstep : Step settings t t') : t'.Sound := by
  cases hstep with
  | arrive request => exact h.arrive request _
  | goOn place t' hgoes =>
    obtain ⟨request, p, p', c, c', s, hcall, hgoes⟩ := hgoes
    exact h.moves (x := (p, c)) hcall hgoes.moves
  | giveUp place request p p' c c' s hcall hgives => exact h.moves (x := (p, c)) hcall hgives.moves
  | setFaults rejectsNotifications commitConflicts => exact ⟨h.crowd, h.queued, h.fits⟩
  | rerank rank => exact ⟨h.crowd, h.queued, h.fits⟩

theorem sound_of_reachable (h : t.Reachable settings) : t.Sound := by
  induction h with
  | refl =>
    refine ⟨⟨Registry.agrees_empty, by simp [empty, crowd]⟩, ⟨Lock.served_free, ?_, ?_⟩, ?_⟩
    · exact List.nodup_nil
    · simp [empty, Lock.tickets, Lock.free, wants]
    · simp [empty]
  | tail _ hstep ih => exact ih.step hstep

end Traffic

end Courtship
