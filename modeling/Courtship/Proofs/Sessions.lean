import Courtship.Proofs.Traffic

/-! What the service does with a call are steps of the call among all others: it plans, takes the
locks that are free, works and gives the locks back in one go, or stops where it has to wait. So
every state between two acts of a service is one that the calls come to. -/

namespace Courtship

theorem Lock.leave_request_free (ticket : Nat) :
    (Lock.free.request ticket).leave ticket = .free := by
  simp [Lock.request, Lock.leave, Lock.free]

/-- To look for free locks takes no time. -/
theorem Acquisition.advance_ne_timedOut (r : Registry) (deadline : Nat) (held : List Lease)
    (users : List UserId) (user : UserId) :
    (advance r deadline held users).1 ≠ .timedOut user := by
  induction users generalizing held r with
  | nil => simp [advance]
  | cons next rest ih =>
    rw [advance]
    dsimp only
    split
    · exact ih _ _
    · simp

/-! ## One call -/

/-- What the calls on a service share, while none of them works. -/
def Service.shared (s : Service Memory) : Shared := ⟨s.registry, .free, s.store⟩

namespace Phase

variable {α : Type} {place : Nat} {z : (Phase α × Caller) × Shared}

/-- Steps of the call at this place, with all others standing still. -/
abbrev Runs (place : Nat) : (Phase α × Caller) × Shared → (Phase α × Caller) × Shared → Prop :=
  Relation.ReflTransGen fun x y => Goes place x.2 x.1 y.1 y.2 ∨ GivesUp place x.2 x.1 y.1 y.2

theorem Goes.trans {s s' : Shared} {p p' : Phase α × Caller} (h : Goes place s p p' s')
    (hruns : Runs place (p', s') z) : Runs place (p, s) z :=
  .head (.inl h) hruns

theorem GivesUp.trans {s s' : Shared} {p p' : Phase α × Caller} (h : GivesUp place s p p' s')
    (hruns : Runs place (p', s') z) : Runs place (p, s) z :=
  .head (.inr h) hruns

/-- What its caller does a call does in its phase. -/
theorem runs_of_goes {phase : Phase α}
    (hphase : ∀ {c c' : Caller} {s : Shared} {r : Registry}, c.Advances s.registry c' r →
      Goes place s (phase, c) (phase, c') { s with registry := r })
    {c : Caller} {s : Shared} {last : Caller × Registry}
    (h : Caller.Goes (c, s.registry) last) :
    Runs place ((phase, c), s) ((phase, last.1), { s with registry := last.2 }) := by
  induction h with
  | refl => exact .refl
  | @tail before _ _ hadvances ih =>
    exact ih.tail (.inl (hphase (s := { s with registry := before.2 }) hadvances))

theorem runs_leaving (result : Option (Except (Failure EngineError) α)) (leases : List Lease)
    (s : Shared) :
    Runs place ((leaving result, .leaving leases), s)
      ((leaving result, .idle), { s with registry := s.registry.releaseAll leases }) :=
  runs_of_goes (.unlock result _ _ _) (Caller.goes_leaving leases s.registry)

/-- With the tables free, a call can plan at once. -/
theorem runs_planned (op : Operation α) (readings : Readings) (r : Registry) (m : Memory) :
    Runs place ((called op, .idle), ⟨r, .free, m⟩)
      (planned (op.plan readings m).1, ⟨r, .free, (op.plan readings m).2⟩) := by
  cases op with
  | plain plan => exact (Goes.plan plan).trans .refl
  | reading look =>
    refine (Goes.askToLook look).trans ((Goes.look look readings rfl).trans ?_)
    rw [Lock.leave_request_free]

theorem attempted_of_ne {body : Readings → Work (Ending α)} {held : List Lease} {retries : Nat}
    {result : Except (Failure EngineError) α}
    (h : ∀ e, result ≠ .error (.error (.storageConflict e))) :
    attempted body held retries result = (leaving (some result), .leaving held) := by
  unfold attempted
  split
  · rename_i e
    exact absurd rfl (h e)
  · rfl

/-- With the tables free, a call that has its locks makes its attempts one after the other. -/
theorem runs_attempts (body : Readings → Work (Ending α)) (held : List Lease) (retries : Nat)
    (readings : Readings) (r : Registry) (m : Memory) :
    Runs place ((locking retries body, .taking held []), ⟨r, .free, m⟩)
      ((leaving (some (Plan.attempts body retries readings m).1), .leaving held),
        ⟨r, .free, (Plan.attempts body retries readings m).2⟩) := by
  induction retries generalizing readings m with
  | zero =>
    refine (Goes.askToWork 0 body held).trans ((Goes.work 0 body held readings rfl).trans ?_)
    rw [Lock.leave_request_free]
    exact .refl
  | succ retries ih =>
    refine (Goes.askToWork (retries + 1) body held).trans
      ((Goes.work (retries + 1) body held readings rfl).trans ?_)
    rw [Lock.leave_request_free, Plan.attempts]
    dsimp only
    rcases (body readings).inUnit m with ⟨result, m'⟩
    split
    · rename_i heq
      cases heq
      exact ih readings.later m'
    · rename_i hlast
      have hne : ∀ e, result ≠ .error (.error (.storageConflict e)) := by
        rintro e rfl
        exact hlast e m' rfl
      rw [attempted_of_ne hne]

/-- Where an acquisition leaves a call. -/
def after (waited retries : Nat) (body : Readings → Work (Ending α)) :
    Acquisition.Progress → Phase α × Caller
  | .held leases => (locking retries body, .taking leases [])
  | .waiting a => (locking retries body, .waiting a)
  | .timedOut user => (leaving (some (.error (.error (.ofLockTimeout ⟨user, waited⟩)))), .idle)

theorem runs_acquire (waited retries : Nat) (body : Readings → Work (Ending α)) (deadline : Nat)
    (held : List Lease) (users : List UserId) (s : Shared) :
    Runs place ((locking retries body, .taking held users), s)
      (after waited retries body (Acquisition.advance s.registry deadline held users).1,
        { s with registry := (Acquisition.advance s.registry deadline held users).2 }) := by
  have hgoes := Caller.goes_acquire deadline held users s.registry
  have hruns : Runs place _ _ := runs_of_goes (.lock retries body _ _ _) hgoes
  have hin := Acquisition.advance_ne_timedOut s.registry deadline held users
  rcases hadvance : Acquisition.advance s.registry deadline held users with
    ⟨leases | a | user, r⟩ <;> rw [hadvance] at hruns hin
  · exact hruns
  · exact hruns
  · exact absurd rfl (hin user)

theorem runs_expire (waited retries : Nat) (body : Readings → Work (Ending α)) (now : Nat)
    (p : Acquisition.Progress × Registry) (s : Shared) :
    Runs place (after waited retries body p.1, { s with registry := p.2 })
      (after waited retries body (Acquisition.expire now p).1,
        { s with registry := (Acquisition.expire now p).2 }) := by
  rcases p with ⟨leases | a | user, r⟩
  · exact .refl
  · unfold Acquisition.expire
    dsimp only
    split
    · exact (GivesUp.timeOut retries body a waited _ _ (.inr rfl) (.giveUp a)).trans
        (runs_leaving _ _ _)
    · exact .refl
  · exact .refl

/-- Where the service leaves a call. -/
def ofStage : Stage α → Phase α × Caller
  | .answered result => (leaving (some result), .idle)
  | .waiting ⟨.locked _ _ retries body, a⟩ => (locking retries body, .waiting a)
  | .waiting ⟨.answer result, _⟩ => (leaving (some result), .idle)

variable {s : Service Memory}

theorem runs_proceed (s : Service Memory) (a b : UserId) (retries : Nat)
    (body : Readings → Work (Ending α)) (p : Acquisition.Progress × Registry) :
    Runs place (after (s.lockTimeout * 1000000) retries body p.1, ⟨p.2, .free, s.store⟩)
      (ofStage (s.proceed (.locked a b retries body) p).1,
        (s.proceed (.locked a b retries body) p).2.shared) := by
  rcases p with ⟨leases | a | user, r⟩
  · exact (runs_attempts body leases retries s.readings r s.store).trans (runs_leaving _ _ _)
  · exact .refl
  · exact .refl

/-- A call that the service starts. -/
theorem runs_start (s : Service Memory) (op : Operation α) :
    Runs place ((called op, .idle), s.shared) (ofStage (s.start op).1, (s.start op).2.shared) := by
  refine (runs_planned op s.readings s.registry s.store).trans ?_
  unfold Service.start
  rcases op.plan s.readings s.store with ⟨result | ⟨a, b, retries, body⟩, m⟩
  · exact .refl
  · refine (runs_acquire (s.lockTimeout * 1000000) retries body (s.elapsed + s.lockTimeout) []
      (Acquisition.inLockOrder a b) ⟨s.registry, .free, m⟩).trans ?_
    refine (runs_expire _ retries body s.elapsed _ ⟨s.registry, .free, m⟩).trans ?_
    exact runs_proceed { s with store := m } a b retries body _

/-- A call that the service takes up again. -/
theorem runs_resume (s : Service Memory) (a b : UserId) (retries : Nat)
    (body : Readings → Work (Ending α)) (acquisition : Acquisition) :
    Runs place ((locking retries body, .waiting acquisition), s.shared)
      (ofStage (s.resume ⟨.locked a b retries body, acquisition⟩).1,
        (s.resume ⟨.locked a b retries body, acquisition⟩).2.shared) := by
  unfold Service.resume Acquisition.poll
  dsimp only
  split
  · rename_i hheld
    refine (Goes.lock retries body _ _ _ (.granted acquisition hheld)).trans ?_
    refine (runs_acquire (s.lockTimeout * 1000000) retries body acquisition.deadline _ _
      s.shared).trans ?_
    refine (runs_expire _ retries body s.elapsed _ s.shared).trans ?_
    exact runs_proceed s a b retries body _
  · refine (runs_expire (s.lockTimeout * 1000000) retries body s.elapsed
      (.waiting acquisition, s.registry) s.shared).trans ?_
    exact runs_proceed s a b retries body _

/-- A call that the service cancels. -/
theorem runs_cancel (s : Service Memory) (retries : Nat) (body : Readings → Work (Ending α))
    (acquisition : Acquisition) :
    Runs place ((locking retries body, .waiting acquisition), s.shared)
      ((leaving none, .idle), (s.cancel acquisition).shared) :=
  (GivesUp.cancelLock retries body _ _ (.giveUp acquisition)).trans (runs_leaving _ _ _)

end Phase

/-! ## Among other calls -/

namespace Traffic

variable {settings : Settings} {t : Traffic}

/-- What a call does with all others standing still it does among them. -/
theorem reachable_of_runs (h : t.Reachable settings) {place : Nat} {request : Request}
    {x : Phase request.Answer × Caller} {y : (Phase request.Answer × Caller) × Shared}
    (hcall : t.calls[place]? = some ⟨request, x.1, x.2⟩)
    (hruns : Phase.Runs place (x, t.shared) y) :
    Reachable settings ⟨y.2, t.calls.set place ⟨request, y.1.1, y.1.2⟩⟩ := by
  obtain ⟨hplace, hget⟩ := List.getElem?_eq_some_iff.1 hcall
  induction hruns with
  | refl =>
    rw [← hget, List.set_getElem_self]
    exact h
  | @tail before y _ hstep ih =>
    have hbefore : (t.calls.set place ⟨request, before.1.1, before.1.2⟩)[place]? =
        some ⟨request, before.1.1, before.1.2⟩ := List.getElem?_set_self hplace
    have hset : (t.calls.set place ⟨request, before.1.1, before.1.2⟩).set place
        ⟨request, y.1.1, y.1.2⟩ = t.calls.set place ⟨request, y.1.1, y.1.2⟩ := List.set_set ..
    rw [← hset]
    rcases hstep with hgoes | hgives
    · exact ih.tail (.goOn place _ (.mk request _ _ _ _ _ hbefore hgoes))
    · exact ih.tail (.giveUp place request _ _ _ _ _ hbefore hgives)

/-- **The acts of a service are steps of its calls.** Where the calls have come to what a service
shares, with the tables free, they can come to what it shares once it has started another call, has
taken up one that waits, or has cancelled it. -/
theorem reachable_service {s : Service Memory} (h : t.Reachable s.settings)
    (hshared : t.shared = s.shared) :
    (∀ request : Request,
      let act := s.start (request.operation s.settings)
      Reachable s.settings ⟨act.2.shared,
        t.calls ++ [⟨request, (Phase.ofStage act.1).1, (Phase.ofStage act.1).2⟩]⟩) ∧
    (∀ (place : Nat) (request : Request) (a b : UserId) (retries : Nat)
      (body : Readings → Work (Ending request.Answer)) (acquisition : Acquisition),
      t.calls[place]? = some ⟨request, .locking retries body, .waiting acquisition⟩ →
      (let act := s.resume ⟨.locked a b retries body, acquisition⟩
      Reachable s.settings ⟨act.2.shared,
        t.calls.set place ⟨request, (Phase.ofStage act.1).1, (Phase.ofStage act.1).2⟩⟩) ∧
      Reachable s.settings ⟨(s.cancel acquisition).shared,
        t.calls.set place ⟨request, .leaving none, .idle⟩⟩) := by
  constructor
  · intro request
    have harrived : Reachable s.settings
        ⟨t.shared, t.calls ++ [⟨request, .called (request.operation s.settings), .idle⟩]⟩ :=
      h.tail (.arrive request)
    have hcall : (t.calls ++ [(⟨request, .called (request.operation s.settings), .idle⟩ :
        Activity)])[t.calls.length]? =
          some ⟨request, .called (request.operation s.settings), .idle⟩ := by simp
    have hruns : Phase.Runs t.calls.length _ _ := Phase.runs_start s (request.operation s.settings)
    rw [← hshared] at hruns
    have hreached := reachable_of_runs harrived (x := (.called _, .idle)) hcall hruns
    rw [List.set_append_right _ _ (Nat.le_refl _), Nat.sub_self] at hreached
    exact hreached
  · intro place request a b retries body acquisition hcall
    refine ⟨?_, ?_⟩
    · have hruns : Phase.Runs place _ _ := Phase.runs_resume s a b retries body acquisition
      rw [← hshared] at hruns
      exact reachable_of_runs h (x := (.locking retries body, .waiting acquisition)) hcall hruns
    · have hruns : Phase.Runs place _ _ := Phase.runs_cancel s retries body acquisition
      rw [← hshared] at hruns
      exact reachable_of_runs h (x := (.locking retries body, .waiting acquisition)) hcall hruns

end Traffic

end Courtship
