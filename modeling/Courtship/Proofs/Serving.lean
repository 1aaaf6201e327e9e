import Courtship.Proofs.World
import Mathlib.Data.List.InsertIdx

/-! Whatever a service does with a memory that starts empty is a run: a command that it carries out,
at once or after a wait for locks, is the call and the attempts of a task. What holds in every run
therefore holds of every service. -/

namespace Courtship

/-- A command of the service that waits for its locks. -/
structure Queued where
  command : Command
  pending : Pending command.Answer

/-- A service, and how the commands that it was given came out. -/
structure Serving where
  service : Service Memory
  queue : List Queued
  /-- Newest first. -/
  outcomes : List World.Outcome

namespace Serving

inductive Act where
  | command (command : Command)
  /-- Begins a command, which is queued if it has to wait. -/
  | start (command : Command)
  | resume (place : Nat)
  | cancel (place : Nat)
  | ask (question : Question)
  | setFaults (rejectsNotifications : Bool) (commitConflicts : Nat)
  /-- Swipes of one time come to be ranked in another way. -/
  | rerank (rank : Arrow → Nat)
  /-- The clock is set, time passes, or locks are taken or given back by somebody else. -/
  | adjust (clock : Instant) (registry : Registry) (elapsed : Nat)

def start (s : Serving) (c : Command) : Serving :=
  match s.service.start (c.operation s.service.settings) with
  | (.answered result, service) =>
    ⟨service, s.queue, .of c s.service.readings result :: s.outcomes⟩
  | (.waiting p, service) => ⟨service, s.queue ++ [⟨c, p⟩], s.outcomes⟩

def resume (s : Serving) (place : Nat) (q : Queued) : Serving :=
  match s.service.resume q.pending with
  | (.answered result, service) =>
    ⟨service, s.queue.eraseIdx place, .of q.command s.service.readings result :: s.outcomes⟩
  | (.waiting p, service) => ⟨service, s.queue.set place ⟨q.command, p⟩, s.outcomes⟩

def step (s : Serving) : Act → Serving
  | .command c =>
    let (result, service) := s.service.command c
    ⟨service, s.queue, .of c s.service.readings result :: s.outcomes⟩
  | .start c => s.start c
  | .resume place => (s.queue[place]?.map (s.resume place)).getD s
  | .cancel place =>
    match s.queue[place]? with
    | some q =>
      { s with
        service := s.service.cancel q.pending.acquisition
        queue := s.queue.eraseIdx place }
    | none => s
  | .ask q => { s with service := (s.service.ask q).2 }
  | .setFaults rejectsNotifications commitConflicts =>
    { s with service.store.rejectsNotifications := rejectsNotifications
             service.store.commitConflicts := commitConflicts }
  | .rerank rank => { s with service.store.rank := rank }
  | .adjust clock registry elapsed =>
    { s with service.clock := clock
             service.registry := registry
             service.elapsed := elapsed }

/-- The service after these acts, from an empty memory. -/
def run (settings : Settings) (clock : Instant) (acts : List Act) : Serving :=
  acts.foldl step ⟨.new settings .empty clock, [], []⟩

end Serving

/-! ## Tasks in a queue -/

/-- The task that is left of a queued command. -/
def Queued.task? (q : Queued) : Option World.Task :=
  match q.pending.plan with
  | .answer _ => none
  | .locked a b retries body => some ⟨q.command, a, b, retries, body⟩

namespace World.Task

def plan (task : Task) : Plan task.command.Answer :=
  .locked task.firstUser task.secondUser task.retries task.body

def queued (task : Task) (a : Acquisition) : Queued := ⟨task.command, ⟨task.plan, a⟩⟩

@[simp] theorem task?_queued (task : Task) (a : Acquisition) :
    (task.queued a).task? = some task := rfl

theorem eq_queued {q : Queued} {task : Task} (h : q.task? = some task) :
    q = task.queued q.pending.acquisition := by
  obtain ⟨c, plan, a⟩ := q
  cases plan with
  | answer result => cases h
  | locked a b retries body =>
    cases h
    rfl

end World.Task

/-! ## What the service does with a plan -/

namespace Service

variable {s s' : Service Memory} {task : World.Task} {α : Type}

theorem settings_proceed (s : Service Memory) (plan : Plan α)
    (p : Acquisition.Progress × Registry) : (s.proceed plan p).2.settings = s.settings := by
  rcases p with ⟨leases | a | user, r⟩ <;> rfl

/-- A command that goes on waiting has done nothing. -/
theorem proceed_waiting {plan : Plan α} {p : Acquisition.Progress × Registry} {q : Pending α}
    (h : s.proceed plan p = (.waiting q, s')) :
    q = ⟨plan, q.acquisition⟩ ∧ s'.store = s.store := by
  rcases p with ⟨leases | a | user, r⟩ <;> cases h
  exact ⟨rfl, rfl⟩

/-- A command that is answered, with the locks or for want of one, has taken steps of its task. -/
theorem exists_steps_proceed {tasks : List World.Task} {place : Nat}
    (htask : tasks[place]? = some task) {p : Acquisition.Progress × Registry}
    {result : Except (Failure EngineError) task.command.Answer}
    (h : s.proceed task.plan p = (.answered result, s')) (outcomes : List World.Outcome) :
    ∃ events : List World.Event,
      events.foldl (World.step s.settings) ⟨s.store, tasks, outcomes⟩ =
        ⟨s'.store, tasks.eraseIdx place, .of task.command s.readings result :: outcomes⟩ := by
  rcases p with ⟨leases | a | user, r⟩
  · cases h
    obtain ⟨events, tries, hsteps⟩ :=
      World.exists_steps_attempts s.settings htask s.readings s.store outcomes
    have hstill : Readings.later^[tries] s.readings = s.readings := Function.iterate_fixed rfl tries
    rw [hstill] at hsteps
    exact ⟨events, hsteps⟩
  · cases h
  · cases h
    refine ⟨[.timeOut place user], ?_⟩
    simp only [List.foldl_cons, List.foldl_nil, World.step, htask]
    rfl

/-- A question is answered at once, and from the memory as it is. -/
theorem ask_eq (s : Service Memory) (q : Question) :
    (s.ask q).2 = { s with store := (q.work.look s.store).2 } := by
  simp only [ask, run, start, Question.operation, Operation.plan]
  rw [Work.look_eq, Work.look_eq, Work.perform_bind]
  rcases q.work.perform s.store with ⟨why | a, m⟩ <;> rfl

end Service

/-! ## Runs -/

namespace Serving

variable {settings : Settings} {s : Serving} {tasks : List World.Task}

/-- The world with the memory and the outcomes of the service. -/
def world (s : Serving) (tasks : List World.Task) : World := ⟨s.service.store, tasks, s.outcomes⟩

/-- The tasks are those in the queue, place by place. -/
structure Matches (settings : Settings) (s : Serving) (tasks : List World.Task) : Prop where
  settings : s.service.settings = settings
  queue : s.queue.map Queued.task? = tasks.map some

theorem Matches.task (h : s.Matches settings tasks) {place : Nat} {q : Queued}
    (hq : s.queue[place]? = some q) :
    ∃ (task : World.Task) (a : Acquisition), q = task.queued a ∧ tasks[place]? = some task := by
  have hplace := congrArg (·[place]?) h.queue
  simp only [List.getElem?_map, hq, Option.map_some] at hplace
  obtain ⟨task, htask, hsome⟩ := Option.map_eq_some_iff.1 hplace.symm
  exact ⟨task, _, World.Task.eq_queued hsome.symm, htask⟩

theorem Matches.eraseIdx (h : s.Matches settings tasks) (place : Nat) :
    (s.queue.eraseIdx place).map Queued.task? = (tasks.eraseIdx place).map some := by
  rw [← List.eraseIdx_map, h.queue, List.eraseIdx_map]

/-- Some events lead from the world of `s` to that of `s'`. -/
def Follows (settings : Settings) (s s' : Serving) (tasks : List World.Task) : Prop :=
  ∃ (events : List World.Event) (tasks' : List World.Task),
    events.foldl (World.step settings) (s.world tasks) = s'.world tasks' ∧
      s'.Matches settings tasks'

theorem follows_start (h : s.Matches settings tasks) (c : Command) :
    Follows settings s (s.start c) tasks := by
  obtain ⟨rfl, hqueue⟩ := h
  rcases hplan : (c.operation s.service.settings).plan s.service.readings s.service.store with
    ⟨result | ⟨a, b, retries, body⟩, m⟩
  · refine ⟨[.call c s.service.readings], tasks, ?_, ?_, ?_⟩
    · simp [start, Service.start, World.step, World.called, world, hplan]
    · simp [start, Service.start, hplan]
    · simpa [start, Service.start, hplan] using hqueue
  · have hcall : (s.world tasks).step s.service.settings (.call c s.service.readings) =
        ⟨m, tasks ++ [⟨c, a, b, retries, body⟩], s.outcomes⟩ := by
      simp only [World.step, World.called, world, hplan]
    rcases hstart : s.service.start (c.operation s.service.settings) with ⟨result | q, s'⟩
    all_goals
      have hproceed := hstart
      simp only [Service.start, hplan] at hproceed
      have hsettings := congrArg (fun r => r.2.settings) hproceed
      rw [Service.settings_proceed] at hsettings
    · have hlast : (tasks ++ [⟨c, a, b, retries, body⟩])[tasks.length]? =
          some (⟨c, a, b, retries, body⟩ : World.Task) := by simp
      obtain ⟨events, hsteps⟩ := Service.exists_steps_proceed hlast hproceed s.outcomes
      refine ⟨.call c s.service.readings :: events, tasks, ?_, ?_, ?_⟩
      · rw [List.foldl_cons, hcall, hsteps, start, hstart]
        simp [world, List.eraseIdx_append_of_length_le]
        rfl
      · rw [start, hstart]
        exact hsettings.symm
      · rw [start, hstart]
        exact hqueue
    · obtain ⟨hq, hstore⟩ := Service.proceed_waiting hproceed
      refine ⟨[.call c s.service.readings], tasks ++ [⟨c, a, b, retries, body⟩], ?_, ?_, ?_⟩
      · rw [List.foldl_cons, List.foldl_nil, hcall, start, hstart]
        simp [world, hstore]
      · rw [start, hstart]
        exact hsettings.symm
      · rw [start, hstart, hq]
        simp [hqueue, Queued.task?]

theorem follows_resume (h : s.Matches settings tasks) {place : Nat} {q : Queued}
    (hq : s.queue[place]? = some q) : Follows settings s (s.resume place q) tasks := by
  obtain ⟨task, a, rfl, htask⟩ := h.task hq
  have herased := h.eraseIdx place
  obtain ⟨rfl, hqueue⟩ := h
  have hsettings :=
    s.service.settings_proceed task.plan (a.poll s.service.registry s.service.elapsed)
  rcases hresume : s.service.resume (task.queued a).pending with ⟨result | q, s'⟩
  all_goals
    have hproceed : s.service.proceed task.plan (a.poll s.service.registry s.service.elapsed) = _ :=
      hresume
    rw [hproceed] at hsettings
  · obtain ⟨events, hsteps⟩ := Service.exists_steps_proceed htask hproceed s.outcomes
    refine ⟨events, tasks.eraseIdx place, ?_, ?_, ?_⟩
    · rw [world, hsteps, resume, hresume]
      rfl
    · rw [resume, hresume]
      exact hsettings
    · rw [resume, hresume]
      exact herased
  · obtain ⟨hstill, hstore⟩ := Service.proceed_waiting hproceed
    refine ⟨[], tasks, ?_, ?_, ?_⟩
    · rw [resume, hresume]
      simp [world, hstore]
    · rw [resume, hresume]
      exact hsettings
    · have hsame : (s.queue.map Queued.task?)[place]? = some (some task) := by simp [hq]
      obtain ⟨_, hget⟩ := List.getElem?_eq_some_iff.1 hsame
      have htask? : (task.queued q.acquisition).task? = (s.queue.map Queued.task?)[place] :=
        hget.symm
      rw [resume, hresume, hstill, ← hqueue]
      change (s.queue.set place (task.queued q.acquisition)).map Queued.task? = _
      rw [List.map_set, htask?, List.set_getElem_self]

/-- A command that waits in vain is given up, and its locks are not waited for any longer. -/
theorem follows_command (h : s.Matches settings tasks) (c : Command) :
    Follows settings s (s.step (.command c)) tasks := by
  have hbegun := follows_start h c
  rcases hstart : s.service.start (c.operation s.service.settings) with ⟨result | p, s'⟩
  · have hsame : s.step (.command c) = s.start c := by
      simp only [step, start, Service.command, Service.run, hstart]
    rw [hsame]
    exact hbegun
  · rw [start, hstart] at hbegun
    obtain ⟨events, tasks', hsteps, hmatches⟩ := hbegun
    have hlast : (s.queue ++ [⟨c, p⟩])[s.queue.length]? = some ⟨c, p⟩ := by simp
    obtain ⟨task, a, hqueued, htask⟩ := hmatches.task hlast
    have herased := hmatches.eraseIdx s.queue.length
    cases hqueued
    obtain ⟨rfl, _⟩ := hmatches
    refine ⟨events ++ [.timeOut s.queue.length a.waiting.user], tasks'.eraseIdx s.queue.length,
      ?_, ?_, ?_⟩
    · rw [List.foldl_append, hsteps]
      simp only [List.foldl_cons, List.foldl_nil, World.step, world, htask, step, Service.command,
        Service.run, hstart]
      rfl
    · simp only [step, Service.command, Service.run, hstart]
      rfl
    · simp only [step, Service.command, Service.run, hstart]
      rw [← herased]
      simp [List.eraseIdx_append_of_length_le]

theorem follows_step (h : s.Matches settings tasks) (act : Act) :
    Follows settings s (s.step act) tasks := by
  cases act with
  | command c => exact follows_command h c
  | start c => exact follows_start h c
  | resume place =>
    cases hq : s.queue[place]? with
    | none => exact ⟨[], tasks, by simp [step, hq], by simpa [step, hq] using h⟩
    | some q =>
      have := follows_resume h hq
      simpa [step, hq] using this
  | cancel place =>
    simp only [step]
    split
    · exact ⟨[.cancel place], tasks.eraseIdx place, rfl, h.settings, h.eraseIdx place⟩
    · exact ⟨[], tasks, rfl, h⟩
  | ask q =>
    refine ⟨[.ask q], tasks, ?_, ?_, h.queue⟩
    · simp only [List.foldl_cons, List.foldl_nil, World.step, world, step, Service.ask_eq]
    · simp only [step, Service.ask_eq]
      exact h.settings
  | setFaults rejectsNotifications commitConflicts =>
    exact ⟨[.setFaults rejectsNotifications commitConflicts], tasks, rfl, h.settings, h.queue⟩
  | rerank rank => exact ⟨[.rerank rank], tasks, rfl, h.settings, h.queue⟩
  | adjust clock registry elapsed => exact ⟨[], tasks, rfl, h.settings, h.queue⟩

/-- **What the service does is a run.** Its memory, and how its commands came out, are those of a
run with the tasks that are left of the queue. -/
theorem exists_run (settings : Settings) (clock : Instant) (acts : List Act) :
    ∃ (events : List World.Event) (tasks : List World.Task),
      World.run settings events = (run settings clock acts).world tasks ∧
        (run settings clock acts).Matches settings tasks := by
  induction acts using List.reverseRecOn with
  | nil => exact ⟨[], [], rfl, rfl, rfl⟩
  | append_singleton acts act ih =>
    obtain ⟨events, tasks, hrun, hmatches⟩ := ih
    obtain ⟨more, tasks', hsteps, hmatches'⟩ := follows_step hmatches act
    refine ⟨events ++ more, tasks', ?_, ?_⟩
    · rw [World.run_append, hrun, hsteps, run, run, List.foldl_append]
      rfl
    · rw [run, List.foldl_append]
      exact hmatches'

end Serving

end Courtship
