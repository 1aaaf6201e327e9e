import Courtship.Proofs.Effect.Command
import Courtship.Proofs.Rollback
import Mathlib.Data.List.Induction
import Mathlib.Logic.Function.Iterate

/-! Runs of commands on a memory that starts empty. Commands are planned when they are called and
carried out later, attempt by attempt and in any order; in between come faults, questions, and locks
that are waited for in vain. What locks rule out is not left out: a run here may be any
interleaving. -/

namespace Courtship

namespace World

/-- A command that waits for the locks of its users, or between two of its attempts. -/
structure Task where
  command : Command
  firstUser : UserId
  secondUser : UserId
  retries : Nat
  body : Readings → Work (Ending command.Answer)

/-- How a command came out, with the readings of the clock in its last attempt. -/
inductive Outcome where
  | done (command : Command) (readings : Readings) (answer : command.Answer)
  | failed (command : Command) (why : Failure EngineError)

def Outcome.of (command : Command) (readings : Readings) :
    Except (Failure EngineError) command.Answer → Outcome
  | .ok answer => done command readings answer
  | .error why => failed command why

inductive Event where
  /-- The look that a command takes before it has its locks. -/
  | call (command : Command) (readings : Readings)
  /-- One unit of the command at this place among those under way. -/
  | attempt (place : Nat) (readings : Readings)
  /-- The command at this place does not get the lock of a user. -/
  | timeOut (place : Nat) (user : UserId)
  /-- The command at this place is given up. -/
  | cancel (place : Nat)
  | ask (question : Question)
  | setFaults (rejectsNotifications : Bool) (commitConflicts : Nat)
  /-- Swipes of one time come to be ranked in another way. -/
  | rerank (rank : Arrow → Nat)

end World

structure World where
  memory : Memory
  tasks : List World.Task
  /-- Newest first. -/
  outcomes : List World.Outcome

namespace World

def empty : World := ⟨.empty, [], []⟩

/-- After a conflict the task stays, with one retry less; with any other result it is over. -/
def attempted (w : World) (place : Nat) (task : Task) (readings : Readings) : World :=
  match (task.body readings).inUnit w.memory, task.retries with
  | (.error (.error (.storageConflict _)), memory), retries + 1 =>
    { w with memory := memory, tasks := w.tasks.set place { task with retries := retries } }
  | (result, memory), _ =>
    ⟨memory, w.tasks.eraseIdx place, .of task.command readings result :: w.outcomes⟩

def called (settings : Settings) (w : World) (command : Command) (readings : Readings) : World :=
  match (command.operation settings).plan readings w.memory with
  | (.answer result, memory) =>
    { w with memory := memory, outcomes := .of command readings result :: w.outcomes }
  | (.locked a b retries body, memory) =>
    { w with memory := memory, tasks := w.tasks ++ [⟨command, a, b, retries, body⟩] }

def step (settings : Settings) (w : World) : Event → World
  | .call command readings => w.called settings command readings
  | .attempt place readings =>
    match w.tasks[place]? with
    | some task => w.attempted place task readings
    | none => w
  | .timeOut place user =>
    match w.tasks[place]? with
    | some task =>
      { w with
        tasks := w.tasks.eraseIdx place
        outcomes := .failed task.command (.error (.ofLockTimeout
          ⟨user, settings.matching.lockTimeoutMs.toNat * 1000000⟩)) :: w.outcomes }
    | none => w
  | .cancel place => { w with tasks := w.tasks.eraseIdx place }
  | .ask question =>
    { w with memory := (question.work.look w.memory).2 }
  | .setFaults rejectsNotifications commitConflicts =>
    { w with memory := { w.memory with
        rejectsNotifications := rejectsNotifications
        commitConflicts := commitConflicts } }
  | .rerank rank => { w with memory := { w.memory with rank := rank } }

/-- The world after these events, from nothing. -/
def run (settings : Settings) (events : List Event) : World := events.foldl (step settings) empty

/-! ## Steps -/

variable {settings : Settings}

theorem run_append (before after : List Event) :
    run settings (before ++ after) = after.foldl (step settings) (run settings before) :=
  List.foldl_append

theorem run_concat (events : List Event) (e : Event) :
    run settings (events ++ [e]) = (run settings events).step settings e :=
  run_append events [e]

/-- The body of the task is that of the plan of its command. -/
def Planned (settings : Settings) (task : Task) : Prop :=
  ∃ (readings : Readings) (m : Memory) (retries : Nat),
    ((task.command.operation settings).plan readings m).1 =
      .locked task.firstUser task.secondUser retries task.body

/-- No command is answered with a success before it has its locks. -/
theorem plan_ne_answer_ok (settings : Settings) (c : Command) (readings : Readings) (m : Memory)
    (answer : c.Answer) :
    ((c.operation settings).plan readings m).1 ≠ .answer (.ok answer) := by
  intro h
  cases c with
  | swipe arrow direction =>
    simp only [Command.operation, Operation.swipe] at h
    split at h <;> cases h
  | undoLastSwipe user =>
    rw [Command.operation] at h
    obtain ⟨why, hwhy⟩ | ⟨l, -, hlocked⟩ := Operation.plan_undoLastSwipe_cases
      (Operation.requireInWindow settings.matching) user readings m
    · cases h.symm.trans hwhy
    · cases h.symm.trans hlocked
  | propose arrow message =>
    simp only [Command.operation, Operation.propose] at h
    split at h <;> cases h
  | respond id responder accept =>
    rw [Command.operation, Operation.plan_respond] at h
    dsimp only at h
    split at h <;> cases h
  | gracefulExit arrow => cases h
  | unmatch arrow => cases h
  | block arrow =>
    simp only [Command.operation, Operation.block] at h
    split at h <;> cases h
  | unblock arrow =>
    simp only [Command.operation, Operation.unblock] at h
    split at h <;> cases h

/-- What holds in every world that a run comes to. -/
structure Sound (settings : Settings) (w : World) : Prop where
  keyed : w.memory.tables.Keyed
  planned : ∀ task ∈ w.tasks, Planned settings task

/-- Everything that a step can do: keep the tables and record no success, or have one of the
effects of a command and record that. -/
inductive StepResult (settings : Settings) (w w' : World) : Prop where
  | kept (htables : w'.memory.tables = w.memory.tables) (houtcomes : w'.outcomes = w.outcomes)
  | failed (c : Command) (why : Failure EngineError)
      (htables : w'.memory.tables = w.memory.tables)
      (houtcomes : w'.outcomes = .failed c why :: w.outcomes)
  | done (c : Command) (readings : Readings) (answer : c.Answer)
      (heffect : Effect settings readings w.memory.tables c answer w'.memory.tables)
      (houtcomes : w'.outcomes = .done c readings answer :: w.outcomes)

theorem stepResult_called (w : World) (c : Command) (readings : Readings) :
    StepResult settings w (w.called settings c readings) := by
  have htables := (c.operation settings).tables_plan readings w.memory
  have hanswer := plan_ne_answer_ok settings c readings w.memory
  unfold called
  rcases hplan : (c.operation settings).plan readings w.memory with ⟨⟨why | answer⟩ | _, m⟩ <;>
    rw [hplan] at htables hanswer
  · exact .failed c why htables rfl
  · exact absurd rfl (hanswer answer)
  · exact .kept htables rfl

theorem stepResult_attempted {w : World} (hw : w.Sound settings) {place : Nat} {task : Task}
    (htask : w.tasks[place]? = some task) (readings : Readings) :
    StepResult settings w (w.attempted place task readings) := by
  obtain ⟨first, m₀, retries, hplan⟩ := hw.planned task (List.mem_of_getElem? htask)
  unfold attempted
  rcases hunit : (task.body readings).inUnit w.memory with ⟨why | answer, m⟩
  · have htables := Work.tables_inUnit_error hunit
    split
    · rename_i heq _
      cases heq
      exact .kept htables rfl
    · rename_i heq _
      cases heq
      exact .failed task.command why htables rfl
  · exact .done task.command readings answer (effect_of_inUnit hplan hw.keyed hunit) rfl

theorem stepResult {w : World} (hw : w.Sound settings) (e : Event) :
    StepResult settings w (w.step settings e) := by
  cases e with
  | call c readings => exact stepResult_called w c readings
  | attempt place readings =>
    simp only [step]
    split
    · rename_i task htask
      exact stepResult_attempted hw htask readings
    · exact .kept rfl rfl
  | timeOut place user =>
    simp only [step]
    split
    · exact .failed _ _ rfl rfl
    · exact .kept rfl rfl
  | cancel place => exact .kept rfl rfl
  | ask question =>
    refine .kept ?_ rfl
    rw [step, Work.look_eq]
  | setFaults rejectsNotifications commitConflicts => exact .kept rfl rfl
  | rerank rank => exact .kept rfl rfl

/-! ## Runs -/

theorem planned_called {w : World} (hw : ∀ task ∈ w.tasks, Planned settings task) (c : Command)
    (readings : Readings) : ∀ task ∈ (w.called settings c readings).tasks,
      Planned settings task := by
  unfold called
  split
  · exact hw
  · rename_i a b retries body m hplan
    intro task htask
    rcases List.mem_append.1 htask with htask | htask
    · exact hw task htask
    · rw [List.mem_singleton] at htask
      subst htask
      exact ⟨readings, w.memory, retries, by rw [hplan]⟩

theorem planned_attempted {w : World} (hw : ∀ task ∈ w.tasks, Planned settings task)
    {place : Nat} {task : Task} (htask : w.tasks[place]? = some task) (readings : Readings) :
    ∀ other ∈ (w.attempted place task readings).tasks, Planned settings other := by
  unfold attempted
  split
  · intro other hother
    rcases List.mem_or_eq_of_mem_set hother with hother | rfl
    · exact hw other hother
    · obtain ⟨first, m₀, retries, hplan⟩ := hw task (List.mem_of_getElem? htask)
      exact ⟨first, m₀, retries, hplan⟩
  · intro other hother
    exact hw other (List.mem_of_mem_eraseIdx hother)

theorem planned_step {w : World} (hw : ∀ task ∈ w.tasks, Planned settings task) (e : Event) :
    ∀ task ∈ (w.step settings e).tasks, Planned settings task := by
  cases e with
  | call c readings => exact planned_called hw c readings
  | attempt place readings =>
    simp only [step]
    split
    · rename_i task htask
      exact planned_attempted hw htask readings
    · exact hw
  | timeOut place user =>
    simp only [step]
    split
    · intro task htask
      exact hw task (List.mem_of_mem_eraseIdx htask)
    · exact hw
  | cancel place =>
    intro task htask
    exact hw task (List.mem_of_mem_eraseIdx htask)
  | ask question => exact hw
  | setFaults rejectsNotifications commitConflicts => exact hw
  | rerank rank => exact hw

theorem Sound.step {w : World} (hw : w.Sound settings) (e : Event) :
    (w.step settings e).Sound settings where
  keyed := by
    cases stepResult hw e with
    | kept htables => rw [htables]; exact hw.keyed
    | failed c why htables => rw [htables]; exact hw.keyed
    | done c readings answer heffect => exact heffect.keyed hw.keyed
  planned := planned_step hw.planned e

theorem sound_run (events : List Event) : (run settings events).Sound settings := by
  induction events using List.reverseRecOn with
  | nil => exact ⟨Tables.keyed_empty, by simp [run, empty]⟩
  | append_singleton events e ih =>
    rw [run_concat]
    exact ih.step e

/-- What holds after the events `before`, and is kept whenever a command fails or has one of its
effects, holds after any further events too. -/
theorem run_append_induction {P : Tables → List Outcome → Prop} (before : List Event)
    (hstart : P (run settings before).memory.tables (run settings before).outcomes)
    (hfailed : ∀ t outcomes c why, P t outcomes → P t (.failed c why :: outcomes))
    (hdone : ∀ events t' c readings answer,
      P (run settings events).memory.tables (run settings events).outcomes →
      Effect settings readings (run settings events).memory.tables c answer t' →
      P t' (.done c readings answer :: (run settings events).outcomes))
    (after : List Event) :
    P (run settings (before ++ after)).memory.tables (run settings (before ++ after)).outcomes := by
  induction after using List.reverseRecOn with
  | nil => rw [List.append_nil]; exact hstart
  | append_singleton after e ih =>
    rw [← List.append_assoc, run_concat]
    cases stepResult (sound_run (before ++ after)) e with
    | kept htables houtcomes => rw [htables, houtcomes]; exact ih
    | failed c why htables houtcomes =>
      rw [htables, houtcomes]
      exact hfailed _ _ c why ih
    | done c readings answer heffect houtcomes =>
      rw [houtcomes]
      exact hdone _ _ c readings answer ih heffect

theorem run_induction {P : Tables → List Outcome → Prop} (hempty : P .empty [])
    (hfailed : ∀ t outcomes c why, P t outcomes → P t (.failed c why :: outcomes))
    (hdone : ∀ events t' c readings answer,
      P (run settings events).memory.tables (run settings events).outcomes →
      Effect settings readings (run settings events).memory.tables c answer t' →
      P t' (.done c readings answer :: (run settings events).outcomes))
    (events : List Event) :
    P (run settings events).memory.tables (run settings events).outcomes :=
  run_append_induction [] hempty hfailed hdone events

/-- A success that a step records is an effect of that step. -/
theorem effect_of_outcome {events : List Event} {e : Event} {c : Command} {readings : Readings}
    {answer : c.Answer}
    (h : (run settings (events ++ [e])).outcomes =
      .done c readings answer :: (run settings events).outcomes) :
    Effect settings readings (run settings events).memory.tables c answer
      (run settings (events ++ [e])).memory.tables := by
  rw [run_concat] at h ⊢
  cases stepResult (sound_run events) e with
  | kept htables houtcomes =>
    rw [houtcomes] at h
    exact absurd h.symm (List.cons_ne_self _ _)
  | failed c why htables houtcomes =>
    rw [houtcomes] at h
    cases h
  | done c readings answer heffect houtcomes =>
    rw [houtcomes] at h
    cases h
    exact heffect

/-! ## One command after the other -/

/-- Each command is called and carried out before the next one, all at one time. -/
def inTurn (now : Instant) (commands : List Command) : List Event :=
  commands.flatMap fun c => [.call c fun _ => now, .attempt 0 fun _ => now]

/-! ## Attempts of a task -/

theorem step_attempt {w : World} {place : Nat} {task : Task} (h : w.tasks[place]? = some task)
    (readings : Readings) :
    w.step settings (.attempt place readings) = w.attempted place task readings := by
  simp only [step, h]

/-- The attempts of a command are steps of its task, and each has readings of its own. -/
theorem exists_steps_attempts (settings : Settings) {task : Task} {tasks : List Task} {place : Nat}
    (htask : tasks[place]? = some task) (readings : Readings) (m : Memory)
    (outcomes : List Outcome) :
    ∃ (events : List Event) (tries : Nat),
      events.foldl (step settings) ⟨m, tasks, outcomes⟩ =
        ⟨(Plan.attempts task.body task.retries readings m).2, tasks.eraseIdx place,
          .of task.command (Readings.later^[tries] readings)
            (Plan.attempts task.body task.retries readings m).1 :: outcomes⟩ := by
  obtain ⟨c, a, b, retries, body⟩ := task
  dsimp only
  induction retries generalizing readings m tasks with
  | zero =>
    refine ⟨[.attempt place readings], 0, ?_⟩
    rw [List.foldl_cons, List.foldl_nil, step_attempt htask]
    simp [attempted, Plan.attempts]
  | succ retries ih =>
    rcases hunit : (body readings).inUnit m with ⟨result, m'⟩
    by_cases hconflict : ∃ e, result = .error (.error (.storageConflict e))
    · obtain ⟨e, rfl⟩ := hconflict
      have hplace : place < tasks.length := (List.getElem?_eq_some_iff.1 htask).1
      have hnext : (tasks.set place ⟨c, a, b, retries, body⟩)[place]? =
          some ⟨c, a, b, retries, body⟩ := by
        rw [List.getElem?_set_self hplace]
      obtain ⟨events, tries, hrest⟩ := ih readings.later m' hnext
      refine ⟨.attempt place readings :: events, tries + 1, ?_⟩
      rw [List.foldl_cons, step_attempt htask]
      simp only [attempted, hunit, Plan.attempts, Function.iterate_succ_apply]
      rw [hrest, List.eraseIdx_set_eq]
    · have hlast : Plan.attempts body (retries + 1) readings m = (result, m') := by
        rw [Plan.attempts_of_no_conflict (by simpa [hunit] using hconflict), hunit]
      refine ⟨[.attempt place readings], 0, ?_⟩
      rw [List.foldl_cons, List.foldl_nil, step_attempt htask, hlast]
      simp only [attempted, hunit]
      split
      · rename_i e _ _ heq _
        cases heq
        exact absurd ⟨e, rfl⟩ hconflict
      · rename_i heq _
        cases heq
        rfl

/-- A command that is carried out as a whole is its call and the attempts of its task. -/
theorem exists_steps_run (settings : Settings) (w : World) (c : Command) (first second : Readings) :
    ∃ events : List Event, (events.foldl (step settings) w).memory =
      ((c.operation settings).run first second w.memory).2 := by
  rcases hplan : (c.operation settings).plan first w.memory with
    ⟨result | ⟨a, b, retries, body⟩, m⟩ <;> rw [Operation.run, hplan]
  · refine ⟨[.call c first], ?_⟩
    simp only [List.foldl_cons, List.foldl_nil, step, called, hplan, Plan.finish]
  · have hcall : w.step settings (.call c first) =
        ⟨m, w.tasks ++ [⟨c, a, b, retries, body⟩], w.outcomes⟩ := by
      simp only [step, called, hplan]
    have hlast : (w.tasks ++ [⟨c, a, b, retries, body⟩])[w.tasks.length]? =
        some (⟨c, a, b, retries, body⟩ : Task) := by simp
    obtain ⟨events, tries, hsteps⟩ := exists_steps_attempts settings hlast second m w.outcomes
    refine ⟨.call c first :: events, ?_⟩
    rw [List.foldl_cons, hcall, hsteps]
    rfl

end World

end Courtship
