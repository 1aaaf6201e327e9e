import Courtship.Proofs.Sql.Alike
import Courtship.Proofs.Sql.Commands

/-! What becomes of an error of the database. The unit in which it is replied with ends, and is
tried again or decides the result. -/

namespace Courtship

variable {α : Type}

namespace Sql

/-- The server replied with an error of this state code to a statement of the unit. The rollback
that ends a dropped unit is none of them. -/
def Fails (log : List Entry) (code : Option String) : Prop :=
  ∃ e ∈ log, e.statement ≠ .rollback ∧ ∃ message, e.reply = .error code message

/-- Between the two scripts these units were run: looks, in which nothing failed, and then at most
`retries + 1` tries. Only errors of contention are in a try that is followed by another one, and the
errors in the last one have come to `decided`. -/
structure Settled (s : Script) (looks tries : List (List Entry)) (s' : Script) (retries : Nat)
    (decided : Option String → Prop) : Prop where
  logs : s.Logs (looks ++ tries).flatten s'
  courses : ∀ log ∈ looks ++ tries, Course log
  quiet : ∀ log ∈ looks, ∀ code, ¬Fails log code
  length_le : tries.length ≤ retries + 1
  retried : ∀ log ∈ tries.dropLast, ∀ code, Fails log code → contends code = true
  last : ∀ log ∈ tries.getLast?, ∀ code, Fails log code → decided code

/-- The result tells of an error of the database with this state code. -/
def TellsOf (result : Except (Failure EngineError) α) (code : Option String) : Prop :=
  ∃ message, result = .error (.error (.ofStorage (.sql (.database code message))))

theorem Reported.tellsOf {log : List Entry} {result : Except (Failure EngineError) α}
    (h : Reported EngineError.ofStorage log result) {code : Option String}
    (hcode : Fails log code) : TellsOf result code := by
  obtain ⟨e, he, hne, message, hreply⟩ := hcode
  exact ⟨message, h e he hne code message hreply⟩

theorem Reported.not_fails {log : List Entry} {a : α}
    (h : Reported EngineError.ofStorage log (.ok a)) (code : Option String) : ¬Fails log code := by
  rintro ⟨e, he, hne, message, hreply⟩
  cases h e he hne code message hreply

namespace Settled

variable {s s' s'' : Script} {looks tries : List (List Entry)} {retries : Nat}
  {decided : Option String → Prop}

theorem imp {decided' : Option String → Prop} (h : Settled s looks tries s' retries decided)
    (himp : ∀ code, decided code → decided' code) :
    Settled s looks tries s' retries decided' :=
  { h with last := fun log hlog code hcode => himp code (h.last log hlog code hcode) }

theorem mono {more : Nat} (h : Settled s looks tries s' retries decided) (hle : retries ≤ more) :
    Settled s looks tries s' more decided :=
  { h with length_le := Nat.le_trans h.length_le (Nat.succ_le_succ hle) }

theorem nil (s : Script) (retries : Nat) (decided : Option String → Prop) :
    Settled s [] [] s retries decided :=
  ⟨.refl s, by simp, by simp, by simp, by simp, by simp⟩

theorem singleton {log : List Entry} (hcourse : Course log) (hlog : s.Logs log s')
    (retries : Nat) (hlast : ∀ code, Fails log code → decided code) :
    Settled s [] [log] s' retries decided where
  logs := by simpa using hlog
  courses := by simpa using hcourse
  quiet := by simp
  length_le := by simp
  retried := by simp
  last := by simpa using hlast

/-- A try before others. -/
theorem retry {log : List Entry} (hcourse : Course log) (hlog : s.Logs log s')
    (hretried : ∀ code, Fails log code → contends code = true)
    (h : Settled s' [] tries s'' retries decided) (hne : tries ≠ []) :
    Settled s [] (log :: tries) s'' (retries + 1) decided where
  logs := hlog.trans h.logs
  courses := List.forall_mem_cons.2 ⟨hcourse, h.courses⟩
  quiet := h.quiet
  length_le := Nat.succ_le_succ h.length_le
  retried := by
    rw [List.dropLast_cons_of_ne_nil hne]
    exact List.forall_mem_cons.2 ⟨hretried, h.retried⟩
  last := by
    obtain ⟨next, tries, rfl⟩ := List.exists_cons_of_ne_nil hne
    rw [List.getLast?_cons_cons]
    exact h.last

theorem after_look {log : List Entry} (hcourse : Course log) (hlog : s.Logs log s')
    (hquiet : ∀ code, ¬Fails log code) (h : Settled s' looks tries s'' retries decided) :
    Settled s (log :: looks) tries s'' retries decided :=
  { h with
    logs := hlog.trans h.logs
    courses := List.forall_mem_cons.2 ⟨hcourse, h.courses⟩
    quiet := List.forall_mem_cons.2 ⟨hquiet, h.quiet⟩ }

end Settled

end Sql

/-! ## Operations -/

/-- How many tries may follow the first one. -/
def Plan.retries : Plan α → Nat
  | .answer _ => 0
  | .locked _ _ retries _ => retries

def Operation.RetriesAtMost (retries : Nat) : Operation α → Prop
  | .plain plan => plan.retries ≤ retries
  | .reading look => look.Ends fun plan => ∀ readings, (plan readings).retries ≤ retries

/-- Only a swipe is tried again. -/
def Command.retries (settings : Settings) : Command → Nat
  | .swipe .. => settings.matching.conflictRetries.toNat
  | _ => 0

theorem Operation.retries_undoLastSwipe (check : AgeCheck) (user : UserId) :
    (undoLastSwipe check user).RetriesAtMost 0 := by
  intro latest readings
  cases latest with
  | none => exact Nat.le_refl 0
  | some l =>
    rcases hcheck : check l (readings 0) with why | _ <;> simp only [hcheck] <;>
      exact Nat.le_refl 0

theorem Command.retriesAtMost (settings : Settings) (c : Command) :
    (c.operation settings).RetriesAtMost (c.retries settings) := by
  cases c with
  | swipe arrow direction =>
    change (Operation.swipe _ arrow direction).RetriesAtMost _
    unfold Operation.swipe
    split
    · exact Nat.zero_le _
    · exact Nat.le_refl _
  | undoLastSwipe user =>
    exact Operation.retries_undoLastSwipe (Operation.requireInWindow settings.matching) user
  | propose arrow message =>
    change (Operation.propose _ arrow message).RetriesAtMost 0
    unfold Operation.propose
    split <;> exact Nat.le_refl 0
  | respond id responder accept =>
    intro found readings
    cases found <;> exact Nat.le_refl 0
  | gracefulExit arrow => exact Nat.le_refl 0
  | unmatch arrow => exact Nat.le_refl 0
  | block arrow =>
    change (Operation.block arrow).RetriesAtMost 0
    unfold Operation.block
    split <;> exact Nat.le_refl 0
  | unblock arrow =>
    change (Operation.unblock arrow).RetriesAtMost 0
    unfold Operation.unblock
    split <;> exact Nat.le_refl 0

theorem Question.retriesAtMost (q : Question) : q.operation.RetriesAtMost 0 :=
  Work.ends_bind q.work fun _ _ => Nat.le_refl 0

namespace Sql

theorem contends_of_storageConflict {code : Option String} {message : String} {e : StorageError}
    (h : EngineError.ofStorage (.sql (.database code message)) = .storageConflict e) :
    contends code = true := by
  rw [EngineError.ofStorage, StorageError.isConflict, isConflict_database] at h
  split at h
  · assumption
  · cases h

theorem settled_attempts (body : Readings → Work (Ending α)) (retries : Nat)
    (readings : Readings) (s : Script) :
    ∃ tries ≠ [], Settled s [] tries (Plan.attempts body retries readings s).2 retries
      (TellsOf (Plan.attempts body retries readings s).1) := by
  induction retries generalizing readings s with
  | zero =>
    obtain ⟨log, hcourse, hlog, hreported⟩ := course_unit (body readings) s
    exact ⟨[log], by simp, .singleton hcourse hlog 0 fun code => hreported.tellsOf⟩
  | succ retries ih =>
    obtain ⟨log, hcourse, hlog, hreported⟩ := course_unit (body readings) s
    rw [Plan.attempts]
    split
    · rename_i e s' hunit
      rw [hunit] at hlog hreported
      obtain ⟨tries, hne, hsettled⟩ := ih readings.later s'
      refine ⟨log :: tries, by simp, hsettled.retry hcourse hlog (fun code hcode => ?_) hne⟩
      obtain ⟨message, hsource⟩ := hreported.tellsOf hcode
      injection hsource with hsource
      injection hsource with hsource
      exact contends_of_storageConflict hsource.symm
    · exact ⟨[log], by simp, .singleton hcourse hlog _ fun code => hreported.tellsOf⟩

theorem settled_finish (plan : Plan α) (readings : Readings) (s : Script) :
    ∃ tries, Settled s [] tries (plan.finish readings s).2 plan.retries
      (TellsOf (plan.finish readings s).1) := by
  cases plan with
  | answer result => exact ⟨[], .nil s 0 _⟩
  | locked a b retries body =>
    obtain ⟨tries, -, hsettled⟩ := settled_attempts body retries readings s
    exact ⟨tries, hsettled⟩

theorem course_of_look (w : Work α) (s : Script) :
    ∃ log, Course log ∧ s.Logs log (w.look s).2 ∧
      Reported EngineError.ofStorage log (w.look s).1 :=
  course_unit (w.bind fun a => .done (.drop a)) s

variable {op : Operation α} {retries : Nat}

theorem settled_run (hop : op.RetriesAtMost retries) (first second : Readings) (s : Script) :
    ∃ looks tries, Settled s looks tries (op.run first second s).2 retries
      (TellsOf (op.run first second s).1) := by
  cases op with
  | plain plan =>
    obtain ⟨tries, hsettled⟩ := settled_finish plan second s
    exact ⟨[], tries, hsettled.mono hop⟩
  | reading look =>
    obtain ⟨log, hcourse, hlog, hreported⟩ := course_of_look look s
    obtain ⟨-, -, -, -, hends⟩ := course_look hop s
    rw [Operation.run, Operation.plan]
    rcases hlook : look.look s with ⟨why | plan, s'⟩ <;> rw [hlook] at hlog hreported hends
    · exact ⟨[], [log], .singleton hcourse hlog _ fun code => hreported.of_error.tellsOf⟩
    · obtain ⟨tries, hsettled⟩ := settled_finish (plan first) second s'
      exact ⟨[log], tries, (hsettled.mono (hends plan rfl first)).after_look hcourse hlog
        hreported.not_fails⟩

/-- If the operation goes on to its locks, no error was replied with before. -/
theorem settled_plan (op : Operation α) (readings : Readings) (s : Script)
    (hlocked : ∀ result, (op.plan readings s).1 ≠ .answer result) (retries : Nat)
    (decided : Option String → Prop) :
    ∃ looks, Settled s looks [] (op.plan readings s).2 retries decided := by
  cases op with
  | plain plan => exact ⟨[], .nil s retries decided⟩
  | reading look =>
    obtain ⟨log, hcourse, hlog, hreported⟩ := course_of_look look s
    rw [Operation.plan] at hlocked ⊢
    rcases hlook : look.look s with ⟨why | plan, s'⟩ <;> rw [hlook] at hlocked hlog hreported
    · exact absurd rfl (hlocked (.error why))
    · exact ⟨[log], (Settled.nil s' retries decided).after_look hcourse hlog hreported.not_fails⟩

theorem settled_service (hop : op.RetriesAtMost retries) (service : Service Script) :
    ∃ looks tries, Settled service.store looks tries (service.run op).2.store retries
      (TellsOf (service.run op).1) := by
  rcases service.run_cases op with hrun | ⟨why, hlocked, hrun⟩
  · obtain ⟨hresult, hstore⟩ := Prod.ext_iff.1 hrun
    dsimp only at hresult hstore
    rw [hresult, hstore]
    exact settled_run hop service.readings service.readings service.store
  · obtain ⟨-, hstore⟩ := Prod.ext_iff.1 hrun
    dsimp only at hstore
    rw [hstore]
    obtain ⟨looks, hsettled⟩ := settled_plan op service.readings service.store hlocked retries _
    exact ⟨looks, [], hsettled⟩

end Sql

end Courtship
