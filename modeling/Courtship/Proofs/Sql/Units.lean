import Courtship.Operation.Command
import Courtship.Proofs.Sql.Transcript

/-! Units in a database, statement by statement: each one is opened as a serializable transaction,
and committed only if all that was sent in it succeeded and could be read. A unit whose writes are
to be kept has committed if it succeeds, and not if it fails. -/

namespace Courtship

/-! ## Endings -/

namespace Work

variable {α β : Type} {P : α → Prop} {Q : β → Prop}

/-- Whatever is replied, work that ends with a value ends with one of these. -/
def Ends (P : α → Prop) : Work α → Prop
  | done a => P a
  | fail _ => True
  | newId next => ∀ id, (next id).Ends P
  | call _ next => ∀ r, (next r).Ends P

theorem Ends.bind {w : Work α} (hw : w.Ends P) {f : α → Work β} (h : ∀ a, P a → (f a).Ends Q) :
    (w.bind f).Ends Q := by
  induction w with
  | done a => exact h a hw
  | fail why => trivial
  | newId next ih => exact fun id => ih id (hw id)
  | call c next ih => exact fun r => ih r (hw r)

theorem ends_true (w : Work α) : w.Ends fun _ => True := by
  induction w with
  | done a => trivial
  | fail why => trivial
  | newId next ih => exact ih
  | call c next ih => exact ih

theorem ends_bind (w : Work α) {f : α → Work β} (h : ∀ a, (f a).Ends Q) : (w.bind f).Ends Q :=
  w.ends_true.bind fun a _ => h a

theorem Ends.of_perform {υ : Type} [OpenUnit υ] {w : Work α} (h : w.Ends P) {u u' : υ} {a : α}
    (hrun : w.perform u = (.ok a, u')) : P a := by
  induction w generalizing u with
  | done b =>
    cases hrun
    exact h
  | fail why => cases hrun
  | newId next ih => exact ih _ (h _) hrun
  | call c next ih =>
    rw [perform] at hrun
    split at hrun
    · exact ih _ (h _) hrun
    · cases hrun

end Work

/-- Whether the writes of the unit are to be kept. -/
def Ending.isCommit {α : Type} : Ending α → Prop
  | .commit _ => True
  | .drop _ => False

namespace Sql

/-! ## Units -/

/-- What was sent for calls that were answered: no statement failed, and all that a call reads of
its replies could be read. -/
inductive Answered : List Entry → Prop
  | nil : Answered []
  | call {c : Call} {r : c.Reply} {s s' : Script} {log more : List Entry}
      (hlog : s.Logs log s') (hanswer : (Exchange.perform c).run s = (.ok r, s'))
      (hlog_ok : ∀ e ∈ log, e.statement.isControl = false ∧ e.reply.isError = false)
      (hmore : Answered more) : Answered (log ++ more)

/-- What is sent in a unit. A transaction that is dropped is rolled back by the connection, and so
is one whose commit is refused: that rollback is the only thing ever sent after a `COMMIT`. -/
inductive Course : List Entry → Prop
  | refused {b : Reply} (hb : b.isError = true) : Course [⟨.begin, b⟩]
  | notSerializable {b z r : Reply} (hb : b.isError = false) (hz : z.isError = true) :
      Course [⟨.begin, b⟩, ⟨.serializable, z⟩, ⟨.rollback, r⟩]
  | dropped {b z r : Reply} {body : List Entry} (hb : b.isError = false) (hz : z.isError = false)
      (hbody : ∀ e ∈ body, e.statement.isControl = false) :
      Course (⟨.begin, b⟩ :: ⟨.serializable, z⟩ :: (body ++ [⟨.rollback, r⟩]))
  /-- The refused commit drops the transaction. The `ROLLBACK` is the connection's, not a statement
  of the unit. -/
  | notCommitted {b z c r : Reply} {body : List Entry} (hb : b.isError = false)
      (hz : z.isError = false) (hbody : Answered body) (hc : c.isError = true) :
      Course (⟨.begin, b⟩ :: ⟨.serializable, z⟩ :: (body ++ [⟨.commit, c⟩, ⟨.rollback, r⟩]))
  | committed {b z c : Reply} {body : List Entry} (hb : b.isError = false)
      (hz : z.isError = false) (hbody : Answered body) (hc : c.isError = false) :
      Course (⟨.begin, b⟩ :: ⟨.serializable, z⟩ :: (body ++ [⟨.commit, c⟩]))

/-- How many commits were acknowledged. -/
def commits (log : List Entry) : Nat :=
  log.countP fun e => e.statement.isCommit && !e.reply.isError

theorem commits_append (log more : List Entry) :
    commits (log ++ more) = commits log + commits more := List.countP_append

theorem commits_of_plain {log : List Entry} (h : ∀ e ∈ log, e.statement.isControl = false) :
    commits log = 0 := by
  refine List.countP_eq_zero.2 fun e he hcommit => ?_
  have hcontrol := h e he
  simp only [Bool.and_eq_true, Statement.isCommit, decide_eq_true_eq] at hcommit
  simp [Statement.isControl, hcommit.1.1, hcommit.1.2] at hcontrol

theorem Answered.plain {log : List Entry} (h : Answered log) :
    ∀ e ∈ log, e.statement.isControl = false := by
  induction h with
  | nil => simp
  | call _ _ hok _ ih => exact List.forall_mem_append.2 ⟨fun e he => (hok e he).1, ih⟩

/-- What a unit sends for its work. -/
theorem logs_perform {α : Type} (w : Work α) (s : Script) :
    ∃ log, s.Logs log (w.perform s).2 ∧ (∀ e ∈ log, e.statement.isControl = false) ∧
      (∀ a, (w.perform s).1 = .ok a → Answered log) ∧
      Reported EngineError.ofStorage log (w.perform s).1 := by
  induction w generalizing s with
  | done a => exact ⟨[], .refl s, by simp, fun _ _ => .nil, reported_nil _⟩
  | fail why => exact ⟨[], .refl s, by simp, fun _ _ => .nil, reported_nil _⟩
  | newId next ih =>
    obtain ⟨log, hlog, h⟩ := ih s.mint.1 s.mint.2
    exact ⟨log, s.logs_mint.trans hlog, h⟩
  | call c next ih =>
    obtain ⟨log, hlog, hplain, hreported⟩ := Exchange.speaks_perform c s
    rcases hrun : (Exchange.perform c).run s with ⟨why | r, s'⟩
    · have hperform : (Work.call c next).perform s = (.error why.ofStorage, s') := by
        simp only [Work.perform, OpenUnit.perform, hrun]
      have hleft : (Exchange.perform c s).2 = s' := congrArg Prod.snd hrun
      have hfailed : (Exchange.perform c s).1 = .error why := congrArg Prod.fst hrun
      rw [hperform]
      refine ⟨log, hleft ▸ hlog, hplain, by simp, fun e he hne code message hreply => ?_⟩
      cases hfailed.symm.trans (hreported e he hne code message hreply)
      rfl
    · have hperform : (Work.call c next).perform s = (next r).perform s' := by
        simp only [Work.perform, OpenUnit.perform, hrun]
      have hleft : (Exchange.perform c s).2 = s' := congrArg Prod.snd hrun
      have hreply : (Exchange.perform c s).1 = .ok r := congrArg Prod.fst hrun
      obtain ⟨more, hmore, hplain', hok', hreported'⟩ := ih r s'
      rw [hperform]
      rw [hleft] at hlog
      rw [hreply] at hreported
      refine ⟨log ++ more, hlog.trans hmore, List.forall_mem_append.2 ⟨hplain, hplain'⟩, ?_,
        reported_append.2 ⟨hreported.of_ok _, hreported'⟩⟩
      intro a ha
      exact .call hlog hrun (fun e he => ⟨hplain e he, hreported.isError_eq_false he (hplain e he)⟩)
        (hok' a ha)

/-! ### Opening and closing -/

theorem logs_start_error {α : Type} {s s' : Script} {e : StorageError}
    (h : s.start = .error (e, s')) :
    ∃ log, Course log ∧ (∀ e ∈ log, e.statement.isControl = true) ∧ commits log = 0 ∧
      s.Logs log s' ∧ Reported EngineError.ofStorage log
        (.error (.error (.ofStorage e)) : Except (Failure EngineError) α) := by
  rw [Script.start] at h
  rcases hbegin : s.control .begin with ⟨_ | _, s₁⟩ <;> rw [hbegin] at h
  · obtain ⟨code, message, rfl, hlog⟩ :=
      Script.logs_control_error Statement.isControl_begin hbegin
    cases h
    exact ⟨_, .refused rfl, by simp, rfl, hlog, reported_error _ code message⟩
  · obtain ⟨b, hb, hlog⟩ := Script.logs_control_ok Statement.isControl_begin hbegin
    rcases hserial : s₁.control .serializable with ⟨_ | _, s₂⟩ <;> simp only [hserial] at h
    · obtain ⟨code, message, rfl, hlog'⟩ :=
        Script.logs_control_error Statement.isControl_serializable hserial
      obtain ⟨r, hback⟩ := s₂.logs_rollback
      cases h
      refine ⟨_, .notSerializable hb rfl, by simp, rfl, (hlog.trans hlog').trans hback, ?_⟩
      exact reported_cons.2 ⟨reported_of_reply hb _ _,
        reported_cons.2 ⟨reported_error _ code message, reported_rollback r _⟩⟩
    · cases h

theorem logs_start_ok {s s' : Script} (h : s.start = .ok s') :
    ∃ b z : Reply, b.isError = false ∧ z.isError = false ∧
      s.Logs [⟨.begin, b⟩, ⟨.serializable, z⟩] s' := by
  rw [Script.start] at h
  rcases hbegin : s.control .begin with ⟨_ | _, s₁⟩ <;> rw [hbegin] at h
  · cases h
  · obtain ⟨b, hb, hlog⟩ := Script.logs_control_ok Statement.isControl_begin hbegin
    rcases hserial : s₁.control .serializable with ⟨_ | _, s₂⟩ <;> simp only [hserial] at h
    · cases h
    · obtain ⟨z, hz, hlog'⟩ := Script.logs_control_ok Statement.isControl_serializable hserial
      cases h
      exact ⟨b, z, hb, hz, hlog.trans hlog'⟩

theorem logs_commit_error {s s' : Script} {e : StorageError} (h : s.commit = (.error e, s')) :
    ∃ code message r, e = .sql (.database code message) ∧
      s.Logs [⟨.commit, .error code message⟩, ⟨.rollback, r⟩] s' := by
  rw [Script.commit] at h
  rcases hcommit : s.control .commit with ⟨_ | _, s₁⟩ <;> rw [hcommit] at h
  · obtain ⟨code, message, rfl, hlog⟩ :=
      Script.logs_control_error Statement.isControl_commit hcommit
    obtain ⟨r, hback⟩ := s₁.logs_rollback
    cases h
    exact ⟨code, message, r, rfl, hlog.trans hback⟩
  · cases h

theorem logs_commit_ok {s s' : Script} {u : Unit} (h : s.commit = (.ok u, s')) :
    ∃ c : Reply, c.isError = false ∧ s.Logs [⟨.commit, c⟩] s' := by
  rw [Script.commit] at h
  rcases hcommit : s.control .commit with ⟨_ | _, s₁⟩ <;> rw [hcommit] at h
  · cases h
  · obtain ⟨c, hc, hlog⟩ := Script.logs_control_ok Statement.isControl_commit hcommit
    cases h
    exact ⟨c, hc, hlog⟩

/-! ### One unit -/

variable {α : Type}

/-- How a unit is closed after its work ended with `result`: with a commit if that is asked for, and
never with one before a failure. -/
structure Closing (result : Except (Failure EngineError) (Ending α))
    (out : Except (Failure EngineError) α) (log : List Entry) : Prop where
  failed : ∀ why, result = .error why → out = .error why
  dropped : ∀ a, result = .ok (.drop a) → out = .ok a ∧ ∃ r, log = [⟨.rollback, r⟩]
  committed : ∀ a, result = .ok (.commit a) → ∀ b, out = .ok b → commits log = 1
  not_committed : ∀ why, out = .error why → commits log = 0

/-- A unit that could be opened, from what is sent for its work. -/
theorem course_opened {w : Work (Ending α)} {s s₁ : Script} (hstart : s.start = .ok s₁)
    {body : List Entry} (hbody : s₁.Logs body (w.perform s₁).2)
    (hplain : ∀ e ∈ body, e.statement.isControl = false)
    (hanswered : ∀ a, (w.perform s₁).1 = .ok a → Answered body)
    (hreported : Reported EngineError.ofStorage body (w.perform s₁).1) :
    ∃ (b z : Reply) (rest : List Entry),
      Course (⟨.begin, b⟩ :: ⟨.serializable, z⟩ :: (body ++ rest)) ∧
      s.Logs (⟨.begin, b⟩ :: ⟨.serializable, z⟩ :: (body ++ rest)) (w.inUnit s).2 ∧
      Closing (w.perform s₁).1 (w.inUnit s).1 rest ∧
      Reported EngineError.ofStorage (⟨.begin, b⟩ :: ⟨.serializable, z⟩ :: (body ++ rest))
        (w.inUnit s).1 := by
  obtain ⟨b, z, hb, hz, hopen⟩ := logs_start_ok hstart
  have hopened : ∀ {rest : List Entry} {out : Except (Failure EngineError) α},
      Reported EngineError.ofStorage (body ++ rest) out → Reported EngineError.ofStorage
        (⟨.begin, b⟩ :: ⟨.serializable, z⟩ :: (body ++ rest)) out := fun h =>
    reported_cons.2 ⟨reported_of_reply hb _ _, reported_cons.2 ⟨reported_of_reply hz _ _, h⟩⟩
  rcases hperform : w.perform s₁ with ⟨why | a | a, s₂⟩ <;>
    rw [hperform] at hbody hanswered hreported
  case error =>
    obtain ⟨r, hback⟩ := s₂.logs_rollback
    have hnone : commits [⟨.rollback, r⟩] = 0 := rfl
    have hunit : w.inUnit s = (.error why, s₂.rollback) := by
      simp only [Work.inUnit, Storage.start, hstart, hperform, Storage.discard]
    rw [hunit]
    refine ⟨b, z, _, .dropped (r := r) hb hz hplain, hopen.trans (hbody.trans hback), ?_,
      hopened (reported_append.2 ⟨hreported.of_error, reported_rollback r _⟩)⟩
    constructor <;> simp [hnone]
  case ok.drop =>
    obtain ⟨r, hback⟩ := s₂.logs_rollback
    have hnone : commits [⟨.rollback, r⟩] = 0 := rfl
    have hunit : w.inUnit s = (.ok a, s₂.rollback) := by
      simp only [Work.inUnit, Storage.start, hstart, hperform, Storage.discard]
    rw [hunit]
    refine ⟨b, z, _, .dropped (r := r) hb hz hplain, hopen.trans (hbody.trans hback), ?_,
      hopened (reported_append.2 ⟨hreported.of_ok _, reported_rollback r _⟩)⟩
    constructor <;> simp [hnone]
  case ok.commit =>
    rcases hcommit : s₂.commit with ⟨e | u, s₃⟩
    · have hunit : w.inUnit s = (.error (.error (.ofStorage e)), s₃) := by
        simp only [Work.inUnit, Storage.start, hstart, hperform, Storage.commit, hcommit]
      obtain ⟨code, message, r, rfl, hclose⟩ := logs_commit_error hcommit
      have hnone : commits [⟨.commit, .error code message⟩, ⟨.rollback, r⟩] = 0 := rfl
      rw [hunit]
      refine ⟨b, z, _, .notCommitted hb hz (hanswered _ rfl) rfl,
        hopen.trans (hbody.trans hclose), ?_, hopened (reported_append.2 ⟨hreported.of_ok _,
          reported_cons.2 ⟨reported_error _ code message, reported_rollback r _⟩⟩)⟩
      constructor <;> simp [hnone]
    · have hunit : w.inUnit s = (.ok a, s₃) := by
        simp only [Work.inUnit, Storage.start, hstart, hperform, Storage.commit, hcommit]
      obtain ⟨c, hc, hclose⟩ := logs_commit_ok hcommit
      have hone : commits [⟨.commit, c⟩] = 1 := by
        simp [commits, hc, Statement.isCommit, Statement.commit]
      rw [hunit]
      refine ⟨b, z, _, .committed hb hz (hanswered _ rfl) hc, hopen.trans (hbody.trans hclose), ?_,
        hopened (reported_append.2 ⟨hreported.of_ok _, reported_of_reply hc _ _⟩)⟩
      constructor <;> simp [hone]

theorem commits_opened (b z : Reply) {body : List Entry}
    (hbody : ∀ e ∈ body, e.statement.isControl = false) (rest : List Entry) :
    commits (⟨.begin, b⟩ :: ⟨.serializable, z⟩ :: (body ++ rest)) = commits rest := by
  change commits (body ++ rest) = _
  rw [commits_append, commits_of_plain hbody, Nat.zero_add]

/-- A unit that cannot be opened. -/
theorem course_refused {w : Work (Ending α)} {s s₁ : Script} {e : StorageError}
    (hstart : s.start = .error (e, s₁)) :
    (w.inUnit s).1 = .error (.error (.ofStorage e)) ∧
      ∃ log, Course log ∧ (∀ e ∈ log, e.statement.isControl = true) ∧ commits log = 0 ∧
        s.Logs log (w.inUnit s).2 ∧ Reported EngineError.ofStorage log (w.inUnit s).1 := by
  have hunit : w.inUnit s = (.error (.error (.ofStorage e)), s₁) := by
    simp only [Work.inUnit, Storage.start, hstart]
  rw [hunit]
  exact ⟨rfl, logs_start_error hstart⟩

/-- Any unit takes one of the courses, and reports the errors on it. -/
theorem course_unit (w : Work (Ending α)) (s : Script) :
    ∃ log, Course log ∧ s.Logs log (w.inUnit s).2 ∧
      Reported EngineError.ofStorage log (w.inUnit s).1 := by
  rcases hstart : s.start with ⟨e, s₁⟩ | s₁
  · obtain ⟨-, log, hcourse, -, -, hlog, hreported⟩ := course_refused (w := w) hstart
    exact ⟨log, hcourse, hlog, hreported⟩
  · obtain ⟨body, hbody, hplain, hanswered, hreported⟩ := logs_perform w s₁
    obtain ⟨b, z, rest, hcourse, hlog, -, hunit⟩ :=
      course_opened hstart hbody hplain hanswered hreported
    exact ⟨_, hcourse, hlog, hunit⟩

/-- A unit whose work always asks for its writes to be kept: it has committed if it ends with an
answer, and not if it ends with a failure. -/
theorem course_inUnit {w : Work (Ending α)} (hw : w.Ends Ending.isCommit) (s : Script) :
    ∃ log, Course log ∧ s.Logs log (w.inUnit s).2 ∧
      (∀ why, (w.inUnit s).1 = .error why → commits log = 0) ∧
      ∀ a, (w.inUnit s).1 = .ok a → commits log = 1 := by
  rcases hstart : s.start with ⟨e, s₁⟩ | s₁
  · obtain ⟨hresult, log, hcourse, -, hnone, hlog, -⟩ := course_refused (w := w) hstart
    exact ⟨log, hcourse, hlog, fun _ _ => hnone, by simp [hresult]⟩
  · obtain ⟨body, hbody, hplain, hanswered, hreported⟩ := logs_perform w s₁
    obtain ⟨b, z, rest, hcourse, hlog, hclosing, -⟩ :=
      course_opened hstart hbody hplain hanswered hreported
    refine ⟨_, hcourse, hlog, ?_, ?_⟩ <;> rw [commits_opened b z hplain]
    · exact hclosing.not_committed
    · intro a ha
      rcases hresult : (w.perform s₁).1 with why | b | b
      · cases ha.symm.trans (hclosing.failed why hresult)
      · exact hclosing.committed b hresult a ha
      · exact (hw.of_perform (u := s₁) (Prod.ext hresult rfl)).elim

/-- A look commits nothing. -/
theorem course_look {w : Work α} {P : α → Prop} (hw : w.Ends P) (s : Script) :
    ∃ log, Course log ∧ s.Logs log (w.look s).2 ∧ commits log = 0 ∧
      ∀ a, (w.look s).1 = .ok a → P a := by
  have hdrops : (w.bind fun a => .done (Ending.drop a)).Ends
      fun ending => ∃ a, ending = .drop a ∧ P a := hw.bind fun a ha => ⟨a, rfl, ha⟩
  rw [Work.look]
  rcases hstart : s.start with ⟨e, s₁⟩ | s₁
  · obtain ⟨hresult, log, hcourse, -, hnone, hlog, -⟩ := course_refused hstart
    exact ⟨log, hcourse, hlog, hnone, by simp [hresult]⟩
  · obtain ⟨body, hbody, hplain, hanswered, hreported⟩ := logs_perform _ s₁
    obtain ⟨b, z, rest, hcourse, hlog, hclosing, -⟩ :=
      course_opened hstart hbody hplain hanswered hreported
    refine ⟨_, hcourse, hlog, ?_⟩
    rw [commits_opened b z hplain]
    rcases hresult : ((w.bind fun a => .done (Ending.drop a)).perform s₁).1 with why | ending
    · have hout := hclosing.failed why hresult
      exact ⟨hclosing.not_committed why hout, by simp [hout]⟩
    · obtain ⟨a, rfl, ha⟩ := hdrops.of_perform (u := s₁) (Prod.ext hresult rfl)
      obtain ⟨hout, r, rfl⟩ := hclosing.dropped a hresult
      refine ⟨rfl, fun a' ha' => ?_⟩
      cases hout.symm.trans ha'
      exact ha

end Sql

end Courtship
