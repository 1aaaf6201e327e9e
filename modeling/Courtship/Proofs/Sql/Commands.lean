import Courtship.Proofs.Keyed
import Courtship.Proofs.Sql.Units
import Courtship.Service

/-! Commands on a database. Whatever the server replies, a command that succeeds has committed
exactly once, and one that fails has not committed at all. Only a repeated exit succeeds without a
commit. -/

namespace Courtship

open Sql

variable {α : Type}

/-! ## Operations that keep their writes -/

/-- An answer without a unit is a failure, and a unit that ends asks for a commit. -/
def Plan.Keeps : Plan α → Prop
  | .answer result => ∀ a, result ≠ .ok a
  | .locked _ _ _ body => ∀ readings, (body readings).Ends Ending.isCommit

def Operation.Keeps : Operation α → Prop
  | .plain plan => plan.Keeps
  | .reading look => look.Ends fun plan => ∀ readings, (plan readings).Keeps

namespace Operation

theorem keeps_reject (e : EngineError) : (Plan.reject e : Plan α).Keeps := by
  intro a h
  cases h

theorem keeps_swipe (settings : MatchingSettings) (arrow : Arrow) (direction : Direction) :
    (swipe settings arrow direction).Keeps := by
  unfold swipe
  split
  · exact keeps_reject _
  · exact fun readings => Work.ends_bind _ fun _ => Work.ends_bind _ fun _ =>
      Work.ends_bind _ fun _ => trivial

theorem ends_undoWork (check : AgeCheck) (arrow : Arrow) (readings : Readings) :
    (undoWork check arrow readings).Ends Ending.isCommit := by
  refine Work.ends_bind _ fun
    | none => trivial
    | some l => ?_
  dsimp only
  split
  · trivial
  · refine Work.ends_bind _ fun _ => Work.ends_bind _ fun _ => ?_
    split <;> exact Work.ends_bind _ fun _ => trivial

theorem keeps_undoLastSwipe (check : AgeCheck) (user : UserId) :
    (undoLastSwipe check user).Keeps := by
  intro latest readings
  cases latest with
  | none => exact keeps_reject _
  | some l =>
    rcases hcheck : check l (readings 0) with why | _ <;> simp only [hcheck]
    · intro a h
      cases h
    · exact ends_undoWork check ⟨user, l.toUser⟩

theorem keeps_propose (settings : RelationshipSettings) (arrow : Arrow) (message : String) :
    (propose settings arrow message).Keeps := by
  unfold propose
  split
  · exact keeps_reject _
  · exact fun readings => Work.ends_bind _ fun _ => Work.ends_bind _ fun _ =>
      Work.ends_bind _ fun _ => Work.ends_bind _ fun _ => Work.ends_bind _ fun _ =>
      Work.ends_bind _ fun _ => Work.ends_bind _ fun _ => trivial

theorem ends_respondWork (id : Uuid) (responder : UserId) (accept : Bool) (now : Instant) :
    (respondWork id responder accept now).Ends Ending.isCommit := by
  refine Work.ends_bind _ fun request => Work.ends_bind _ fun current => ?_
  dsimp only
  split
  · trivial
  · refine Work.ends_bind _ fun _ => Work.ends_bind _ fun _ => Work.ends_bind _ fun _ => ?_
    split
    · exact Work.ends_bind _ fun _ => Work.ends_bind _ fun _ => trivial
    · exact Work.ends_bind _ fun _ => trivial

theorem keeps_respond (id : Uuid) (responder : UserId) (accept : Bool) :
    (respond id responder accept).Keeps := by
  intro found readings
  cases found with
  | none => exact keeps_reject _
  | some r => exact fun readings => ends_respondWork id responder accept (readings 0)

theorem keeps_unmatch (arrow : Arrow) : (unmatch arrow).Keeps :=
  fun _ => Work.ends_bind _ fun _ => trivial

theorem ends_blockWork (arrow : Arrow) (now : Instant) :
    (blockWork arrow now).Ends Ending.isCommit := by
  refine Work.ends_bind _ fun _ => Work.ends_bind _ fun result => ?_
  dsimp only
  split
  · refine Work.ends_bind _ fun _ => Work.ends_bind _ fun found => ?_
    cases found with
    | none => trivial
    | some c => exact Work.ends_bind _ fun _ => Work.ends_bind _ fun _ => trivial
  · refine Work.ends_bind _ fun found => ?_
    cases found with
    | none => trivial
    | some c => exact Work.ends_bind _ fun _ => Work.ends_bind _ fun _ => trivial

theorem keeps_block (arrow : Arrow) : (block arrow).Keeps := by
  unfold block
  split
  · exact keeps_reject _
  · exact fun readings => ends_blockWork arrow (readings 0)

theorem keeps_unblock (arrow : Arrow) : (unblock arrow).Keeps := by
  unfold unblock
  split
  · exact keeps_reject _
  · exact fun readings => fun r => trivial

/-- Every command keeps its writes, but for an exit that may turn out to be repeated. -/
theorem keeps_operation (settings : Settings) {c : Command}
    (hc : ∀ arrow, c ≠ .gracefulExit arrow) : (c.operation settings).Keeps := by
  cases c with
  | swipe arrow direction => exact keeps_swipe settings.matching arrow direction
  | undoLastSwipe user => exact keeps_undoLastSwipe (requireInWindow settings.matching) user
  | propose arrow message => exact keeps_propose settings.relationships arrow message
  | respond id responder accept => exact keeps_respond id responder accept
  | gracefulExit arrow => exact absurd rfl (hc arrow)
  | unmatch arrow => exact keeps_unmatch arrow
  | block arrow => exact keeps_block arrow
  | unblock arrow => exact keeps_unblock arrow

end Operation

namespace Sql

/-! ## Units of an operation -/

/-- What was run from the script `s` came to `out` by these units, and none of them has committed if
it failed. -/
structure Ran (s : Script) (units : List (List Entry))
    (out : Except (Failure EngineError) α × Script) : Prop where
  logs : s.Logs units.flatten out.2
  courses : ∀ log ∈ units, Course log
  none_of_error : ∀ why, out.1 = .error why → commits units.flatten = 0

variable {s : Script} {out : Except (Failure EngineError) α × Script}

theorem ran_nil (result : Except (Failure EngineError) α) : Ran s [] (result, s) :=
  ⟨.refl s, by simp, fun _ _ => rfl⟩

theorem ran_singleton {log : List Entry} (hcourse : Course log) (hlog : s.Logs log out.2)
    (hnone : ∀ why, out.1 = .error why → commits log = 0) : Ran s [log] out := by
  constructor <;> simpa

theorem commits_flatten_append (units more : List (List Entry)) :
    commits (units ++ more).flatten = commits units.flatten + commits more.flatten := by
  rw [List.flatten_append, commits_append]

/-- More units after some that have not committed. -/
theorem Ran.after {s' : Script} {units more : List (List Entry)} (hlog : s.Logs units.flatten s')
    (hcourses : ∀ log ∈ units, Course log) (hnone : commits units.flatten = 0)
    (h : Ran s' more out) : Ran s (units ++ more) out where
  logs := by
    rw [List.flatten_append]
    exact hlog.trans h.logs
  courses := List.forall_mem_append.2 ⟨hcourses, h.courses⟩
  none_of_error why hwhy := by
    rw [commits_flatten_append, hnone, h.none_of_error why hwhy]

/-- What is sent before the locks of an operation are held commits nothing. -/
theorem units_plan {op : Operation α} (hop : op.Keeps) (readings : Readings) (s : Script) :
    ∃ units : List (List Entry), s.Logs units.flatten (op.plan readings s).2 ∧
      (∀ log ∈ units, Course log) ∧ commits units.flatten = 0 ∧ (op.plan readings s).1.Keeps := by
  cases op with
  | plain plan => exact ⟨[], .refl s, by simp, rfl, hop⟩
  | reading look =>
    obtain ⟨log, hcourse, hlog, hnone, hkeeps⟩ := course_look hop s
    rcases hlook : look.look s with ⟨why | plan, s'⟩ <;> rw [hlook] at hlog hkeeps <;>
      simp only [Operation.plan, hlook] <;>
      refine ⟨[log], by simpa using hlog, by simpa using hcourse, by simpa using hnone, ?_⟩
    · intro a h
      cases h
    · exact hkeeps plan rfl readings

/-- Each try is a unit, and only the last one can have committed. -/
theorem units_attempts {body : Readings → Work (Ending α)}
    (hbody : ∀ readings, (body readings).Ends Ending.isCommit) (retries : Nat)
    (readings : Readings) (s : Script) :
    ∃ units, Ran s units (Plan.attempts body retries readings s) ∧
      ∀ a, (Plan.attempts body retries readings s).1 = .ok a → commits units.flatten = 1 := by
  induction retries generalizing readings s with
  | zero =>
    obtain ⟨log, hcourse, hlog, hnone, hone⟩ := course_inUnit (hbody readings) s
    exact ⟨[log], ran_singleton hcourse hlog hnone, by simpa [Plan.attempts] using hone⟩
  | succ retries ih =>
    obtain ⟨log, hcourse, hlog, hnone, hone⟩ := course_inUnit (hbody readings) s
    rw [Plan.attempts]
    split
    · rename_i s' hunit
      rw [hunit] at hlog hnone
      have hnone' : commits [log].flatten = 0 := by simpa using hnone _ rfl
      obtain ⟨units, hran, hone'⟩ := ih readings.later s'
      refine ⟨[log] ++ units, .after (by simpa using hlog) (by simpa using hcourse) hnone' hran, ?_⟩
      rw [commits_flatten_append, hnone', Nat.zero_add]
      exact hone'
    · exact ⟨[log], ran_singleton hcourse hlog hnone, by simpa using hone⟩

theorem units_finish {plan : Plan α} (hplan : plan.Keeps) (readings : Readings) (s : Script) :
    ∃ units, Ran s units (plan.finish readings s) ∧
      ∀ a, (plan.finish readings s).1 = .ok a → commits units.flatten = 1 := by
  cases plan with
  | answer result => exact ⟨[], ran_nil result, fun a ha => absurd ha (hplan a)⟩
  | locked a b retries body => exact units_attempts hplan retries readings s

theorem units_run {op : Operation α} (hop : op.Keeps) (first second : Readings) (s : Script) :
    ∃ units, Ran s units (op.run first second s) ∧
      ∀ a, (op.run first second s).1 = .ok a → commits units.flatten = 1 := by
  obtain ⟨units, hlog, hcourses, hnone, hplan⟩ := units_plan hop first s
  obtain ⟨more, hran, hone⟩ := units_finish hplan second (op.plan first s).2
  refine ⟨units ++ more, .after hlog hcourses hnone hran, ?_⟩
  rw [commits_flatten_append, hnone, Nat.zero_add]
  exact hone

/-! ## Repeated exits -/

/-- Replies that say that the match was left before, by a graceful exit that the actor can
repeat. -/
def LeftBefore (arrow : Arrow) (reply : Reply) : Prop :=
  ∃ row rows m, reply = .rows (row :: rows) ∧ readMatch row = .ok m ∧
    m.involves arrow.actor = true ∧ m.state = .gracefulExit

/-- The log of an exit, which begins with the statement for the match, if the match was left
before. -/
def RepeatsExit (arrow : Arrow) (log : List Entry) : Prop :=
  ∃ reply, log[2]? = some ⟨.getMatch (.of arrow.actor arrow.target), reply⟩ ∧
    LeftBefore arrow reply

theorem first?_send {β : Type} (read : Row → Reading β) (q : Statement) (s : Script) :
    (Exchange.first? read q s).2 = (s.send q).2 ∧
      ∀ b, (Exchange.first? read q s).1 = .ok (some b) ↔
        ∃ row rows, (s.send q).1 = .rows (row :: rows) ∧ read row = .ok b := by
  rw [Exchange.first?, Exchange.bind_apply, Exchange.rows]
  rcases s.send q with ⟨(_ | ⟨row, rows⟩) | n | ⟨code, message⟩, s'⟩ <;> dsimp only
  case rows.nil | affected =>
    have hnone : (pure none : Exchange (Option β)) s' = (.ok none, s') := rfl
    simp [hnone]
  case rows.cons =>
    rcases hread : read row with (e | _) | b
    case error.error =>
      have hfail : (some <$> Exchange.ofReading (.error (.error e)) : Exchange (Option β)) s' =
        (.error (.error (.sql e)), s') := rfl
      simp [hfail, hread]
    case error.overflow =>
      have hfail : (some <$> Exchange.ofReading (.error .overflow) : Exchange (Option β)) s' =
        (.error .overflow, s') := rfl
      simp [hfail, hread]
    case ok =>
      have hsome : (some <$> Exchange.ofReading (.ok b) : Exchange (Option β)) s' =
        (.ok (some b), s') := rfl
      simp [hsome, hread]
  case error => simp

end Sql

namespace Operation

theorem unchanged_of_transition {m m' : Match} {target : MatchState} {initiator : UserId}
    {reason : Option ArchiveReason} {now : Instant}
    (h : m.transition target initiator reason now = .ok (.unchanged m')) :
    m.involves initiator = true ∧ m.state = .gracefulExit := by
  unfold Match.transition at h
  split at h
  · cases h
  · rename_i hinvolves
    split at h
    · rename_i hrepeat
      exact ⟨by simpa using hinvolves, hrepeat.1⟩
    · split at h
      · cases h
      · split at h <;> cases h

/-- An exit reads the match. It ends at once if the match was left before, and otherwise keeps its
writes. -/
theorem gracefulExitWork_eq_call (arrow : Arrow) (now : Instant) :
    ∃ next, gracefulExitWork arrow now = .call (.getMatch (.of arrow.actor arrow.target)) next ∧
      (∀ m, m.involves arrow.actor = true → m.state = .gracefulExit →
        next (some m) = .done (.drop m)) ∧
      ∀ found : Option Match,
        (∀ m, found = some m → ¬(m.involves arrow.actor = true ∧ m.state = .gracefulExit)) →
          (next found).Ends Ending.isCommit := by
  refine ⟨_, rfl, ?_, ?_⟩
  · intro m hi hs
    have hsame := Match.transition_repeated hi hs (some .gracefulExit) now
    simp [Work.orReject, hsame, Work.pure_eq, Work.bind_eq]
  · intro found hfound
    cases found with
    | none => trivial
    | some m =>
      refine Work.Ends.bind (P := fun transition => ∃ m, transition = .changed m) ?_ ?_
      · simp only [Work.orReject, Work.bind_eq, Work.done_bind]
        split
        · trivial
        · rename_i hsame
          exact absurd (unchanged_of_transition hsame) (hfound m rfl)
        · rename_i m' _
          exact Work.ends_bind _ fun _ => Work.ends_bind _ fun _ => Work.ends_bind _ fun _ =>
            ⟨m', rfl⟩
      · rintro _ ⟨m', rfl⟩
        exact Work.ends_bind _ fun _ => trivial

end Operation

namespace Sql

/-- What an exit sends in its unit. -/
theorem logs_gracefulExitWork (arrow : Arrow) (now : Instant) (s : Script) :
    ∃ reply more, s.Logs (⟨.getMatch (.of arrow.actor arrow.target), reply⟩ :: more)
        ((Operation.gracefulExitWork arrow now).perform s).2 ∧
      (LeftBefore arrow reply →
        more = [] ∧ ∃ m, ((Operation.gracefulExitWork arrow now).perform s).1 = .ok (.drop m)) ∧
      (¬LeftBefore arrow reply →
        ∀ m, ((Operation.gracefulExitWork arrow now).perform s).1 ≠ .ok (.drop m)) := by
  obtain ⟨next, hwork, hrepeat, hends⟩ := Operation.gracefulExitWork_eq_call arrow now
  obtain ⟨hleft, hfound⟩ := first?_send readMatch (.getMatch (.of arrow.actor arrow.target)) s
  have hhead := s.logs_send (q := .getMatch (.of arrow.actor arrow.target)) rfl
  have hcall : OpenUnit.perform s (.getMatch (.of arrow.actor arrow.target)) =
    Exchange.first? readMatch (.getMatch (.of arrow.actor arrow.target)) s := rfl
  rw [hwork, Work.perform, hcall]
  rcases hrun : Exchange.first? readMatch (.getMatch (.of arrow.actor arrow.target)) s with
    ⟨why | found, s'⟩ <;> rw [hrun] at hleft hfound <;> dsimp only at hleft hfound ⊢ <;>
    subst hleft
  · refine ⟨_, [], hhead, ?_, by simp⟩
    rintro ⟨row, rows, m, hreply, hread, -, -⟩
    cases (hfound m).2 ⟨row, rows, hreply, hread⟩
  · by_cases hleft : LeftBefore arrow (s.send (.getMatch (.of arrow.actor arrow.target))).1
    · obtain ⟨row, rows, m, hreply, hread, hi, hs⟩ := hleft
      obtain rfl : found = some m := by simpa using (hfound m).2 ⟨row, rows, hreply, hread⟩
      rw [hrepeat m hi hs]
      refine ⟨_, [], hhead, fun _ => ⟨rfl, m, rfl⟩, fun h => ?_⟩
      exact absurd ⟨row, rows, m, hreply, hread, hi, hs⟩ h
    · have hkeeps : (next found).Ends Ending.isCommit := by
        refine hends found ?_
        rintro m rfl ⟨hi, hs⟩
        obtain ⟨row, rows, hreply, hread⟩ := (hfound m).1 rfl
        exact hleft ⟨row, rows, m, hreply, hread, hi, hs⟩
      obtain ⟨more, hmore, -, -, -⟩ := logs_perform (next found)
        (s.send (.getMatch (.of arrow.actor arrow.target))).2
      refine ⟨_, more, hhead.trans hmore, fun h => absurd h hleft, fun _ m hdrop => ?_⟩
      exact hkeeps.of_perform (a := .drop m) (Prod.ext hdrop rfl)

/-- An exit runs one unit. It has committed if it is not a repeated one, and then only. -/
theorem units_gracefulExit (arrow : Arrow) (now : Instant) (s : Script) :
    ∃ log, Ran s [log] ((Operation.gracefulExitWork arrow now).inUnit s) ∧
      (¬RepeatsExit arrow log → ∀ m, ((Operation.gracefulExitWork arrow now).inUnit s).1 = .ok m →
        commits log = 1) ∧
      (RepeatsExit arrow log →
        (∃ m, ((Operation.gracefulExitWork arrow now).inUnit s).1 = .ok m) ∧
        log.map Entry.statement = [.begin, .serializable,
          .getMatch (.of arrow.actor arrow.target), .rollback]) := by
  rcases hstart : s.start with ⟨e, s₁⟩ | s₁
  · obtain ⟨hresult, log, hcourse, hcontrol, hnone, hlog, -⟩ :=
      course_refused (w := Operation.gracefulExitWork arrow now) hstart
    refine ⟨log, ran_singleton hcourse hlog fun _ _ => hnone, by simp [hresult], ?_⟩
    rintro ⟨reply, hthird, -⟩
    cases hcontrol _ (List.mem_of_getElem? hthird)
  · obtain ⟨body, hbody, hplain, hanswered, hreported⟩ :=
      logs_perform (Operation.gracefulExitWork arrow now) s₁
    obtain ⟨reply, more, hsent, hrepeat, hkeeps⟩ := logs_gracefulExitWork arrow now s₁
    obtain rfl := hbody.unique hsent
    obtain ⟨b, z, rest, hcourse, hlog, hclosing, -⟩ :=
      course_opened hstart hbody hplain hanswered hreported
    have hcount := commits_opened b z hplain rest
    refine ⟨_, ran_singleton hcourse hlog ?_, ?_, ?_⟩
    · rw [hcount]
      exact hclosing.not_committed
    · intro hnew m hm
      rw [hcount]
      have hnot : ¬LeftBefore arrow reply := fun h => hnew ⟨reply, rfl, h⟩
      rcases hresult : ((Operation.gracefulExitWork arrow now).perform s₁).1 with why | m' | m'
      · cases hm.symm.trans (hclosing.failed why hresult)
      · exact hclosing.committed m' hresult m hm
      · exact absurd hresult (hkeeps hnot m')
    · rintro ⟨reply', hthird, hold⟩
      obtain rfl : reply = reply' := congrArg Entry.reply (Option.some.inj hthird)
      obtain ⟨rfl, m, hdrop⟩ := hrepeat hold
      obtain ⟨hm, r, rfl⟩ := hclosing.dropped m hdrop
      exact ⟨⟨m, hm⟩, rfl⟩

/-! ## Commands -/

/-- Whether a command turned out to be a repeated exit. -/
def IsRepeatedExit (c : Command) (log : List Entry) : Prop :=
  ∃ arrow, c = .gracefulExit arrow ∧ RepeatsExit arrow log

/-- What a command came to on a database, by the units that it ran there. -/
structure CommandRan (c : Command) (s : Script) (units : List (List Entry))
    (out : Except (Failure EngineError) c.Answer × Script) : Prop extends Ran s units out where
  one_of_ok : ¬IsRepeatedExit c units.flatten →
    ∀ answer, out.1 = .ok answer → commits units.flatten = 1
  repeated : ∀ arrow, c = .gracefulExit arrow → RepeatsExit arrow units.flatten →
    (∃ answer, out.1 = .ok answer) ∧
      units.flatten.map Entry.statement = [.begin, .serializable,
        .getMatch (.of arrow.actor arrow.target), .rollback]

theorem commandRan_run (settings : Settings) (c : Command) (first second : Readings)
    (s : Script) :
    ∃ units, CommandRan c s units ((c.operation settings).run first second s) := by
  by_cases hc : ∃ arrow, c = .gracefulExit arrow
  · obtain ⟨arrow, rfl⟩ := hc
    obtain ⟨log, hran, hone, hrepeated⟩ := units_gracefulExit arrow (second 0) s
    have hlog : [log].flatten = log := by simp
    refine ⟨[log], hran, ?_, ?_⟩ <;> rw [hlog]
    · intro hnew
      exact hone fun h => hnew ⟨arrow, rfl, h⟩
    · rintro arrow' harrow hold
      cases harrow
      exact hrepeated hold
  · have hkeeps := Operation.keeps_operation settings fun arrow h => hc ⟨arrow, h⟩
    obtain ⟨units, hran, hone⟩ := units_run hkeeps first second s
    exact ⟨units, hran, fun _ => hone, fun arrow h => absurd ⟨arrow, h⟩ hc⟩

/-- A command that does not get its locks. -/
theorem commandRan_timedOut (settings : Settings) (c : Command) (readings : Readings) (s : Script)
    (why : Failure EngineError) :
    ∃ units, CommandRan c s units (.error why, ((c.operation settings).plan readings s).2) := by
  by_cases hc : ∃ arrow, c = .gracefulExit arrow
  · obtain ⟨arrow, rfl⟩ := hc
    refine ⟨[], ran_nil _, by simp, ?_⟩
    rintro arrow' - ⟨reply, hthird, -⟩
    cases hthird
  · have hkeeps := Operation.keeps_operation settings fun arrow h => hc ⟨arrow, h⟩
    obtain ⟨units, hlog, hcourses, hnone, -⟩ := units_plan hkeeps readings s
    exact ⟨units, ⟨hlog, hcourses, fun _ _ => hnone⟩, by simp, fun arrow h => absurd ⟨arrow, h⟩ hc⟩

end Sql

/-- With nothing else going on, an operation is run as a whole, or its locks are not to be had. -/
theorem Service.run_cases {σ υ : Type} [Storage σ υ] (service : Service σ) (op : Operation α) :
    ((service.run op).1, (service.run op).2.store) =
        op.run service.readings service.readings service.store ∨
      ∃ why, (∀ result, (op.plan service.readings service.store).1 ≠ .answer result) ∧
        ((service.run op).1, (service.run op).2.store) =
          (.error why, (op.plan service.readings service.store).2) := by
  rcases hplan : op.plan service.readings service.store with ⟨result | ⟨a, b, retries, body⟩, store⟩
  · exact .inl (by simp [run, start, Operation.run, hplan, Plan.finish])
  · simp only [run, start, hplan]
    generalize Acquisition.start _ _ _ _ = locks
    rcases locks with ⟨leases | acquisition | user, registry⟩
    · left
      simp only [proceed, Operation.run, hplan]
      rfl
    · exact .inr ⟨_, fun _ h => (nomatch h), rfl⟩
    · exact .inr ⟨_, fun _ h => (nomatch h), rfl⟩

namespace Sql

/-- **An answer means one commit.** Whatever the server replies, what a command sends falls into
units, each of them serializable and committed only if all of it succeeded and could be read. One
commit is acknowledged if the command succeeds, and none if it fails. A `COMMIT` is the last that a
unit sends; where it is refused, the connection itself rolls back the transaction that this drops,
and nothing else follows. A repeated exit succeeds too, without a commit and with no statement that
writes. -/
theorem answered_iff_committed (c : Command) :
    (∀ (settings : Settings) (first second : Readings) (s : Script), ∃ units,
      CommandRan c s units ((c.operation settings).run first second s)) ∧
    ∀ service : Service Script, ∃ units,
      CommandRan c service.store units ((service.command c).1, (service.command c).2.store) := by
  constructor
  · exact fun settings => commandRan_run settings c
  · intro service
    rcases service.run_cases (c.operation service.settings) with hrun | ⟨why, -, hrun⟩ <;>
      rw [Service.command, hrun]
    · exact commandRan_run service.settings c service.readings service.readings service.store
    · exact commandRan_timedOut service.settings c service.readings service.store why

end Sql

end Courtship
