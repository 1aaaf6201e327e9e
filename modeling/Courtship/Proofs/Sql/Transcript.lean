import Courtship.Sql.Database

/-! The transcript of a connection: each statement that was sent, with the reply that the script has
for it. What a call sends succeeds and is read in full, or the call fails. -/

namespace Courtship.Sql

/-! ## Transcripts -/

/-- Transaction statements have no parameters. -/
def Statement.isControl (q : Statement) : Bool :=
  q.params.isEmpty &&
    ["BEGIN", "SET TRANSACTION ISOLATION LEVEL SERIALIZABLE", "COMMIT", "ROLLBACK"].contains q.text

namespace Statement

@[simp] theorem isControl_begin : begin.isControl = true := by decide

@[simp] theorem isControl_serializable : serializable.isControl = true := by decide

@[simp] theorem isControl_commit : commit.isControl = true := by decide

@[simp] theorem isControl_rollback : rollback.isControl = true := by decide

end Statement

def Statement.isCommit (q : Statement) : Bool := q.params.isEmpty && q.text = "COMMIT"

def Reply.isError : Reply → Bool
  | error .. => true
  | _ => false

structure Entry where
  statement : Statement
  reply : Reply

/-- Whether the reply is for this statement: a transaction statement has to be named by it. -/
def Scripted.isFor (r : Scripted) (q : Statement) : Bool :=
  !q.isControl || r.on = some (Script.firstWord q)

/-- What a server with these replies says to the statements. One that it has no reply for succeeds
and finds nothing. -/
def transcript : List Scripted → List Statement → List Entry
  | _, [] => []
  | [], q :: qs => ⟨q, .affected 0⟩ :: transcript [] qs
  | r :: rs, q :: qs =>
    if r.isFor q then ⟨q, r.toReply⟩ :: transcript rs qs
    else ⟨q, .affected 0⟩ :: transcript (r :: rs) qs

namespace Script

variable {s s' s'' : Script} {log more : List Entry}

/-- From `s` to `s'` the statements of `log` were sent, and got its replies. -/
structure Logs (s : Script) (log : List Entry) (s' : Script) : Prop where
  sent_eq : s'.sent = s.sent ++ log.map Entry.statement
  transcript_eq : ∀ qs, transcript s.replies (log.map Entry.statement ++ qs) =
    log ++ transcript s'.replies qs

theorem Logs.refl (s : Script) : s.Logs [] s := ⟨by simp, fun _ => rfl⟩

theorem Logs.trans (h : s.Logs log s') (h' : s'.Logs more s'') : s.Logs (log ++ more) s'' where
  sent_eq := by simp [h'.sent_eq, h.sent_eq]
  transcript_eq qs := by
    rw [List.map_append, List.append_assoc, h.transcript_eq, h'.transcript_eq, List.append_assoc]

theorem Logs.unique (h : s.Logs log s') (h' : s.Logs more s') : log = more := by
  have hstatements : log.map Entry.statement = more.map Entry.statement :=
    List.append_cancel_left (h.sent_eq.symm.trans h'.sent_eq)
  have hlog := h.transcript_eq []
  have hmore := h'.transcript_eq []
  rw [hstatements, hmore] at hlog
  exact (List.append_cancel_right hlog).symm

theorem logs_mint (s : Script) : s.Logs [] s.mint.2 := ⟨by simp [mint], fun _ => rfl⟩

theorem logs_send (s : Script) {q : Statement} (hq : q.isControl = false) :
    s.Logs [⟨q, (s.send q).1⟩] (s.send q).2 := by
  rcases s with ⟨_ | ⟨r, rs⟩, sent, minted⟩
  · exact ⟨rfl, fun qs => rfl⟩
  · refine ⟨rfl, fun qs => ?_⟩
    have hfor : r.isFor q = true := by simp [Scripted.isFor, hq]
    simp [send, record, transcript, hfor]

/-- What a reply makes of a transaction statement. -/
def outcome : Reply → Except SqlError Unit
  | .error code message => .error (.database code message)
  | _ => .ok ()

theorem control_taken {r : Scripted} {q : Statement} (hon : r.on = some (firstWord q))
    (rs : List Scripted) (sent : List Statement) (minted : Nat) :
    (⟨r :: rs, sent, minted⟩ : Script).control q =
      (outcome r.toReply, ⟨rs, sent ++ [q], minted⟩) := by
  change (if r.on = some (firstWord q) then _ else _) = _
  rw [if_pos hon]
  cases r.toReply <;> rfl

theorem control_left {r : Scripted} {q : Statement} (hon : r.on ≠ some (firstWord q))
    (rs : List Scripted) (sent : List Statement) (minted : Nat) :
    (⟨r :: rs, sent, minted⟩ : Script).control q = (.ok (), ⟨r :: rs, sent ++ [q], minted⟩) :=
  if_neg hon

/-- A transaction statement fails exactly if its reply is an error. -/
theorem logs_control (s : Script) {q : Statement} (hq : q.isControl = true) :
    ∃ reply, s.Logs [⟨q, reply⟩] (s.control q).2 ∧ (s.control q).1 = outcome reply := by
  rcases s with ⟨_ | ⟨r, rs⟩, sent, minted⟩
  · exact ⟨.affected 0, ⟨rfl, fun qs => rfl⟩, rfl⟩
  · by_cases hon : r.on = some (firstWord q)
    · rw [control_taken hon]
      refine ⟨r.toReply, ⟨rfl, fun qs => ?_⟩, rfl⟩
      have hfor : r.isFor q = true := by simp [Scripted.isFor, hon]
      simp [transcript, hfor]
    · rw [control_left hon]
      refine ⟨.affected 0, ⟨rfl, fun qs => ?_⟩, rfl⟩
      have hfor : r.isFor q = false := by simp [Scripted.isFor, hq, hon]
      simp [transcript, hfor]

theorem logs_control_error {q : Statement} (hq : q.isControl = true) {e : SqlError}
    (h : s.control q = (.error e, s')) :
    ∃ code message, e = .database code message ∧ s.Logs [⟨q, .error code message⟩] s' := by
  obtain ⟨r, hlog, hr⟩ := s.logs_control hq
  rw [h] at hlog hr
  cases r with
  | error code message =>
    cases hr
    exact ⟨code, message, rfl, hlog⟩
  | rows => cases hr
  | affected => cases hr

theorem logs_control_ok {q : Statement} (hq : q.isControl = true) {u : Unit}
    (h : s.control q = (.ok u, s')) : ∃ r, r.isError = false ∧ s.Logs [⟨q, r⟩] s' := by
  obtain ⟨r, hlog, hr⟩ := s.logs_control hq
  rw [h] at hlog hr
  cases r with
  | error code message => cases hr
  | rows rs => exact ⟨.rows rs, rfl, hlog⟩
  | affected n => exact ⟨.affected n, rfl, hlog⟩

theorem logs_rollback (s : Script) : ∃ r, s.Logs [⟨.rollback, r⟩] s.rollback := by
  obtain ⟨r, hlog, -⟩ := s.logs_control Statement.isControl_rollback
  exact ⟨r, hlog⟩

end Script

/-! ## Errors that are reported -/

/-- Any error that the server replied with is the one that `out` ends with. Nobody waits for the
reply to a rollback. -/
def Reported {ε α : Type} (wrap : StorageError → ε) (log : List Entry)
    (out : Except (Failure ε) α) : Prop :=
  ∀ e ∈ log, e.statement ≠ .rollback → ∀ code message, e.reply = .error code message →
    out = .error (.error (wrap (.sql (.database code message))))

section Reported

variable {α β ε : Type} {wrap : StorageError → ε} {log more : List Entry} {q : Statement}
  {out : Except (Failure ε) α}

theorem reported_nil (out : Except (Failure ε) α) : Reported wrap [] out := by simp [Reported]

theorem reported_append :
    Reported wrap (log ++ more) out ↔ Reported wrap log out ∧ Reported wrap more out :=
  List.forall_mem_append

theorem reported_cons {e : Entry} :
    Reported wrap (e :: log) out ↔ Reported wrap [e] out ∧ Reported wrap log out := by
  rw [← reported_append, List.singleton_append]

theorem reported_error (q : Statement) (code : Option String) (message : String) :
    Reported wrap [⟨q, .error code message⟩]
      (.error (.error (wrap (.sql (.database code message)))) : Except (Failure ε) α) := by
  intro e he _ code' message' hreply
  cases List.mem_singleton.1 he
  cases hreply
  rfl

theorem reported_of_reply {r : Reply} (hr : r.isError = false) (q : Statement)
    (out : Except (Failure ε) α) : Reported wrap [⟨q, r⟩] out := by
  intro e he _ code message hreply
  cases List.mem_singleton.1 he
  cases hreply
  cases hr

theorem reported_rollback (r : Reply) (out : Except (Failure ε) α) :
    Reported wrap [⟨.rollback, r⟩] out := by
  intro e he hne
  cases List.mem_singleton.1 he
  exact absurd rfl hne

/-- What succeeded had no errors to report. -/
theorem Reported.of_ok {a : β} (h : Reported wrap log (.ok a)) {δ : Type}
    {wrap' : StorageError → δ} (out : Except (Failure δ) α) : Reported wrap' log out := by
  intro e he hne code message hreply
  cases h e he hne code message hreply

theorem Reported.of_error {why : Failure ε}
    (h : Reported wrap log (.error why : Except (Failure ε) α)) :
    Reported wrap log (.error why : Except (Failure ε) β) := by
  intro e he hne code message hreply
  cases h e he hne code message hreply
  rfl

theorem Reported.isError_eq_false {a : β} (h : Reported wrap log (.ok a)) {e : Entry} (he : e ∈ log)
    (hplain : e.statement.isControl = false) : e.reply.isError = false := by
  have hne : e.statement ≠ .rollback := by
    rintro hrollback
    simp [hrollback] at hplain
  rcases hreply : e.reply with rs | n | ⟨code, message⟩
  · rfl
  · rfl
  · cases h e he hne code message hreply

end Reported

/-! ## Exchanges -/

namespace Exchange

variable {α β : Type}

/-- Whatever the server says, what is sent are no transaction statements, and an error is reported
at once. -/
def Speaks (x : Exchange α) : Prop :=
  ∀ s : Script, ∃ log, s.Logs log (x s).2 ∧ (∀ e ∈ log, e.statement.isControl = false) ∧
    Reported id log (x s).1

theorem speaks_pure (a : α) : Speaks (pure a) := fun s =>
  ⟨[], .refl s, by simp, reported_nil _⟩

theorem speaks_throw (why : Failure StorageError) : Speaks (throw why : Exchange α) := fun s =>
  ⟨[], .refl s, by simp, reported_nil _⟩

theorem bind_apply (x : Exchange α) (f : α → Exchange β) (s : Script) :
    (x >>= f) s =
      match x s with
      | (.ok a, s') => f a s'
      | (.error why, s') => (.error why, s') := by
  change (match x s with | (a, s') => ExceptT.bindCont f a s') = _
  rcases x s with ⟨_ | _, _⟩ <;> rfl

theorem speaks_bind {x : Exchange α} {f : α → Exchange β} (hx : x.Speaks)
    (hf : ∀ a, (f a).Speaks) : (x >>= f).Speaks := by
  intro s
  obtain ⟨log, hlog, hplain, hreported⟩ := hx s
  rw [bind_apply]
  rcases hrun : x s with ⟨why | a, s'⟩ <;> rw [hrun] at hlog hreported
  · exact ⟨log, hlog, hplain, hreported.of_error⟩
  · obtain ⟨more, hmore, hplain', hreported'⟩ := hf a s'
    exact ⟨log ++ more, hlog.trans hmore, List.forall_mem_append.2 ⟨hplain, hplain'⟩,
      reported_append.2 ⟨hreported.of_ok _, hreported'⟩⟩

theorem speaks_mint : mint.Speaks := fun s => ⟨[], s.logs_mint, by simp, reported_nil _⟩

variable {q : Statement}

/-- Exchanges of one statement each, in which an error reply is the end. -/
def Sends (x : Statement → Exchange α) : Prop :=
  ∃ read : Reply → Except (Failure StorageError) α,
    (∀ q s, x q s = (read (s.send q).1, (s.send q).2)) ∧
    ∀ code message, read (.error code message) = .error (.error (.sql (.database code message)))

theorem sends_rows : Sends rows := by
  refine ⟨fun
    | .rows rs => .ok rs
    | .affected _ => .ok []
    | .error code message => .error (.error (.sql (.database code message))), fun q s => ?_,
    fun _ _ => rfl⟩
  rw [rows]
  rcases s.send q with ⟨_ | _ | _, s'⟩ <;> rfl

theorem sends_affected : Sends affected := by
  refine ⟨fun
    | .rows rs => .ok rs.length
    | .affected n => .ok n
    | .error code message => .error (.error (.sql (.database code message))), fun q s => ?_,
    fun _ _ => rfl⟩
  rw [affected]
  rcases s.send q with ⟨_ | _ | _, s'⟩ <;> rfl

theorem speaks_send {x : Statement → Exchange α} (hx : Sends x) (hq : q.isControl = false) :
    (x q).Speaks := by
  intro s
  obtain ⟨read, happly, herror⟩ := hx
  rw [happly]
  refine ⟨[⟨q, (s.send q).1⟩], s.logs_send hq, by simpa using hq, ?_⟩
  cases (s.send q).1 with
  | error code message =>
    rw [herror]
    exact reported_error q code message
  | rows => exact reported_of_reply rfl q _
  | affected => exact reported_of_reply rfl q _

/-! ## Calls -/

/-- Exchanges that are made of statements and what is read of the replies; with `mints`, also of new
identifiers. What is shown of these parts and of sequences holds of every call. -/
inductive Talk (mints : Bool) : {α : Type} → Exchange α → Prop
  | pure {α : Type} (a : α) : Talk mints (pure a)
  | throw {α : Type} (why : Failure StorageError) : Talk mints (throw why : Exchange α)
  | mint (h : mints = true) : Talk mints mint
  | send {α : Type} {x : Statement → Exchange α} (hx : Sends x) {q : Statement}
      (hq : q.isControl = false) : Talk mints (x q)
  | bind {α β : Type} {x : Exchange α} {f : α → Exchange β} (hx : Talk mints x)
      (hf : ∀ a, Talk mints (f a)) : Talk mints (x >>= f)

variable {mints : Bool}

theorem talk_map {x : Exchange α} (hx : Talk mints x) (f : α → β) : Talk mints (f <$> x) := by
  rw [map_eq_pure_bind]
  exact .bind hx fun a => .pure (f a)

theorem talk_ofReading (r : Reading α) : Talk mints (ofReading r) := by
  rcases r with (e | _) | a
  · exact .throw _
  · exact .throw _
  · exact .pure a

theorem talk_rows (hq : q.isControl = false) : Talk mints (rows q) := .send sends_rows hq

theorem talk_affected (hq : q.isControl = false) : Talk mints (affected q) :=
  .send sends_affected hq

theorem talk_all (read : Row → Reading α) (hq : q.isControl = false) :
    Talk mints (all read q) :=
  .bind (talk_rows hq) fun _ => talk_ofReading _

theorem talk_first? (read : Row → Reading α) (hq : q.isControl = false) :
    Talk mints (first? read q) :=
  .bind (talk_rows hq) fun
    | [] => .pure none
    | r :: _ => talk_map (talk_ofReading (read r)) some

theorem talk_first (read : Row → Reading α) (hq : q.isControl = false) :
    Talk mints (first read q) :=
  .bind (talk_rows hq) fun
    | [] => .throw _
    | r :: _ => talk_ofReading (read r)

theorem talk_mustAffect (what : String) (hq : q.isControl = false) :
    Talk mints (mustAffect what q) := by
  refine .bind (talk_affected hq) fun n => ?_
  split
  · exact .throw _
  · exact .pure ()

/-- Whether the call takes a new identifier. -/
def mintsFor : Call → Bool
  | .upsertLike .. | .createNotification .. => true
  | _ => false

theorem talk_perform (c : Call) : Talk (mintsFor c) (perform c) := by
  cases c with
  | upsertLike arrow direction now =>
    exact .bind (.mint rfl) fun id => talk_first readLike rfl
  | findMutualLike a b =>
    exact .bind (talk_first _ rfl) fun live => .pure _
  | softDeleteLike arrow now => exact .bind (talk_affected rfl) fun n => .pure _
  | createMatchIfAbsent id a b now =>
    refine .bind (talk_first? readMatch rfl) fun
      | some m => .pure _
      | none => .bind (talk_first? readMatch rfl) fun
        | some m => .pure _
        | none => .throw _
  | recordBlock arrow now => exact .bind (talk_affected rfl) fun n => .pure _
  | removeBlock arrow => exact .bind (talk_affected rfl) fun n => .pure _
  | insertRequest request => exact .bind (talk_affected rfl) fun n => .pure _
  | countRequestsSince sender since =>
    refine .bind (talk_first _ rfl) fun count => ?_
    split
    · exact .pure _
    · exact .throw _
  | getOrCreateConversation a b now =>
    exact .bind (talk_affected rfl) fun n =>
      .bind (talk_first? readConversation rfl) fun
        | some c => .pure _
        | none => .throw _
  | createNotification recipient type payload now =>
    exact .bind (.mint rfl) fun id => .bind (talk_affected rfl) fun n => .pure _
  | updateMatchState updated => exact talk_mustAffect _ rfl
  | updateRequestStatus id status now => exact talk_mustAffect _ rfl
  | archiveConversation id reason now => exact talk_mustAffect _ rfl
  | setVisibility id user visible => exact talk_mustAffect _ rfl
  | isBlocked a b => exact talk_first _ rfl
  | getLike | latestLikeBy | getMatch | getRequest | findPendingRequest | getConversation =>
    exact talk_first? _ rfl
  | matchesFor | blockedBy | pendingRequestsOn | pendingRequestsFor | notificationsFor =>
    exact talk_all _ rfl

theorem Talk.speaks {x : Exchange α} (h : Talk mints x) : x.Speaks := by
  induction h with
  | pure a => exact speaks_pure a
  | throw why => exact speaks_throw why
  | mint => exact speaks_mint
  | send hx hq => exact speaks_send hx hq
  | bind _ _ ihx ihf => exact speaks_bind ihx ihf

theorem speaks_perform (c : Call) : (perform c).Speaks := (talk_perform c).speaks

end Exchange

end Courtship.Sql
