import Courtship.Proofs.Sql.Transcript
import Mathlib.Data.List.Forall2

/-! Servers that differ in what must not matter: the text of an error, its code within its class,
and which identifiers are the new ones. A call that is made to both of them sends the same, and
what it comes to differs in no more than that. -/

namespace Courtship

variable {n n' : Nat} {α β γ δ ε : Type}

/-! ## Results -/

inductive Failure.Alike (E : ε → ε → Prop) : Failure ε → Failure ε → Prop
  | error {e e' : ε} (h : E e e') : Alike E (error e) (error e')
  | overflow : Alike E overflow overflow

inductive ResultsAlike (E : ε → ε → Prop) (R : α → β → Prop) : Except ε α → Except ε β → Prop
  | ok {a : α} {b : β} (h : R a b) : ResultsAlike E R (.ok a) (.ok b)
  | error {e e' : ε} (h : E e e') : ResultsAlike E R (.error e) (.error e')

theorem Failure.Alike.refl {E : ε → ε → Prop} (h : ∀ e, E e e) (why : Failure ε) :
    why.Alike E why := by
  cases why with
  | error e => exact .error (h e)
  | overflow => exact .overflow

/-! ## Identifiers -/

/-- The same identifier, or the same place in two supplies that stood at `n` and at `n'`. -/
inductive Uuid.SameFrom (n n' : Nat) : Uuid → Uuid → Prop
  | known (id : Uuid) : SameFrom n n' id id
  | new (i : Nat) : SameFrom n n' (.fresh (n + i)) (.fresh (n' + i))

theorem Uuid.SameFrom.eq {id id' : Uuid} (h : id.SameFrom n n id') : id = id' := by
  cases h <;> rfl

structure FriendRequest.SameFrom (n n' : Nat) (r r' : FriendRequest) : Prop where
  id : r.id.SameFrom n n' r'.id
  rest : r' = { r with id := r'.id }

theorem FriendRequest.SameFrom.eq {r r' : FriendRequest} (h : r.SameFrom n n r') : r = r' := by
  rw [h.rest, ← h.id.eq]

inductive NotificationPayload.SameFrom (n n' : Nat) :
    NotificationPayload → NotificationPayload → Prop
  | known (p : NotificationPayload) : SameFrom n n' p p
  | friendRequest {id id' : Uuid} (h : id.SameFrom n n' id') (pair : PairId) (sender : UserId)
      (message : String) :
      SameFrom n n' (.friendRequest id pair sender message) (.friendRequest id' pair sender message)

theorem NotificationPayload.SameFrom.eq {p p' : NotificationPayload} (h : p.SameFrom n n p') :
    p = p' := by
  cases h with
  | known => rfl
  | friendRequest h => rw [h.eq]

namespace Sql

/-! ## Statements -/

inductive Param.SameFrom (n n' : Nat) : Param → Param → Prop
  | known (p : Param) : SameFrom n n' p p
  | uuid {id id' : Uuid} (h : id.SameFrom n n' id') : SameFrom n n' (.uuid id) (.uuid id')
  | payload {p p' : NotificationPayload} (h : p.SameFrom n n' p') :
      SameFrom n n' (.json (toJson p)) (.json (toJson p'))

instance : Std.Refl (Param.SameFrom n n') := ⟨.known⟩

theorem Param.SameFrom.eq {p p' : Param} (h : p.SameFrom n n p') : p = p' := by
  cases h with
  | known => rfl
  | uuid h => rw [h.eq]
  | payload h => rw [h.eq]

/-- The same statement, but for the new identifiers among its parameters. -/
structure Statement.SameFrom (n n' : Nat) (q q' : Statement) : Prop where
  text : q.text = q'.text
  params : List.Forall₂ (Param.SameFrom n n') q.params q'.params

namespace Statement

theorem SameFrom.refl (q : Statement) : q.SameFrom n n' q := ⟨rfl, List.forall₂_refl _⟩

theorem SameFrom.eq {q q' : Statement} (h : q.SameFrom n n q') : q = q' := by
  obtain ⟨text, params⟩ := q
  obtain ⟨text', params'⟩ := q'
  obtain ⟨rfl, hparams⟩ := h
  obtain rfl : params = params' := List.forall₂_eq_eq_eq ▸ hparams.imp fun _ _ hp => hp.eq
  rfl

theorem sameFrom_upsertLike {id id' : Uuid} (h : id.SameFrom n n' id') (arrow : Arrow)
    (direction : Direction) (now : Instant) :
    (upsertLike id arrow direction now).SameFrom n n' (upsertLike id' arrow direction now) :=
  ⟨rfl, .cons (.uuid h) (List.forall₂_refl _)⟩

theorem sameFrom_insertRequest {r r' : FriendRequest} (h : r.SameFrom n n' r') :
    (insertRequest r).SameFrom n n' (insertRequest r') := by
  rw [h.rest]
  exact ⟨rfl, .cons (.uuid h.id) (List.forall₂_refl _)⟩

theorem sameFrom_insertNotification {id id' : Uuid} (h : id.SameFrom n n' id')
    {p p' : NotificationPayload} (hp : p.SameFrom n n' p') (recipient : UserId)
    (type : NotificationType) (now : Instant) :
    (insertNotification (.new id recipient type p now)).SameFrom n n'
      (insertNotification (.new id' recipient type p' now)) :=
  ⟨rfl, .cons (.uuid h) (.cons (.known _) (.cons (.known _) (.cons (.payload hp)
    (List.forall₂_refl _))))⟩

end Statement

/-! ## Replies -/

/-- The class of a state code: whether another transaction was in the way. -/
def contends : Option String → Bool
  | some code => ["23505", "40001", "40P01"].contains code
  | none => false

theorem isConflict_database (code : Option String) (message : String) :
    (SqlError.database code message).isConflict = contends code := by
  cases code with
  | none => rfl
  | some code => simp [SqlError.isConflict, contends, Bool.or_assoc]

/-- The same reply, or two errors of one class. -/
inductive Reply.Alike : Reply → Reply → Prop
  | same (r : Reply) : Alike r r
  | error {code code' : Option String} (h : contends code = contends code')
      (message message' : String) : Alike (error code message) (error code' message')

structure Scripted.Alike (r r' : Scripted) : Prop where
  on_eq : r.on = r'.on
  reply : r.toReply.Alike r'.toReply

/-- Scripts with the same replies but for the errors, which are of the same classes, after the same
statements. Their supplies of identifiers stood at `n` and at `n'`. -/
structure Script.Alike (n n' : Nat) (s s' : Script) : Prop where
  replies : List.Forall₂ Scripted.Alike s.replies s'.replies
  sent : List.Forall₂ (Statement.SameFrom n n') s.sent s'.sent
  minted : ∃ i, s.minted = n + i ∧ s'.minted = n' + i

/-- What is known of an error outside of the storage. -/
def SameClass (e e' : StorageError) : Prop := e.isConflict = e'.isConflict

theorem sameClass_database {code code' : Option String} (h : contends code = contends code')
    (message message' : String) :
    SameClass (.sql (.database code message)) (.sql (.database code' message')) := by
  rw [SameClass, StorageError.isConflict, StorageError.isConflict, isConflict_database,
    isConflict_database, h]

theorem sameClass_refl (e : StorageError) : SameClass e e := rfl

/-- What two executions came to, each with the script that it left. -/
inductive OutcomesAlike (n n' : Nat) (E : ε → ε → Prop) (R : α → β → Prop) :
    Except ε α × Script → Except ε β × Script → Prop
  | ok {a : α} {b : β} {s s' : Script} (h : R a b) (hs : s.Alike n n' s') :
      OutcomesAlike n n' E R (.ok a, s) (.ok b, s')
  | error {e e' : ε} {s s' : Script} (h : E e e') (hs : s.Alike n n' s') :
      OutcomesAlike n n' E R (.error e, s) (.error e', s')

theorem OutcomesAlike.script {E : ε → ε → Prop} {R : α → β → Prop} {out : Except ε α × Script}
    {out' : Except ε β × Script} (h : OutcomesAlike n n' E R out out') :
    out.2.Alike n n' out'.2 := by
  cases h <;> assumption

theorem OutcomesAlike.result {E : ε → ε → Prop} {R : α → β → Prop} {out : Except ε α × Script}
    {out' : Except ε β × Script} (h : OutcomesAlike n n' E R out out') :
    ResultsAlike E R out.1 out'.1 := by
  cases h with
  | ok h => exact .ok h
  | error h => exact .error h

/-- From supplies at the same place the same was sent. -/
theorem Script.Alike.sent_eq {s s' : Script} (h : s.Alike n n s') : s.sent = s'.sent :=
  List.forall₂_eq_eq_eq ▸ h.sent.imp fun _ _ hq => hq.eq

namespace Script.Alike

variable {s s' : Script} (h : s.Alike n n' s')

include h

theorem record {q q' : Statement} (hq : q.SameFrom n n' q') :
    (s.record q).Alike n n' (s'.record q') where
  replies := h.replies
  sent := List.rel_append h.sent (.cons hq .nil)
  minted := h.minted

theorem mint : s.mint.1.SameFrom n n' s'.mint.1 ∧ s.mint.2.Alike n n' s'.mint.2 := by
  obtain ⟨i, hi, hi'⟩ := h.minted
  refine ⟨?_, h.replies, h.sent, i + 1, congrArg Nat.succ hi, congrArg Nat.succ hi'⟩
  simp only [Script.mint, hi, hi']
  exact .new i

theorem send {q q' : Statement} (hq : q.SameFrom n n' q') :
    (s.send q).1.Alike (s'.send q').1 ∧ (s.send q).2.Alike n n' (s'.send q').2 := by
  have hrecord := h.record hq
  rcases s with ⟨_ | ⟨r, rs⟩, sent, minted⟩ <;> rcases s' with ⟨_ | ⟨r', rs'⟩, sent', minted'⟩ <;>
    rcases hrecord with ⟨_ | ⟨hr, hrs⟩, hsent, hminted⟩
  · exact ⟨.same _, .nil, hsent, hminted⟩
  · exact ⟨hr.reply, hrs, hsent, hminted⟩

theorem control (q : Statement) :
    OutcomesAlike n n' (fun e e' => e.isConflict = e'.isConflict) Eq (s.control q)
      (s'.control q) := by
  have hrecord := h.record (.refl q)
  rcases s with ⟨_ | ⟨r, rs⟩, sent, minted⟩ <;> rcases s' with ⟨_ | ⟨r', rs'⟩, sent', minted'⟩ <;>
    rcases hrecord with ⟨_ | ⟨hr, hrs⟩, hsent, hminted⟩
  · exact .ok rfl ⟨.nil, hsent, hminted⟩
  · by_cases hon : r.on = some (firstWord q)
    · rw [control_taken hon, control_taken (hr.on_eq ▸ hon)]
      obtain ⟨r, on⟩ := r
      obtain ⟨r', on'⟩ := r'
      obtain ⟨-, _ | hcode⟩ := hr
      · cases r with
        | error code message => exact .error rfl ⟨hrs, hsent, hminted⟩
        | _ => exact .ok rfl ⟨hrs, hsent, hminted⟩
      · refine .error ?_ ⟨hrs, hsent, hminted⟩
        rw [isConflict_database, isConflict_database, hcode]
    · rw [control_left hon, control_left (hr.on_eq ▸ hon)]
      exact .ok rfl ⟨.cons hr hrs, hsent, hminted⟩

theorem rollback : s.rollback.Alike n n' s'.rollback := (h.control .rollback).script

theorem start :
    ResultsAlike (fun e e' => SameClass e.1 e'.1 ∧ e.2.Alike n n' e'.2) (Script.Alike n n')
      s.start s'.start := by
  have hbegin := h.control .begin
  rw [Script.start, Script.start]
  generalize s.control .begin = out, s'.control .begin = out' at hbegin ⊢
  rcases hbegin with @⟨_, _, s₁, s₁', _, hleft⟩ | ⟨he, hleft⟩
  · have hserial := hleft.control .serializable
    dsimp only
    generalize s₁.control .serializable = out, s₁'.control .serializable = out' at hserial ⊢
    rcases hserial with ⟨_, hleft⟩ | ⟨he, hleft⟩
    · exact .ok hleft
    · exact .error ⟨he, hleft.rollback⟩
  · exact .error ⟨he, hleft⟩

theorem commit : OutcomesAlike n n' SameClass Eq s.commit s'.commit := by
  have hcommit := h.control .commit
  rw [Script.commit, Script.commit]
  generalize s.control .commit = out, s'.control .commit = out' at hcommit ⊢
  rcases hcommit with ⟨_, hleft⟩ | ⟨he, hleft⟩
  · exact .ok rfl hleft
  · exact .error he hleft.rollback

end Script.Alike

/-! ## Exchanges -/

namespace Exchange

/-- What the exchanges come to on alike scripts is alike, with values in `R`. -/
def Alike (n n' : Nat) (R : α → β → Prop) (x : Exchange α) (y : Exchange β) : Prop :=
  ∀ ⦃s s' : Script⦄, s.Alike n n' s' →
    OutcomesAlike n n' (Failure.Alike SameClass) R (x s) (y s')

variable {R : α → β → Prop}

theorem alike_pure {a : α} {b : β} (h : R a b) : Alike n n' R (pure a) (pure b) :=
  fun _ _ hs => .ok h hs

theorem alike_throw (R : α → β → Prop) (why : Failure StorageError) :
    Alike n n' R (throw why) (throw why) :=
  fun _ _ hs => .error (.refl sameClass_refl why) hs

theorem Alike.bind {S : γ → δ → Prop} {x : Exchange α} {y : Exchange β} (hx : Alike n n' R x y)
    {f : α → Exchange γ} {g : β → Exchange δ} (hf : ∀ a b, R a b → Alike n n' S (f a) (g b)) :
    Alike n n' S (x >>= f) (y >>= g) := by
  intro s s' hs
  have hout := hx hs
  rw [bind_apply, bind_apply]
  generalize x s = out, y s' = out' at hout ⊢
  rcases hout with ⟨h, hleft⟩ | ⟨h, hleft⟩
  · exact hf _ _ h hleft
  · exact .error h hleft

theorem alike_mint : Alike n n' (Uuid.SameFrom n n') mint mint := fun _ _ hs =>
  .ok hs.mint.1 hs.mint.2

variable {q q' : Statement}

theorem alike_send {x : Statement → Exchange α} (hx : Sends x) (hq : q.SameFrom n n' q') :
    Alike n n' Eq (x q) (x q') := by
  intro s s' hs
  obtain ⟨read, happly, herror⟩ := hx
  obtain ⟨hreply, hleft⟩ := hs.send hq
  rw [happly, happly]
  generalize (s.send q).1 = r, (s'.send q').1 = r' at hreply ⊢
  rcases hreply with _ | hcode
  · rcases read r with why | a
    · exact .error (.refl sameClass_refl why) hleft
    · exact .ok rfl hleft
  · rw [herror, herror]
    exact .error (.error (sameClass_database hcode _ _)) hleft

/-! ### Calls -/

/-- Where no identifier is made, the same is sent, and the same is read of the replies. -/
theorem Talk.alike {x : Exchange α} (h : Talk false x) : Alike n n' Eq x x := by
  induction h with
  | pure a => exact alike_pure rfl
  | throw why => exact alike_throw Eq why
  | mint h => cases h
  | send hx _ => exact alike_send hx (.refl _)
  | bind _ _ ihx ihf =>
    refine ihx.bind ?_
    rintro a _ rfl
    exact ihf a

theorem alike_perform {c : Call} (hc : mintsFor c = false) :
    Alike n n' Eq (perform c) (perform c) := by
  have htalk := talk_perform c
  rw [hc] at htalk
  exact htalk.alike

/-- The like that is stored comes with the reply. -/
theorem alike_upsertLike (arrow : Arrow) (direction : Direction) (now : Instant) :
    Alike n n' Eq (perform (.upsertLike arrow direction now))
      (perform (.upsertLike arrow direction now)) := by
  refine alike_mint.bind fun id id' hid => ?_
  refine (alike_send sends_rows (Statement.sameFrom_upsertLike hid arrow direction now)).bind ?_
  rintro rs _ rfl
  cases rs with
  | nil => exact alike_throw Eq _
  | cons r rs => exact (talk_ofReading (readLike r)).alike

theorem alike_insertRequest {r r' : FriendRequest} (hr : r.SameFrom n n' r') :
    Alike n n' Eq (perform (.insertRequest r)) (perform (.insertRequest r')) :=
  (alike_send sends_affected (Statement.sameFrom_insertRequest hr)).bind fun _ _ _ => alike_pure rfl

/-- The notification is not read back: it has its new identifier. -/
theorem alike_createNotification {p p' : NotificationPayload} (hp : p.SameFrom n n' p')
    (recipient : UserId) (type : NotificationType) (now : Instant) :
    Alike n n' (fun _ _ => True) (perform (.createNotification recipient type p now))
      (perform (.createNotification recipient type p' now)) := by
  refine alike_mint.bind fun id id' hid => ?_
  have hsent := Statement.sameFrom_insertNotification hid hp recipient type now
  exact (alike_send sends_affected hsent).bind fun _ _ _ => alike_pure trivial

end Exchange

end Sql

end Courtship
