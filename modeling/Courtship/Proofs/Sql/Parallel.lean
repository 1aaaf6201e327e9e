import Courtship.Proofs.Sql.Alike
import Courtship.Service

/-! Operations on alike servers. An operation reads the replies and nothing else of a server, so two
executions of it take the same way. They part where one of them gets an error, and there the other
gets one of the same class. -/

namespace Courtship

open Sql

variable {n n' : Nat} {α β γ δ : Type} {R : α → β → Prop}

/-! ## Errors -/

/-- The same error, or two errors of the storage of one class. -/
inductive EngineError.Alike : EngineError → EngineError → Prop
  | same (e : EngineError) : Alike e e
  | storageConflict (e e' : StorageError) : Alike (.storageConflict e) (.storageConflict e')
  | storage (e e' : StorageError) : Alike (.storage e) (.storage e')

theorem EngineError.alike_ofStorage {e e' : StorageError} (h : SameClass e e') :
    (ofStorage e).Alike (ofStorage e') := by
  rw [ofStorage, ofStorage, ← show e.isConflict = e'.isConflict from h]
  split
  · exact .storageConflict e e'
  · exact .storage e e'

theorem Failure.Alike.ofStorage {why why' : Failure StorageError} (h : why.Alike SameClass why') :
    why.ofStorage.Alike EngineError.Alike why'.ofStorage := by
  cases h with
  | error h => exact .error (EngineError.alike_ofStorage h)
  | overflow => exact .overflow

/-- Executions of an operation, or of a part of it, that come to alike results. -/
abbrev RunsAlike (n n' : Nat) (R : α → β → Prop) :
    Except (Failure EngineError) α × Script → Except (Failure EngineError) β × Script → Prop :=
  OutcomesAlike n n' (Failure.Alike EngineError.Alike) R

/-! ## Work -/

inductive Ending.Alike (R : α → β → Prop) : Ending α → Ending β → Prop
  | commit {a : α} {b : β} (h : R a b) : Alike R (.commit a) (.commit b)
  | drop {a : α} {b : β} (h : R a b) : Alike R (.drop a) (.drop b)

namespace Work

/-- The same work, but for its new identifiers. A call and its counterpart come to replies in some
relation, and the rest is the same for all of those. -/
inductive Parallel (n n' : Nat) (R : α → β → Prop) : Work α → Work β → Prop
  | done {a : α} {b : β} (h : R a b) : Parallel n n' R (.done a) (.done b)
  | fail (why : Failure EngineError) : Parallel n n' R (.fail why) (.fail why)
  | newId {next : Uuid → Work α} {next' : Uuid → Work β}
      (h : ∀ id id', id.SameFrom n n' id' → Parallel n n' R (next id) (next' id')) :
      Parallel n n' R (.newId next) (.newId next')
  | call {c c' : Call} {S : c.Reply → c'.Reply → Prop}
      (hc : (Exchange.perform c).Alike n n' S (Exchange.perform c'))
      {next : c.Reply → Work α} {next' : c'.Reply → Work β}
      (h : ∀ r r', S r r' → Parallel n n' R (next r) (next' r')) :
      Parallel n n' R (.call c next) (.call c' next')

namespace Parallel

variable {w : Work α} {w' : Work β}

theorem bind {S : γ → δ → Prop} (hw : w.Parallel n n' R w') {f : α → Work γ} {f' : β → Work δ}
    (hf : ∀ a b, R a b → (f a).Parallel n n' S (f' b)) :
    (w.bind f).Parallel n n' S (w'.bind f') := by
  induction hw with
  | done h => exact hf _ _ h
  | fail why => exact .fail why
  | newId _ ih => exact .newId ih
  | call hc _ ih => exact .call hc ih

/-- What comes after work that is the same on both sides. -/
theorem after {S : γ → δ → Prop} (hw : w.Parallel n n' Eq w) {f : α → Work γ} {f' : α → Work δ}
    (hf : ∀ a, (f a).Parallel n n' S (f' a)) : (w.bind f).Parallel n n' S (w.bind f') := by
  refine hw.bind ?_
  rintro a _ rfl
  exact hf a

theorem perform (hw : w.Parallel n n' R w') {s s' : Script} (hs : s.Alike n n' s') :
    RunsAlike n n' R (w.perform s) (w'.perform s') := by
  induction hw generalizing s s' with
  | done h => exact .ok h hs
  | fail why => exact .error (.refl .same why) hs
  | newId _ ih => exact ih _ _ hs.mint.1 hs.mint.2
  | @call c c' S hc next next' _ ih =>
    have hout : OutcomesAlike n n' (Failure.Alike SameClass) S ((Exchange.perform c).run s)
      ((Exchange.perform c').run s') := hc hs
    simp only [Work.perform, OpenUnit.perform]
    generalize (Exchange.perform c).run s = out, (Exchange.perform c').run s' = out' at hout ⊢
    rcases hout with ⟨h, hleft⟩ | ⟨h, hleft⟩
    · exact ih _ _ h hleft
    · exact .error h.ofStorage hleft

/-- Both units are opened, or neither is, and the same holds of their commits. -/
theorem inUnit {w : Work (Ending α)} {w' : Work (Ending β)}
    (hw : w.Parallel n n' (Ending.Alike R) w') {s s' : Script} (hs : s.Alike n n' s') :
    RunsAlike n n' R (w.inUnit s) (w'.inUnit s') := by
  have hstart := hs.start
  simp only [Work.inUnit, Storage.start, Storage.discard, Storage.commit]
  generalize s.start = opened, s'.start = opened' at hstart ⊢
  rcases hstart with @⟨u, u', hu⟩ | ⟨he, hleft⟩
  · have hout := hw.perform hu
    dsimp only
    generalize w.perform u = out, w'.perform u' = out' at hout ⊢
    rcases hout with @⟨_, _, t, t', h | h, hleft⟩ | ⟨h, hleft⟩
    · have hcommit := hleft.commit
      dsimp only
      generalize t.commit = closed, t'.commit = closed' at hcommit ⊢
      rcases hcommit with ⟨_, hleft⟩ | ⟨he, hleft⟩
      · exact .ok h hleft
      · exact .error (.error (EngineError.alike_ofStorage he)) hleft
    · exact .ok h hleft.rollback
    · exact .error h hleft.rollback
  · exact .error (.error (EngineError.alike_ofStorage he)) hleft

theorem look (hw : w.Parallel n n' R w') {s s' : Script} (hs : s.Alike n n' s') :
    RunsAlike n n' R (w.look s) (w'.look s') :=
  inUnit (hw.bind fun _ _ h => .done (.drop h)) hs

end Parallel

end Work

/-! ## Operations -/

inductive Plan.Parallel (n n' : Nat) (R : α → β → Prop) : Plan α → Plan β → Prop
  | answer {result : Except (Failure EngineError) α} {result' : Except (Failure EngineError) β}
      (h : ResultsAlike (Failure.Alike EngineError.Alike) R result result') :
      Parallel n n' R (.answer result) (.answer result')
  | locked (a b : UserId) (retries : Nat) {body : Readings → Work (Ending α)}
      {body' : Readings → Work (Ending β)}
      (h : ∀ readings, (body readings).Parallel n n' (Ending.Alike R) (body' readings)) :
      Parallel n n' R (.locked a b retries body) (.locked a b retries body')

inductive Operation.Parallel (n n' : Nat) (R : α → β → Prop) : Operation α → Operation β → Prop
  | plain {plan : Plan α} {plan' : Plan β} (h : plan.Parallel n n' R plan') :
      Parallel n n' R (.plain plan) (.plain plan')
  | reading {look : Work (Readings → Plan α)} {look' : Work (Readings → Plan β)}
      (h : look.Parallel n n' (fun f f' => ∀ readings, (f readings).Parallel n n' R (f' readings))
        look') :
      Parallel n n' R (.reading look) (.reading look')

theorem Plan.parallel_reject (e : EngineError) :
    (Plan.reject e : Plan α).Parallel n n' R (Plan.reject e : Plan β) :=
  .answer (.error (.error (.same e)))

/-- A conflict is tried again on both sides, whatever its cause. -/
theorem Plan.attempts_alike {body : Readings → Work (Ending α)}
    {body' : Readings → Work (Ending β)}
    (h : ∀ readings, (body readings).Parallel n n' (Ending.Alike R) (body' readings))
    (retries : Nat) (readings : Readings) {s s' : Script} (hs : s.Alike n n' s') :
    RunsAlike n n' R (attempts body retries readings s) (attempts body' retries readings s') := by
  induction retries generalizing readings s s' with
  | zero => exact (h readings).inUnit hs
  | succ retries ih =>
    have hout := (h readings).inUnit hs
    rw [attempts, attempts]
    generalize (body readings).inUnit s = out, (body' readings).inUnit s' = out' at hout ⊢
    rcases hout with ⟨h, hleft⟩ | ⟨@⟨e, e', h⟩ | _, hleft⟩
    · exact .ok h hleft
    · cases h with
      | same =>
        cases e with
        | storageConflict source => exact ih readings.later hleft
        | _ => exact .error (.error (.same _)) hleft
      | storageConflict => exact ih readings.later hleft
      | storage => exact .error (.error (.storage _ _)) hleft
    · exact .error .overflow hleft

theorem Plan.Parallel.finish {plan : Plan α} {plan' : Plan β} (h : plan.Parallel n n' R plan')
    (readings : Readings) {s s' : Script} (hs : s.Alike n n' s') :
    RunsAlike n n' R (plan.finish readings s) (plan'.finish readings s') := by
  cases h with
  | answer h =>
    rcases h with h | h
    · exact .ok h hs
    · exact .error h hs
  | locked a b retries h => exact Plan.attempts_alike h retries readings hs

theorem Operation.Parallel.plan {op : Operation α} {op' : Operation β}
    (h : op.Parallel n n' R op') (readings : Readings) {s s' : Script} (hs : s.Alike n n' s') :
    (op.plan readings s).1.Parallel n n' R (op'.plan readings s').1 ∧
      (op.plan readings s).2.Alike n n' (op'.plan readings s').2 := by
  cases h with
  | plain h => exact ⟨h, hs⟩
  | @reading look look' h =>
    have hout := h.look hs
    rw [Operation.plan, Operation.plan]
    generalize look.look s = out, look'.look s' = out' at hout ⊢
    rcases hout with ⟨h, hleft⟩ | ⟨h, hleft⟩
    · exact ⟨h readings, hleft⟩
    · exact ⟨.answer (.error h), hleft⟩

/-! ## Commands and questions -/

namespace Operation

open Work

theorem parallel_run {c : Call} (hc : Exchange.mintsFor c = false) :
    (Work.run c).Parallel n n' Eq (Work.run c) :=
  .call (Exchange.alike_perform hc) fun _ _ h => .done h

theorem parallel_reject (e : EngineError) :
    (Work.reject e : Work α).Parallel n n' R (Work.reject e : Work β) := .fail _

theorem parallel_orReject (e : EngineError) (found : Option α) :
    (Work.orReject e found).Parallel n n' Eq (Work.orReject e found) := by
  cases found with
  | none => exact parallel_reject e
  | some a => exact .done rfl

theorem parallel_ofExcept (result : Except (Failure EngineError) α) :
    (Work.ofExcept result).Parallel n n' Eq (Work.ofExcept result) := by
  cases result with
  | error why => exact .fail why
  | ok a => exact .done rfl

theorem parallel_commit (a : α) :
    (Work.done (Ending.commit a)).Parallel n n' (Ending.Alike Eq) (.done (.commit a)) :=
  .done (.commit rfl)

/-! ### Endings -/

theorem parallel_expireRequests (now : Instant) (requests : List FriendRequest) :
    (expireRequests now requests).Parallel n n' Eq (expireRequests now requests) := by
  induction requests with
  | nil => exact .done rfl
  | cons r rs ih =>
    exact (parallel_run (c := .updateRequestStatus r.id .expired now) rfl).after fun _ => ih

theorem parallel_expirePending (matchId : PairId) (now : Instant) :
    (expirePending matchId now).Parallel n n' Eq (expirePending matchId now) :=
  (parallel_run (c := .pendingRequestsOn matchId) rfl).after fun requests =>
    parallel_expireRequests now requests

theorem parallel_archiveOnce (c : Conversation) (reason : ArchiveReason) (now : Instant) :
    (archiveOnce c reason now).Parallel n n' Eq (archiveOnce c reason now) := by
  unfold archiveOnce
  split
  · exact .done rfl
  · exact parallel_run (c := .archiveConversation c.id reason now) rfl

theorem parallel_archiveOf (a b : UserId) (reason : ArchiveReason) (now : Instant) :
    (archiveOf a b reason now).Parallel n n' Eq (archiveOf a b reason now) :=
  (parallel_run rfl).after fun c => parallel_archiveOnce c reason now

/-- What is told may name a new request. The notification has a new identifier of its own. -/
theorem parallel_notify {p p' : NotificationPayload} (hp : p.SameFrom n n' p') (recipient : UserId)
    (now : Instant) : (notify recipient p now).Parallel n n' Eq (notify recipient p' now) := by
  have htype : p'.type = p.type := by
    cases hp <;> rfl
  rw [notify, notify, htype]
  exact .call (Exchange.alike_createNotification hp recipient p.type now) fun _ _ _ => .done rfl

theorem parallel_leave (arrow : Arrow) (target : MatchState) (reason : ArchiveReason)
    (now : Instant) :
    (leave arrow target reason now).Parallel n n' Eq (leave arrow target reason now) := by
  refine (parallel_run rfl).after fun found => (parallel_orReject _ found).after fun current => ?_
  split
  · exact parallel_reject _
  · exact .done rfl
  · exact (parallel_run rfl).after fun _ => (parallel_expirePending _ now).after fun _ =>
      (parallel_archiveOf _ _ reason now).after fun _ => .done rfl

theorem parallel_gracefulExit (arrow : Arrow) :
    (gracefulExit arrow).Parallel n n' Eq (gracefulExit arrow) := by
  refine .plain (.locked _ _ 0 fun readings => (parallel_leave _ _ _ _).after fun transition => ?_)
  cases transition with
  | unchanged m => exact .done (.drop rfl)
  | changed m => exact (parallel_notify (.known _) _ _).after fun _ => parallel_commit m

theorem parallel_unmatch (arrow : Arrow) :
    (unmatch arrow).Parallel n n' Eq (unmatch arrow) :=
  .plain (.locked _ _ 0 fun _ => (parallel_leave _ _ _ _).after fun _ => parallel_commit _)

theorem parallel_blockMatch (arrow : Arrow) (now : Instant) :
    (blockMatch arrow now).Parallel n n' Eq (blockMatch arrow now) := by
  refine (parallel_run rfl).after fun found => ?_
  cases found with
  | none => exact .done rfl
  | some current =>
    dsimp only
    split
    · exact (parallel_run rfl).after fun _ => .done rfl
    · exact .done rfl

theorem parallel_conversationToHide (arrow : Arrow) (hasMatch : Bool) (now : Instant) :
    (conversationToHide arrow hasMatch now).Parallel n n' Eq
      (conversationToHide arrow hasMatch now) := by
  refine (parallel_run rfl).after fun found => ?_
  cases found with
  | some c => exact .done rfl
  | none =>
    dsimp only
    split
    · exact (parallel_run rfl).after fun c => .done rfl
    · exact .done rfl

/-- The end of a block: what is done to the conversation that was found. -/
def hideWork (arrow : Arrow) (now : Instant) (result : Option Match) :
    Option Conversation → Work (Ending (Option Match))
  | some c => (archiveOnce c .block now).bind fun _ =>
    (Work.run (.setVisibility c.id arrow.actor false)).bind fun _ => .done (.commit result)
  | none => .done (.commit result)

theorem parallel_hideWork (arrow : Arrow) (now : Instant) (result : Option Match)
    (found : Option Conversation) :
    (hideWork arrow now result found).Parallel n n' (Ending.Alike Eq)
      (hideWork arrow now result found) := by
  cases found with
  | none => exact parallel_commit result
  | some c =>
    exact (parallel_archiveOnce c _ now).after fun _ => (parallel_run rfl).after fun _ =>
      parallel_commit result

theorem parallel_block (arrow : Arrow) : (block arrow).Parallel n n' Eq (block arrow) := by
  unfold block
  split
  · exact .plain (Plan.parallel_reject _)
  refine .plain (.locked _ _ 0 fun readings => ?_)
  refine (parallel_run rfl).after fun _ => (parallel_blockMatch arrow _).after fun result => ?_
  dsimp only
  split
  · exact (parallel_expirePending _ _).after fun _ =>
      (parallel_conversationToHide arrow _ _).after fun found =>
        parallel_hideWork arrow _ result found
  · exact (parallel_conversationToHide arrow _ _).after fun found =>
      parallel_hideWork arrow _ result found

theorem parallel_unblock (arrow : Arrow) : (unblock arrow).Parallel n n' Eq (unblock arrow) := by
  unfold unblock
  split
  · exact .plain (Plan.parallel_reject _)
  · exact .plain (.locked _ _ 0 fun _ => (parallel_run rfl).after fun _ => parallel_commit _)

/-! ### Swipes -/

theorem parallel_requireSwipeable (arrow : Arrow) :
    (requireSwipeable arrow).Parallel n n' Eq (requireSwipeable arrow) := by
  refine (parallel_run rfl).after fun barred => ?_
  split
  · exact parallel_reject _
  refine (parallel_run rfl).after fun found => ?_
  cases found with
  | none => exact .done rfl
  | some m =>
    dsimp only
    split
    · exact parallel_reject _
    split
    · exact parallel_reject _
    · exact .done rfl

theorem parallel_matchOnMutualLike (arrow : Arrow) (direction : Direction) (now : Instant) :
    (matchOnMutualLike arrow direction now).Parallel n n' Eq
      (matchOnMutualLike arrow direction now) := by
  unfold matchOnMutualLike
  split
  · refine (parallel_run rfl).after fun both => ?_
    split
    · exact (parallel_run rfl).after fun created => (parallel_run rfl).after fun _ => .done rfl
    · exact .done rfl
  · exact .done rfl

theorem parallel_swipe (settings : MatchingSettings) (arrow : Arrow) (direction : Direction) :
    (swipe settings arrow direction).Parallel n n' Eq (swipe settings arrow direction) := by
  unfold swipe
  split
  · exact .plain (Plan.parallel_reject _)
  refine .plain (.locked _ _ _ fun readings => ?_)
  refine (parallel_requireSwipeable arrow).after fun _ => ?_
  refine .call (Exchange.alike_upsertLike arrow direction _) ?_
  rintro l _ rfl
  exact (parallel_matchOnMutualLike arrow direction _).after fun outcome => parallel_commit _

theorem parallel_endUntouchedMatch (arrow : Arrow) (now : Instant) :
    (endUntouchedMatch arrow now).Parallel n n' Eq (endUntouchedMatch arrow now) := by
  refine (parallel_run rfl).after fun found => ?_
  cases found with
  | none => exact .done rfl
  | some m =>
    dsimp only
    split
    · split
      · exact parallel_reject _
      · refine (parallel_run rfl).after fun _ => (parallel_run rfl).after fun found => ?_
        cases found with
        | none => exact .done rfl
        | some c =>
          dsimp only
          split
          · exact (parallel_run rfl).after fun _ => .done rfl
          · exact .done rfl
    · exact .done rfl

theorem parallel_undoWork (check : AgeCheck) (arrow : Arrow) (readings : Readings) :
    (undoWork check arrow readings).Parallel n n' (Ending.Alike Eq)
      (undoWork check arrow readings) := by
  refine (parallel_run rfl).after fun found => ?_
  cases found with
  | none => exact parallel_reject _
  | some l =>
    dsimp only
    split
    · exact parallel_reject _
    · refine (parallel_ofExcept _).after fun _ => (parallel_run rfl).after fun _ => ?_
      split
      · exact (parallel_endUntouchedMatch arrow _).after fun _ => parallel_commit _
      · exact parallel_commit _

theorem parallel_undoLastSwipe (check : AgeCheck) (user : UserId) :
    (undoLastSwipe check user).Parallel n n' Eq (undoLastSwipe check user) := by
  refine .reading (.call (Exchange.alike_perform rfl) ?_)
  rintro latest _ rfl
  refine .done fun readings => ?_
  cases latest with
  | none => exact Plan.parallel_reject _
  | some l =>
    rcases hcheck : check l (readings 0) with why | _ <;> simp only [hcheck]
    · exact .answer (.error (.refl .same why))
    · exact .locked _ _ 0 fun later => parallel_undoWork check ⟨user, l.toUser⟩ later

/-! ### Friend requests -/

theorem parallel_requireActive (arrow : Arrow) :
    (requireActive arrow).Parallel n n' Eq (requireActive arrow) := by
  refine (parallel_run rfl).after fun found => ?_
  cases found with
  | none => exact parallel_reject _
  | some m =>
    dsimp only
    split
    · exact .done rfl
    · exact parallel_reject _

theorem parallel_storedMessage (settings : RelationshipSettings) (message : String) :
    (storedMessage settings message).Parallel n n' Eq (storedMessage settings message) := by
  unfold storedMessage
  dsimp only
  split
  · exact parallel_reject _
  · exact .done rfl

theorem parallel_requireNonePending (arrow : Arrow) :
    (requireNonePending arrow).Parallel n n' Eq (requireNonePending arrow) := by
  refine (parallel_run rfl).after fun found => ?_
  split
  · exact parallel_reject _
  · exact .done rfl

theorem parallel_requireQuota (settings : RelationshipSettings) (sender : UserId)
    (now : Instant) :
    (requireQuota settings sender now).Parallel n n' Eq (requireQuota settings sender now) := by
  refine (parallel_run rfl).after fun count => ?_
  split
  · exact parallel_reject _
  · exact .done rfl

/-- The new request has the next identifier, in the table and in what is told. -/
theorem parallel_propose (settings : RelationshipSettings) (arrow : Arrow) (message : String) :
    (propose settings arrow message).Parallel n n' (FriendRequest.SameFrom n n')
      (propose settings arrow message) := by
  unfold propose
  split
  · exact .plain (Plan.parallel_reject _)
  refine .plain (.locked _ _ 0 fun readings => ?_)
  refine (parallel_requireActive arrow).after fun _ => ?_
  refine (parallel_storedMessage settings message).after fun message => ?_
  refine (parallel_requireNonePending arrow).after fun _ => ?_
  refine (parallel_requireQuota settings arrow.actor _).after fun _ => ?_
  refine .newId fun id id' hid => ?_
  have hrequest : (FriendRequest.new id arrow.actor arrow.target message (readings 0)).SameFrom n n'
    (FriendRequest.new id' arrow.actor arrow.target message (readings 0)) := ⟨hid, rfl⟩
  have hinsert := Exchange.alike_insertRequest hrequest
  refine .call hinsert fun _ _ _ => ?_
  exact (parallel_notify (.friendRequest hid _ _ _) _ _).bind fun _ _ _ =>
    .done (.commit hrequest)

theorem parallel_answerable (id : Uuid) (responder : UserId) :
    (answerable id responder).Parallel n n' Eq (answerable id responder) := by
  refine (parallel_run rfl).after fun found => (parallel_orReject _ found).after fun request => ?_
  split
  · exact parallel_reject _
  split
  · exact parallel_reject _
  · exact .done rfl

theorem parallel_activeMatchOf (request : FriendRequest) :
    (activeMatchOf request).Parallel n n' Eq (activeMatchOf request) := by
  refine (parallel_run rfl).after fun found => (parallel_orReject _ found).after fun current => ?_
  split
  · exact .done rfl
  split
  · exact parallel_reject _
  · exact parallel_reject _

theorem parallel_respondWork (id : Uuid) (responder : UserId) (accept : Bool) (now : Instant) :
    (respondWork id responder accept now).Parallel n n' (Ending.Alike Eq)
      (respondWork id responder accept now) := by
  refine (parallel_answerable id responder).after fun request =>
    (parallel_activeMatchOf request).after fun current => ?_
  dsimp only
  split
  · exact parallel_reject _
  refine (parallel_run rfl).after fun _ => (parallel_run rfl).after fun _ =>
    (parallel_expirePending _ now).after fun _ => ?_
  split
  · exact (parallel_archiveOf _ _ _ now).after fun _ =>
      (parallel_notify (.known _) _ now).after fun _ => parallel_commit _
  · exact (parallel_notify (.known _) _ now).after fun _ => parallel_commit _

theorem parallel_respond (id : Uuid) (responder : UserId) (accept : Bool) :
    (respond id responder accept).Parallel n n' Eq (respond id responder accept) := by
  refine .reading (.call (Exchange.alike_perform rfl) ?_)
  rintro found _ rfl
  refine .done fun _ => ?_
  cases found with
  | none => exact Plan.parallel_reject _
  | some r => exact .locked _ _ 0 fun readings => parallel_respondWork id responder accept _

end Operation

/-- The same answer. A request that was proposed is a new one. -/
def Command.SameFrom (n n' : Nat) : (c : Command) → c.Answer → c.Answer → Prop
  | .propose .., r, r' => r.SameFrom n n' r'
  | _, a, b => a = b

theorem Command.parallel_operation (settings : Settings) (c : Command) :
    (c.operation settings).Parallel n n' (c.SameFrom n n') (c.operation settings) := by
  cases c with
  | swipe arrow direction => exact Operation.parallel_swipe settings.matching arrow direction
  | undoLastSwipe user =>
    exact Operation.parallel_undoLastSwipe (Operation.requireInWindow settings.matching) user
  | propose arrow message => exact Operation.parallel_propose settings.relationships arrow message
  | respond id responder accept => exact Operation.parallel_respond id responder accept
  | gracefulExit arrow => exact Operation.parallel_gracefulExit arrow
  | unmatch arrow => exact Operation.parallel_unmatch arrow
  | block arrow => exact Operation.parallel_block arrow
  | unblock arrow => exact Operation.parallel_unblock arrow

namespace Question

open Operation

theorem parallel_canMessageWork (arrow : Arrow) :
    (canMessageWork arrow).Parallel n n' Eq (canMessageWork arrow) := by
  refine (parallel_run rfl).after fun found => ?_
  cases found with
  | none => exact .done rfl
  | some m =>
    dsimp only
    split
    · exact .done rfl
    · exact (parallel_run rfl).after fun _ => .done rfl

theorem parallel_work (q : Question) : q.work.Parallel n n' Eq q.work := by
  cases q with
  | matchesFor user => exact parallel_run (c := .matchesFor user) rfl
  | blockedBy blocker => exact parallel_run (c := .blockedBy blocker) rfl
  | pendingRequestsFor user => exact parallel_run (c := .pendingRequestsFor user) rfl
  | notificationsFor user => exact parallel_run (c := .notificationsFor user) rfl
  | conversation a b => exact parallel_run (c := .getConversation (.of a b)) rfl
  | canMessage arrow => exact parallel_canMessageWork arrow

theorem parallel_operation (q : Question) : q.operation.Parallel n n' Eq q.operation :=
  .reading (q.parallel_work.after fun _ => .done fun _ => .answer (.ok rfl))

end Question

/-! ## Services -/

/-- Services that differ in their servers, and there only in what must not matter. -/
structure Service.Alike (n n' : Nat) (s s' : Service Script) : Prop where
  settings : s.settings = s'.settings
  store : s.store.Alike n n' s'.store
  clock : s.clock = s'.clock
  registry : s.registry = s'.registry
  elapsed : s.elapsed = s'.elapsed

theorem Service.readings_eq {σ : Type} (s : Service σ) : s.readings = fun _ => s.clock := rfl

theorem Service.Alike.run {s s' : Service Script} (hs : s.Alike n n' s') {op : Operation α}
    {op' : Operation β} (hop : op.Parallel n n' R op') :
    ResultsAlike (Failure.Alike EngineError.Alike) R (s.run op).1 (s'.run op').1 ∧
      (s.run op).2.Alike n n' (s'.run op').2 := by
  obtain ⟨settings, store, clock, registry, elapsed⟩ := s
  obtain ⟨_, store', _, _, _⟩ := s'
  obtain ⟨rfl, hstore, rfl, rfl, rfl⟩ := hs
  dsimp only at hstore
  obtain ⟨hplan, hleft⟩ := hop.plan (fun _ => clock) hstore
  simp only [Service.run, Service.start, Service.readings_eq]
  generalize op.plan (fun _ => clock) store = planned,
    op'.plan (fun _ => clock) store' = planned' at hplan hleft ⊢
  obtain ⟨plan, t⟩ := planned
  obtain ⟨plan', t'⟩ := planned'
  dsimp only at hplan hleft
  rcases hplan with h | ⟨a, b, retries, h⟩
  · exact ⟨h, rfl, hleft, rfl, rfl, rfl⟩
  · have hfinish := (Plan.Parallel.locked a b retries h).finish (fun _ => clock) hleft
    dsimp only [Service.lockTimeout]
    generalize Acquisition.start _ _ _ _ = locks
    rcases locks with ⟨leases | acquisition | user, registry'⟩
    · simp only [Service.proceed, Service.readings_eq]
      exact ⟨hfinish.result, rfl, hfinish.script, rfl, rfl, rfl⟩
    · exact ⟨.error (.error (.same _)), rfl, hleft, rfl, rfl, rfl⟩
    · exact ⟨.error (.error (.same _)), rfl, hleft, rfl, rfl, rfl⟩

end Courtship
