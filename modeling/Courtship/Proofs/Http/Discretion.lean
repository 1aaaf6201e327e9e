import Courtship.Http.Exchange
import Courtship.Proofs.Sql.Errors
import Courtship.Proofs.Sql.Parallel

/-! Responses are discreet: nothing that the database says of an error gets into one. Two servers
that differ in the texts of their errors, and in their codes within a class, are sent the same, and
the client is told the same. -/

namespace Courtship

open Sql

variable {n n' : Nat} {α β : Type}

/-! ## Health -/

namespace Sql

theorem Script.Alike.checkHealth {s s' : Script} (h : s.Alike n n' s') :
    OutcomesAlike n n' SameClass Eq (checkHealth s) (checkHealth s') := by
  obtain ⟨hreply, hleft⟩ := h.send (.refl .ping)
  rw [Sql.checkHealth, Sql.checkHealth]
  generalize s.send .ping = out, s'.send .ping = out' at hreply hleft ⊢
  obtain ⟨r, t⟩ := out
  obtain ⟨r', t'⟩ := out'
  rcases hreply with _ | hcode
  · rcases r with (_ | ⟨row, rows⟩) | k | ⟨code, message⟩
    · exact .error rfl hleft
    · exact .ok rfl hleft
    · exact .error rfl hleft
    · exact .error rfl hleft
  · exact .error (sameClass_database hcode _ _) hleft

theorem logs_checkHealth (s : Script) :
    ∃ reply, s.Logs [⟨.ping, reply⟩] (checkHealth s).2 ∧
      ∀ code message, reply = .error code message → ∃ e, (checkHealth s).1 = .error e := by
  refine ⟨(s.send .ping).1, ?_, fun code message hreply => ?_⟩
  · have hleft : (checkHealth s).2 = (s.send .ping).2 := by
      rw [checkHealth]
      rcases s.send .ping with ⟨(_ | _) | _ | _, s'⟩ <;> rfl
    rw [hleft]
    exact s.logs_send rfl
  · rw [checkHealth]
    rcases hsend : s.send .ping with ⟨r, s'⟩
    obtain rfl : r = .error code message := by
      rw [hsend] at hreply
      exact hreply
    exact ⟨_, rfl⟩

end Sql

/-! ## Responses -/

namespace Http

/-- The same response, but for the new identifier of a friend request that was proposed. -/
inductive Response.SameFrom (n n' : Nat) : Response → Response → Prop
  | same (r : Response) : SameFrom n n' r r
  | proposed {q q' : FriendRequest} (h : q.SameFrom n n' q') :
      SameFrom n n' ⟨201, some (toJson q)⟩ ⟨201, some (toJson q')⟩

theorem Response.SameFrom.eq {r r' : Response} (h : r.SameFrom n n r') : r = r' := by
  cases h with
  | same => rfl
  | proposed h => rw [h.eq]

theorem Response.eq_of_rel {r r' : Option Response} (h : Option.Rel (SameFrom n n) r r') :
    r = r' := by
  cases h with
  | some h => rw [h.eq]
  | none => rfl

/-- All that a client is told of an error of the database with this state code. -/
def Response.ofDatabase (code : Option String) : Response :=
  if contends code then
    .ofError ⟨"storage_conflict", "concurrent update detected, please retry", 409⟩
  else .ofError ⟨"storage_error", "storage unavailable", 500⟩

theorem Response.ofEngineError_database (code : Option String) (message : String) :
    Response.ofEngineError (.ofStorage (.sql (.database code message))) = .ofDatabase code := by
  rw [EngineError.ofStorage, StorageError.isConflict, isConflict_database, Response.ofDatabase]
  split <;> rfl

theorem Response.ofEngineError_alike {e e' : EngineError} (h : e.Alike e') :
    Response.ofEngineError e = .ofEngineError e' := by
  cases h <;> rfl

theorem Response.ofResult_alike {R : α → β → Prop} {write : α → Response} {write' : β → Response}
    (hwrite : ∀ a b, R a b → (write a).SameFrom n n' (write' b))
    {result : Except (Failure EngineError) α} {result' : Except (Failure EngineError) β}
    (h : ResultsAlike (Failure.Alike EngineError.Alike) R result result') :
    Option.Rel (Response.SameFrom n n') (ofResult write result) (ofResult write' result') := by
  rcases h with h | h | _
  · exact .some (hwrite _ _ h)
  · rw [ofResult, ofResult, Response.ofEngineError_alike h]
    exact .some (.same _)
  · exact .none

theorem Response.ofResult_tellsOf (write : α → Response) {result : Except (Failure EngineError) α}
    {code : Option String} (h : TellsOf result code) :
    ofResult write result = some (.ofDatabase code) := by
  obtain ⟨message, rfl⟩ := h
  rw [ofResult, Response.ofEngineError_database]

/-- How many tries may follow the first one of a request. -/
def Request.retries (settings : Settings) (r : Request) : Nat :=
  match r.action with
  | .ok (.command c) => c.retries settings
  | _ => 0

theorem commandResponse_sameFrom (c : Command) {a b : c.Answer} (h : c.SameFrom n n' a b) :
    (commandResponse c a).SameFrom n n' (commandResponse c b) := by
  cases c with
  | propose => exact .proposed h
  | _ =>
    cases h
    exact .same _

end Http

/-! ## Exchanges -/

namespace Service

open Http

theorem Alike.act {s s' : Service Script} (h : s.Alike n n' s') (a : Action) :
    Option.Rel (Response.SameFrom n n') (s.act a).1 (s'.act a).1 ∧
      (s.act a).2.Alike n n' (s'.act a).2 := by
  cases a with
  | health =>
    have hhealth := h.store.checkHealth
    simp only [Service.act, Storage.checkHealth, Storage.name, h.clock]
    generalize Sql.checkHealth s.store = out, Sql.checkHealth s'.store = out' at hhealth ⊢
    rcases hhealth with ⟨rfl, hleft⟩ | ⟨he, hleft⟩
    · exact ⟨.some (.same _), h.settings, hleft, rfl, h.registry, h.elapsed⟩
    · exact ⟨.some (.same _), h.settings, hleft, rfl, h.registry, h.elapsed⟩
  | command c =>
    have hop : (c.operation s.settings).Parallel n n' (c.SameFrom n n')
        (c.operation s'.settings) := h.settings ▸ c.parallel_operation s.settings
    obtain ⟨hresult, hleft⟩ := h.run hop
    exact ⟨Response.ofResult_alike (fun _ _ hab => commandResponse_sameFrom c hab) hresult, hleft⟩
  | question q =>
    obtain ⟨hresult, hleft⟩ := h.run q.parallel_operation
    refine ⟨Response.ofResult_alike (fun a b hab => ?_) hresult, hleft⟩
    rw [hab]
    exact .same _

theorem Alike.exchange {s s' : Service Script} (h : s.Alike n n' s') (r : Request) :
    Option.Rel (Response.SameFrom n n') (s.exchange r).1 (s'.exchange r).1 ∧
      (s.exchange r).2.Alike n n' (s'.exchange r).2 := by
  rw [Service.exchange, Service.exchange]
  cases r.action with
  | error refusal => exact ⟨.some (.same _), h⟩
  | ok a => exact h.act a

/-- An exchange in units of the database, except for a look at its health. -/
theorem settled_exchange (s : Service Script) {r : Request} (hr : r.action ≠ .ok .health) :
    ∃ looks tries, Settled s.store looks tries (s.exchange r).2.store (r.retries s.settings)
      fun code => (s.exchange r).1 = some (.ofDatabase code) := by
  rw [exchange, Request.retries]
  rcases haction : r.action with refusal | (_ | c | q)
  · exact ⟨[], [], .nil s.store 0 _⟩
  · exact absurd haction hr
  · obtain ⟨looks, tries, hsettled⟩ := settled_service (c.retriesAtMost s.settings) s
    exact ⟨looks, tries, hsettled.imp fun _ => Response.ofResult_tellsOf (commandResponse c)⟩
  · obtain ⟨looks, tries, hsettled⟩ := settled_service q.retriesAtMost s
    exact ⟨looks, tries, hsettled.imp fun _ => Response.ofResult_tellsOf (questionResponse q)⟩

/-- A database that answers with an error is reported as a degraded service. -/
theorem exchange_health (s : Service Script) {r : Request} (hr : r.action = .ok .health) :
    ∃ reply, s.store.Logs [⟨.ping, reply⟩] (s.exchange r).2.store ∧
      ∀ code message, reply = .error code message →
        (s.exchange r).1 = some ⟨200, some (toJson
          (HealthBody.mk "degraded" version "postgres" s.clock))⟩ := by
  obtain ⟨reply, hlog, herror⟩ := logs_checkHealth s.store
  rw [exchange, hr]
  refine ⟨reply, hlog, fun code message hreply => ?_⟩
  obtain ⟨e, he⟩ := herror code message hreply
  simp only [act, Storage.checkHealth, Storage.name, he, healthResponse]
  rfl

/-- **What the database says of an error stays inside.** On two servers that differ in the texts of
their errors, and in their codes within a class, a request leads to the same statements and to the
same response. New identifiers may differ: those of one place in the two supplies correspond. In
each single exchange, only an error of contention in a swipe that has tries left may be followed by
another try. Any other error in a unit is answered as its class says, whatever the statement and the
endpoint. Only a question for the health of the service is answered with a report of it. -/
theorem exchange_hides_database_errors :
    (∀ (n n' : Nat) (s s' : Service Script), s.Alike n n' s' → ∀ r : Request,
      Option.Rel (Response.SameFrom n n') (s.exchange r).1 (s'.exchange r).1 ∧
        (s.exchange r).2.Alike n n' (s'.exchange r).2) ∧
    (∀ (n : Nat) (s s' : Service Script), s.Alike n n s' → ∀ r : Request,
      (s.exchange r).1 = (s'.exchange r).1 ∧
        (s.exchange r).2.store.sent = (s'.exchange r).2.store.sent) ∧
    ∀ (s : Service Script) (r : Request),
      (r.action ≠ .ok .health → ∃ looks tries,
        Settled s.store looks tries (s.exchange r).2.store (r.retries s.settings)
          fun code => (s.exchange r).1 = some (.ofDatabase code)) ∧
      (r.action = .ok .health → ∃ reply, s.store.Logs [⟨.ping, reply⟩] (s.exchange r).2.store ∧
        ∀ code message, reply = .error code message →
          (s.exchange r).1 = some ⟨200, some (toJson
            (HealthBody.mk "degraded" version "postgres" s.clock))⟩) := by
  refine ⟨fun n n' s s' h r => h.exchange r, fun n s s' h r => ?_,
    fun s r => ⟨s.settled_exchange, s.exchange_health⟩⟩
  obtain ⟨hresponse, hleft⟩ := h.exchange r
  exact ⟨Response.eq_of_rel hresponse, hleft.store.sent_eq⟩

/-- The first user asks for matches. -/
def matchesAsked : Request where
  method := "GET"
  path := "/api/v1/users/00000000-0000-0000-0000-000000000001/matches"
  contentType := none
  body := ""

/-- A service in front of a database that fails the first statement after the opening ones. -/
def failing (code message : String) (minted : Nat) : Service Script :=
  .new {} (.new [⟨.error (some code) message, none⟩] minted) .epoch

theorem failing_alike {code code' : String} (h : contends (some code) = contends (some code'))
    (message message' : String) (n n' : Nat) :
    (failing code message n).Alike n n' (failing code' message' n') :=
  ⟨rfl, ⟨.cons ⟨rfl, .error h message message'⟩ .nil, .nil, 0, rfl, rfl⟩, rfl, rfl, rfl⟩

/-- A deadlock and a duplicate are the same to the client. -/
theorem exchange_hides_database_errors_of_matches :
    let deadlock := failing "40P01" "deadlock detected on likes_pkey" 0
    let duplicate := failing "23505" "duplicate key (id)=(7)" 5
    deadlock.Alike 0 5 duplicate ∧ matchesAsked.action ≠ .ok .health ∧
      Option.Rel (Response.SameFrom 0 5) (deadlock.exchange matchesAsked).1
        (duplicate.exchange matchesAsked).1 ∧
      (duplicate.exchange matchesAsked).1 = some (.ofDatabase (some "40P01")) ∧
      ∃ looks tries, Settled duplicate.store looks tries (duplicate.exchange matchesAsked).2.store
        (matchesAsked.retries {}) fun code =>
          (duplicate.exchange matchesAsked).1 = some (.ofDatabase code) := by
  intro deadlock duplicate
  obtain ⟨halike, -, hsettled⟩ := exchange_hides_database_errors
  have hcodes : contends (some "40P01") = contends (some "23505") := by decide
  have hsame : deadlock.Alike 0 5 duplicate := failing_alike hcodes _ _ 0 5
  have hasks : matchesAsked.action = .ok (.question (.matchesFor (.ofNat 1))) := rfl
  have hhealth : matchesAsked.action ≠ .ok .health := by simp [hasks]
  exact ⟨hsame, hhealth, (halike 0 5 deadlock duplicate hsame matchesAsked).1, rfl,
    (hsettled duplicate matchesAsked).1 hhealth⟩

end Service

end Courtship
