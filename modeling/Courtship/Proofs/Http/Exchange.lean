import Courtship.Http.Exchange
import Courtship.Proofs.Http.Fields
import Courtship.Proofs.Serving
import Courtship.Proofs.Text.Records

/-! An exchange over HTTP is the one call that its request asks for: the response tells the result
of that call, and the service is left as by that call. A request that asks for nothing changes
nothing. -/

namespace Courtship

namespace Http

/-! ## What a request asks for -/

/-- The body is this JSON, said to be JSON, and not too large. -/
structure Request.Holds (r : Request) (j : Json) : Prop where
  isJson : ∃ type, r.contentType = some type ∧ isJson type = true
  size_le : r.body.utf8ByteSize ≤ largestBody
  reads : Json.ofText? r.body = some j

/-- The body holds who acts and toward whom. -/
structure Request.Names (r : Request) (arrow : Arrow) : Prop where
  fields : ∃ j, r.Holds j ∧ j.HasField ["userId", "user_id"] 0 2 arrow.actor ∧
    j.HasField ["targetUserId", "target_user_id"] 1 2 arrow.target

/-- The call that each endpoint makes of what it is sent. -/
inductive Asks (r : Request) : Endpoint → Action → Prop
  | swipe {j : Json} {actor target : UserId} {direction : Direction} (hbody : r.Holds j)
      (hactor : j.HasField ["userId", "user_id"] 0 3 actor)
      (htarget : j.HasField ["targetUserId", "target_user_id"] 1 3 target)
      (hdirection : j.HasField ["direction"] 2 3 direction) :
      Asks r .swipe (.command (.swipe ⟨actor, target⟩ direction))
  | undo {j : Json} {user : UserId} (hbody : r.Holds j)
      (huser : j.HasField ["userId", "user_id"] 0 1 user) :
      Asks r .undo (.command (.undoLastSwipe user))
  | propose {j : Json} {sender recipient : UserId} {message : String} (hbody : r.Holds j)
      (hsender : j.HasField ["fromUserId", "from_user_id"] 0 3 sender)
      (hrecipient : j.HasField ["toUserId", "to_user_id"] 1 3 recipient)
      (hmessage : j.HasField ["message"] 2 3 message)
      (hlength : 1 ≤ message.length ∧ message.length ≤ 500) :
      Asks r .propose (.command (.propose ⟨sender, recipient⟩ message))
  | respond {id : String} {request : Uuid} {j : Json} {responder : UserId} {accept : Bool}
      (hid : Uuid.ofText? id = some request) (hbody : r.Holds j)
      (hresponder : j.HasField ["responderId", "responder_id"] 0 2 responder)
      (haccept : j.HasField ["accept"] 1 2 accept) :
      Asks r (.respond id) (.command (.respond request responder accept))
  | gracefulExit {arrow : Arrow} (h : r.Names arrow) :
      Asks r .gracefulExit (.command (.gracefulExit arrow))
  | unmatch {arrow : Arrow} (h : r.Names arrow) : Asks r .unmatch (.command (.unmatch arrow))
  | block {arrow : Arrow} (h : r.Names arrow) : Asks r .block (.command (.block arrow))
  | unblock {arrow : Arrow} (h : r.Names arrow) : Asks r .unblock (.command (.unblock arrow))
  | matchesOf {id : String} {user : UserId} (hid : Uuid.ofText? id = some user.uuid) :
      Asks r (.matchesOf id) (.question (.matchesFor user))
  | pendingFor {id : String} {user : UserId} (hid : Uuid.ofText? id = some user.uuid) :
      Asks r (.pendingFor id) (.question (.pendingRequestsFor user))
  | notificationsFor {id : String} {user : UserId} (hid : Uuid.ofText? id = some user.uuid) :
      Asks r (.notificationsFor id) (.question (.notificationsFor user))
  | blocksOf {id : String} {user : UserId} (hid : Uuid.ofText? id = some user.uuid) :
      Asks r (.blocksOf id) (.question (.blockedBy user))

variable {r : Request} {e : Endpoint} {a : Action}

theorem decodeBody_eq_ok_iff {α : Type} [JsonForm α] {b : α} :
    r.decodeBody α = .ok b ↔ ∃ j, r.Holds j ∧ ofJson? j = some b := by
  constructor
  · intro h
    unfold Request.decodeBody at h
    split at h
    · cases h
    · rename_i hsent
      simp only [Bool.or_eq_true, Bool.not_eq_true', decide_eq_true_eq, not_or, Bool.not_eq_false,
        Nat.not_lt] at hsent
      obtain ⟨htype, hsize⟩ := hsent
      split at h
      · rename_i hbody
        cases h
        obtain ⟨j, hreads, hb⟩ := Option.bind_eq_some_iff.1 hbody
        exact ⟨j, ⟨(Option.any_eq_true _ _).1 htype, hsize, hreads⟩, hb⟩
      · cases h
  · rintro ⟨j, ⟨⟨type, htype, hjson⟩, hsize, hreads⟩, hb⟩
    have hsize : ¬largestBody < r.body.utf8ByteSize := by omega
    simp [Request.decodeBody, htype, hjson, hsize, hreads, hb]

theorem decodeUser_eq_ok_iff {id : String} {user : UserId} :
    decodeUser id = .ok user ↔ Uuid.ofText? id = some user.uuid := by
  unfold decodeUser decodeId
  cases Uuid.ofText? id with
  | none => simp [Except.map]
  | some uuid =>
    obtain ⟨u⟩ := user
    simp [Except.map]

theorem decodeBody_arrow_iff {arrow : Arrow} :
    (∃ b, r.decodeBody ActionBody = .ok b ∧ b.arrow = arrow) ↔ r.Names arrow := by
  simp only [decodeBody_eq_ok_iff, ActionBody.ofJson?_iff]
  constructor
  · rintro ⟨b, ⟨j, hbody, huser, htarget⟩, rfl⟩
    exact ⟨j, hbody, huser, htarget⟩
  · rintro ⟨j, hbody, huser, htarget⟩
    exact ⟨⟨arrow.actor, arrow.target⟩, ⟨j, hbody, huser, htarget⟩, rfl⟩

theorem isValid_iff (b : ProposalBody) :
    b.isValid = true ↔ 1 ≤ b.message.length ∧ b.message.length ≤ 500 := by
  simp [ProposalBody.isValid]

theorem actionAt_of_asks (h : Asks r e a) : r.actionAt e = .ok a := by
  cases h with
  | swipe hbody hactor htarget hdirection =>
    have h := decodeBody_eq_ok_iff.2
      ⟨_, hbody, (SwipeBody.ofJson?_iff (b := ⟨_, _, _⟩)).2 ⟨hactor, htarget, hdirection⟩⟩
    rw [Request.actionAt, h]
    rfl
  | undo hbody huser =>
    have h := decodeBody_eq_ok_iff.2 ⟨_, hbody, (UndoBody.ofJson?_iff (b := ⟨_⟩)).2 huser⟩
    rw [Request.actionAt, h]
    rfl
  | propose hbody hsender hrecipient hmessage hlength =>
    have h := decodeBody_eq_ok_iff.2
      ⟨_, hbody, (ProposalBody.ofJson?_iff (b := ⟨_, _, _⟩)).2 ⟨hsender, hrecipient, hmessage⟩⟩
    rw [Request.actionAt, h]
    exact if_pos ((isValid_iff _).2 hlength)
  | respond hid hbody hresponder haccept =>
    have h := decodeBody_eq_ok_iff.2
      ⟨_, hbody, (AnswerBody.ofJson?_iff (b := ⟨_, _⟩)).2 ⟨hresponder, haccept⟩⟩
    rw [Request.actionAt, decodeId, hid, h]
    rfl
  | gracefulExit h | unmatch h | block h | unblock h =>
    obtain ⟨b, hb, rfl⟩ := decodeBody_arrow_iff.2 h
    rw [Request.actionAt, hb]
    rfl
  | matchesOf hid | pendingFor hid | notificationsFor hid | blocksOf hid =>
    rw [Request.actionAt, decodeUser_eq_ok_iff.2 hid]
    rfl

theorem asks_of_actionAt (he : e ≠ .health) (h : r.actionAt e = .ok a) : Asks r e a := by
  cases e with
  | health => exact absurd rfl he
  | swipe =>
    cases hb : r.decodeBody SwipeBody with
    | error why => rw [Request.actionAt, hb] at h; cases h
    | ok b =>
      rw [Request.actionAt, hb] at h
      cases h
      obtain ⟨j, hbody, hfields⟩ := decodeBody_eq_ok_iff.1 hb
      obtain ⟨hactor, htarget, hdirection⟩ := SwipeBody.ofJson?_iff.1 hfields
      exact .swipe hbody hactor htarget hdirection
  | undo =>
    cases hb : r.decodeBody UndoBody with
    | error why => rw [Request.actionAt, hb] at h; cases h
    | ok b =>
      rw [Request.actionAt, hb] at h
      cases h
      obtain ⟨j, hbody, hfields⟩ := decodeBody_eq_ok_iff.1 hb
      exact .undo hbody (UndoBody.ofJson?_iff.1 hfields)
  | propose =>
    cases hb : r.decodeBody ProposalBody with
    | error why => rw [Request.actionAt, hb] at h; cases h
    | ok b =>
      rw [Request.actionAt, hb] at h
      change (if b.isValid then _ else _) = _ at h
      split at h
      · rename_i hvalid
        cases h
        obtain ⟨j, hbody, hfields⟩ := decodeBody_eq_ok_iff.1 hb
        obtain ⟨hsender, hrecipient, hmessage⟩ := ProposalBody.ofJson?_iff.1 hfields
        exact .propose hbody hsender hrecipient hmessage ((isValid_iff b).1 hvalid)
      · cases h
  | respond id =>
    cases hid : Uuid.ofText? id with
    | none => rw [Request.actionAt, decodeId, hid] at h; cases h
    | some request =>
      cases hb : r.decodeBody AnswerBody with
      | error why => rw [Request.actionAt, decodeId, hid, hb] at h; cases h
      | ok b =>
        rw [Request.actionAt, decodeId, hid, hb] at h
        cases h
        obtain ⟨j, hbody, hfields⟩ := decodeBody_eq_ok_iff.1 hb
        obtain ⟨hresponder, haccept⟩ := AnswerBody.ofJson?_iff.1 hfields
        exact .respond hid hbody hresponder haccept
  | gracefulExit | unmatch | block | unblock =>
    cases hb : r.decodeBody ActionBody with
    | error why => rw [Request.actionAt, hb] at h; cases h
    | ok b =>
      rw [Request.actionAt, hb] at h
      cases h
      have hnames := decodeBody_arrow_iff.1 ⟨b, hb, rfl⟩
      constructor
      exact hnames
  | matchesOf id | pendingFor id | notificationsFor id | blocksOf id =>
    cases hu : decodeUser id with
    | error why => rw [Request.actionAt, hu] at h; cases h
    | ok user =>
      rw [Request.actionAt, hu] at h
      cases h
      have hid := decodeUser_eq_ok_iff.1 hu
      constructor
      exact hid

/-- What a request asks for is what it is decoded to. -/
theorem asks_iff (he : e ≠ .health) : Asks r e a ↔ r.actionAt e = .ok a :=
  ⟨actionAt_of_asks, asks_of_actionAt he⟩

theorem decodeBody_error {α : Type} [JsonForm α] {why : Refusal}
    (h : r.decodeBody α = .error why) : why = .invalidJson := by
  unfold Request.decodeBody at h
  split at h
  · cases h
    rfl
  · split at h <;> cases h
    rfl

theorem decodeUser_error {id : String} {why : Refusal} (h : decodeUser id = .error why) :
    why = .invalidPath := by
  unfold decodeUser decodeId at h
  split at h <;> cases h
  rfl

/-- Decoding fails at the first step that does. -/
theorem bind_eq_error {α β : Type} {x : Except Refusal α} {f : α → Except Refusal β}
    {why : Refusal} (h : x.bind f = .error why) :
    x = .error why ∨ ∃ b, x = .ok b ∧ f b = .error why := by
  cases x with
  | error e =>
    cases h
    exact .inl rfl
  | ok b => exact .inr ⟨b, rfl, h⟩

/-- A request to an endpoint is refused for its path, its body or its message. -/
theorem ne_notFound_of_refused {why : Refusal} (h : r.actionAt e = .error why) :
    why ≠ .notFound := by
  rintro rfl
  cases e with
  | health => cases h
  | swipe | undo | gracefulExit | unmatch | block | unblock =>
    rcases bind_eq_error h with h | ⟨b, -, h⟩
    · cases decodeBody_error h
    · cases h
  | propose =>
    rcases bind_eq_error h with h | ⟨b, -, h⟩
    · cases decodeBody_error h
    · split at h <;> cases h
  | respond id =>
    rcases bind_eq_error h with h | ⟨request, -, h⟩
    · unfold decodeId at h
      split at h <;> cases h
    · rcases bind_eq_error h with h | ⟨b, -, h⟩
      · cases decodeBody_error h
      · cases h
  | matchesOf id | pendingFor id | notificationsFor id | blocksOf id =>
    rcases bind_eq_error h with h | ⟨user, -, h⟩
    · cases decodeUser_error h
    · cases h

/-- With a GET only questions are asked. -/
theorem question_of_get {path : String} (hroute : Endpoint.of? "GET" path = some e)
    (h : Asks r e a) : ∃ q, a = .question q := by
  have hget : ∃ segments, Endpoint.ofGet? segments = some e := by
    unfold Endpoint.of? at hroute
    split at hroute
    · exact ⟨_, hroute⟩
    · cases hroute
  obtain ⟨segments, hget⟩ := hget
  unfold Endpoint.ofGet? at hget
  split at hget
  · cases hget
    cases h
  all_goals first | cases hget | (split at hget <;> cases hget; cases h; exact ⟨_, rfl⟩)

/-! ## What a response tells -/

def errorJson (code message : String) (status : Nat) : Json :=
  .object [("error", .string code), ("message", .string message), ("status_code", .ofNat status)]

/-- The status of an error is told in the body as well. -/
def telling (status : Nat) (code message : String) : Response :=
  ⟨status, some (errorJson code message status)⟩

/-- What tells of each error. Nothing of what the storage said gets out. -/
def errorResponse : EngineError → Response
  | .notAuthorized => telling 403 "not_authorized" "user is not part of this relationship"
  | .matchNotFound => telling 404 "match_not_found" "no relationship found between these users"
  | .noActiveMatch => telling 404 "no_active_match" "an active match is required"
  | .requestNotFound => telling 404 "request_not_found" "friend request not found"
  | .nothingToUndo => telling 404 "nothing_to_undo" "no swipe to undo"
  | .invalidTransition source target => telling 409 "invalid_transition"
    s!"cannot move a relationship from {source.name} to {target.name}"
  | .alreadyTerminal state => telling 409 "already_terminal"
    s!"relationship already ended ({state.name})"
  | .relationshipTerminated _ => telling 409 "relationship_terminated"
    "this relationship has ended and cannot be swiped on again"
  | .blocked => telling 409 "blocked" "one of these users has blocked the other"
  | .requestPending => telling 409 "request_pending"
    "a friend request is already pending for this match"
  | .alreadyResponded => telling 409 "already_responded" "friend request was already answered"
  | .storageConflict _ => telling 409 "storage_conflict"
    "concurrent update detected, please retry"
  | .messageTooShort least => telling 422 "message_too_short"
    s!"message must be at least {least} characters"
  | .invalidRequest why => telling 422 "invalid_request" s!"invalid request: {why}"
  | .undoWindowExpired window => telling 422 "undo_window_expired"
    s!"undo window of {window}s has expired"
  | .rateLimited limit => telling 429 "rate_limited"
    s!"daily friend request limit of {limit} reached"
  | .lockTimeout waited => telling 503 "lock_timeout"
    s!"timed out after {spanText waited} waiting for a concurrent operation on this user"
  | .storage _ => telling 500 "storage_error" "storage unavailable"

/-- The response to a call that answers with this status and this body if it succeeds. There is none
where a time went out of range. -/
inductive Tells {α : Type} (status : Nat) (body : α → Json) :
    Except (Failure EngineError) α → Option Response → Prop
  | ok (a : α) : Tells status body (.ok a) (some ⟨status, some (body a)⟩)
  | error (e : EngineError) : Tells status body (.error (.error e)) (some (errorResponse e))
  | overflow : Tells status body (.error .overflow) none

def commandStatus : Command → Nat
  | .propose .. => 201
  | _ => 200

def commandJson : (c : Command) → c.Answer → Json
  | .swipe .., r => .object
    [("matched", .bool r.matched), ("match", optionJson r.matchOf), ("like", toJson r.like),
      ("new_match", .bool r.newMatch)]
  | .undoLastSwipe _, r => .object
    [("undone", toJson r.undone), ("unmatched", optionJson r.unmatched)]
  | .propose .., r => toJson r
  | .respond .., r => toJson r
  | .gracefulExit _, m => .object [("success", .bool true), ("match", toJson m)]
  | .unmatch _, m => .object [("success", .bool true), ("match", toJson m)]
  | .block _, m => .object [("success", .bool true), ("match", optionJson m)]
  | .unblock _, lifted => .object [("unblocked", .bool lifted)]

/-- Counts are words of 64 bits. -/
def questionJson : (q : Question) → q.Answer → Json
  | .matchesFor _, found => .object
    [("matches", toJson found), ("total", .ofNat (found.length % UInt64.size))]
  | .blockedBy _, blocks => .object [("blocks", toJson blocks)]
  | .pendingRequestsFor _, requests => .object [("requests", toJson requests)]
  | .notificationsFor _, ns => .object
    [("notifications", toJson ns),
      ("unread", .ofNat ((ns.countP fun n => n.readAt.isNone) % UInt64.size))]
  | .conversation .., c => optionJson c
  | .canMessage _, allowed => .bool allowed

theorem commandResponse_eq (c : Command) (answer : c.Answer) :
    commandResponse c answer = ⟨commandStatus c, some (commandJson c answer)⟩ := by
  cases c <;> rfl

theorem questionResponse_eq (q : Question) (answer : q.Answer) :
    questionResponse q answer = ⟨200, some (questionJson q answer)⟩ := by
  cases q <;> rfl

theorem ofEngineError_eq (e : EngineError) : Response.ofEngineError e = errorResponse e := by
  cases e <;> rfl

theorem errorResponse_body (e : EngineError) :
    ∃ code message, (errorResponse e).body =
      some (errorJson code message (errorResponse e).status) := by
  cases e <;> exact ⟨_, _, rfl⟩

theorem refusal_response {why : Refusal} (h : why ≠ .notFound) :
    ∃ code message, why.response = telling 400 code message := by
  cases why with
  | notFound => exact absurd rfl h
  | invalidPath | invalidJson | invalidMessage => exact ⟨_, _, rfl⟩

theorem tells_ofResult {α : Type} {status : Nat} {body : α → Json} {write : α → Response}
    (h : ∀ a, write a = ⟨status, some (body a)⟩) (result : Except (Failure EngineError) α) :
    Tells status body result (Response.ofResult write result) := by
  rcases result with ⟨why⟩ | answer
  · cases why with
    | error e =>
      rw [Response.ofResult, ofEngineError_eq]
      exact .error e
    | overflow => exact .overflow
  · rw [Response.ofResult, h]
    exact .ok answer

/-! ## Styles of names -/

theorem decodeBody_of_holds {α : Type} [JsonForm α] {j : Json} (h : r.Holds j) :
    r.decodeBody α = match (ofJson? j : Option α) with
      | some b => .ok b
      | none => .error .invalidJson := by
  obtain ⟨⟨type, htype, hjson⟩, hsize, hreads⟩ := h
  have hsize : ¬largestBody < r.body.utf8ByteSize := by omega
  cases hb : (ofJson? j : Option α) <;>
    simp [Request.decodeBody, htype, hjson, hsize, hreads, hb]

theorem actionAt_congr {r' : Request} {j k : Json} (h : r.Holds j) (h' : r'.Holds k)
    (hstyle : SameButStyle j k) (e : Endpoint) : r'.actionAt e = r.actionAt e := by
  cases e <;>
    simp only [Request.actionAt, decodeBody_of_holds h, decodeBody_of_holds h',
      SwipeBody.ofJson?_congr hstyle, UndoBody.ofJson?_congr hstyle,
      ProposalBody.ofJson?_congr hstyle, AnswerBody.ofJson?_congr hstyle,
      ActionBody.ofJson?_congr hstyle]

end Http

/-! ## Exchanges -/

namespace Service

open Http

variable {r : Http.Request} {e : Endpoint}

theorem tables_ask (s : Service Memory) (q : Question) :
    (s.ask q).2.store.tables = s.store.tables := by
  rw [ask_eq, Work.look_eq]

theorem exchange_command (hroute : Endpoint.of? r.method r.path = some e) {c : Command}
    (h : Asks r e (.command c)) (s : Service Memory) :
    Tells (commandStatus c) (commandJson c) (s.command c).1 (s.exchange r).1 ∧
      (s.exchange r).2 = (s.command c).2 := by
  have haction : r.action = .ok (.command c) := by
    rw [Request.action, hroute]
    exact actionAt_of_asks h
  rw [exchange, haction]
  exact ⟨tells_ofResult (commandResponse_eq c) _, rfl⟩

theorem exchange_question (hroute : Endpoint.of? r.method r.path = some e) {q : Question}
    (h : Asks r e (.question q)) (s : Service Memory) :
    Tells 200 (questionJson q) (s.ask q).1 (s.exchange r).1 ∧
      (s.exchange r).2 = (s.ask q).2 := by
  have haction : r.action = .ok (.question q) := by
    rw [Request.action, hroute]
    exact actionAt_of_asks h
  rw [exchange, haction]
  exact ⟨tells_ofResult (questionResponse_eq q) _, rfl⟩

theorem exchange_refused (hroute : Endpoint.of? r.method r.path = some e) (he : e ≠ .health)
    (h : ∀ a, ¬Asks r e a) (s : Service Memory) :
    (∃ code message, (s.exchange r).1 = some (telling 400 code message)) ∧
      (s.exchange r).2 = s := by
  cases hat : r.actionAt e with
  | ok a => exact absurd (asks_of_actionAt he hat) (h a)
  | error why =>
    have haction : r.action = .error why := by rw [Request.action, hroute, ← hat]
    obtain ⟨code, message, hresponse⟩ := refusal_response (ne_notFound_of_refused hat)
    rw [exchange, haction]
    exact ⟨⟨code, message, congrArg some hresponse⟩, rfl⟩

/-- A response that is no success tells an error, and then nothing has changed. -/
theorem exchange_failed (hroute : Endpoint.of? r.method r.path = some e) (he : e ≠ .health)
    (s : Service Memory) {response : Http.Response} (hresponse : (s.exchange r).1 = some response)
    (hstatus : ¬(200 ≤ response.status ∧ response.status < 300)) :
    (s.exchange r).2.store.tables = s.store.tables ∧
      ∃ code message, response.body = some (errorJson code message response.status) := by
  by_cases hasks : ∃ a, Asks r e a
  · obtain ⟨a | c | q, ha⟩ := hasks
    · cases ha
    · obtain ⟨htells, hleft⟩ := exchange_command hroute ha s
      rw [hresponse] at htells
      generalize hresult : (s.command c).1 = result at htells
      cases htells with
      | ok answer => exact absurd (by cases c <;> simp [commandStatus]) hstatus
      | error why =>
        rw [hleft]
        exact ⟨tables_run_error (Prod.ext hresult rfl), errorResponse_body why⟩
    · obtain ⟨htells, hleft⟩ := exchange_question hroute ha s
      rw [hresponse] at htells
      generalize hresult : (s.ask q).1 = result at htells
      cases htells with
      | ok answer => exact absurd (by simp) hstatus
      | error why =>
        rw [hleft, tables_ask]
        exact ⟨rfl, errorResponse_body why⟩
  · rw [not_exists] at hasks
    obtain ⟨⟨code, message, h⟩, hleft⟩ := exchange_refused hroute he hasks s
    obtain rfl := Option.some.inj (hresponse.symm.trans h)
    exact ⟨by rw [hleft], code, message, rfl⟩

/-- **A request over HTTP is the call that it asks for.** Each request to an endpoint but that of
health asks for one call or for none. The response tells the result of the call, and the service is
left as by the call; a request that asks for none is answered with 400 and changes nothing. It does
not matter in which style the fields are named, a GET changes no table, and neither does a request
whose response is no success, which tells its status in the body as well. -/
theorem exchange_tells_call (hroute : Endpoint.of? r.method r.path = some e) (he : e ≠ .health)
    (s : Service Memory) :
    (∀ c, Asks r e (.command c) →
      Tells (commandStatus c) (commandJson c) (s.command c).1 (s.exchange r).1 ∧
        (s.exchange r).2 = (s.command c).2) ∧
    (∀ q, Asks r e (.question q) →
      Tells 200 (questionJson q) (s.ask q).1 (s.exchange r).1 ∧
        (s.exchange r).2 = (s.ask q).2) ∧
    (∀ a b, Asks r e a → Asks r e b → a = b) ∧
    ((∀ a, ¬Asks r e a) →
      (∃ code message, (s.exchange r).1 = some (telling 400 code message)) ∧
        (s.exchange r).2 = s) ∧
    (∀ (r' : Http.Request) (j k : Json), r.Holds j → r'.Holds k → SameButStyle j k →
      r'.method = r.method → r'.path = r.path → s.exchange r' = s.exchange r) ∧
    (r.method = "GET" → (s.exchange r).2.store.tables = s.store.tables) ∧
    (∀ response, (s.exchange r).1 = some response →
      ¬(200 ≤ response.status ∧ response.status < 300) →
        (s.exchange r).2.store.tables = s.store.tables ∧
          ∃ code message, response.body = some (errorJson code message response.status)) := by
  refine ⟨fun c h => exchange_command hroute h s, fun q h => exchange_question hroute h s, ?_,
    fun h => exchange_refused hroute he h s, ?_, ?_, fun _ => exchange_failed hroute he s⟩
  · intro a b ha hb
    have hsame := (actionAt_of_asks ha).symm.trans (actionAt_of_asks hb)
    exact Except.ok.inj hsame
  · intro r' j k h h' hstyle hmethod hpath
    have haction : r'.action = r.action := by
      rw [Request.action, Request.action, hmethod, hpath, hroute]
      exact actionAt_congr h h' hstyle e
    rw [exchange, exchange, haction]
  · intro hget
    by_cases hasks : ∃ a, Asks r e a
    · obtain ⟨a, ha⟩ := hasks
      obtain ⟨q, rfl⟩ := question_of_get (hget ▸ hroute) ha
      rw [(exchange_question hroute ha s).2, tables_ask]
    · rw [not_exists] at hasks
      rw [(exchange_refused hroute he hasks s).2]

/-- What is sent of a like, with one field named in each style. -/
def likeJson : Json := .object
  [("target_user_id", toJson (UserId.ofNat 2)), ("userId", toJson (UserId.ofNat 1)),
    ("direction", toJson Direction.like)]

def likeSent : Http.Request where
  method := "POST"
  path := "/api/v1/swipes"
  contentType := some "application/json; charset=utf-8"
  body := likeJson.text

theorem likeSent_holds : likeSent.Holds likeJson where
  isJson := ⟨_, rfl, by decide +kernel⟩
  size_le := by decide +kernel
  reads := Json.ofText?_text rfl

/-- The first user of a new service likes the second one. -/
theorem exchange_tells_call_like :
    let s := Service.new {} Memory.empty .epoch
    Endpoint.of? likeSent.method likeSent.path = some .swipe ∧ Endpoint.swipe ≠ .health ∧
      Asks likeSent .swipe (.command (.swipe ⟨.ofNat 1, .ofNat 2⟩ .like)) ∧
      Tells 200 (commandJson (.swipe ⟨.ofNat 1, .ofNat 2⟩ .like))
        (s.command (.swipe ⟨.ofNat 1, .ofNat 2⟩ .like)).1 (s.exchange likeSent).1 ∧
      (s.exchange likeSent).2 = (s.command (.swipe ⟨.ofNat 1, .ofNat 2⟩ .like)).2 := by
  intro s
  have hroute : Endpoint.of? likeSent.method likeSent.path = some .swipe := by decide
  have hasks : Asks likeSent .swipe (.command (.swipe ⟨.ofNat 1, .ofNat 2⟩ .like)) :=
    .swipe likeSent_holds ⟨_, .member rfl, ofJson?_toJson _⟩ ⟨_, .member rfl, ofJson?_toJson _⟩
      ⟨_, .member rfl, ofJson?_toJson _⟩
  exact ⟨hroute, by decide, hasks, (exchange_tells_call hroute (by decide) s).1 _ hasks⟩

end Service

end Courtship
