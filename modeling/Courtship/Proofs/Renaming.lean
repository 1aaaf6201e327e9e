import Courtship.Proofs.Drafts
import Courtship.Proofs.Supply
import Mathlib.GroupTheory.Perm.ViaEmbedding
import Mathlib.Logic.Equiv.Fin.Basic

/-! Renaming identifiers. An operation only passes them on: if those in use keep their names, then
from new identifiers with other names it drafts the same, with these other names. -/

namespace Courtship

variable (π : Equiv.Perm Uuid)

/-! ## Records -/

def Like.renamed (l : Like) : Like := { l with id := π l.id }

def FriendRequest.renamed (r : FriendRequest) : FriendRequest := { r with id := π r.id }

def NotificationPayload.renamed : NotificationPayload → NotificationPayload
  | friendRequest id pair fromUser message => friendRequest (π id) pair fromUser message
  | friendRequestAccepted id pair responder => friendRequestAccepted (π id) pair responder
  | friendRequestDeclined id pair responder => friendRequestDeclined (π id) pair responder
  | gracefulExit pair initiator => gracefulExit pair initiator

def Notification.renamed (n : Notification) : Notification :=
  { n with id := π n.id, payload := n.payload.renamed π }

namespace Tables

/-- Whether the second tables are the first ones with other names for identifiers, and what each
user was told in the same order. -/
structure SameUpTo (t t' : Tables) : Prop where
  likes : ∀ arrow : Arrow, t'.likes[arrow]? = t.likes[arrow]?.map (Like.renamed π)
  matchRows : t'.matchRows = t.matchRows
  blocks : t'.blocks = t.blocks
  requests : ∀ id : Uuid, t'.requests[π id]? = t.requests[id]?.map (FriendRequest.renamed π)
  conversations : t'.conversations = t.conversations
  notifications : ∀ user : UserId,
    t'.notifications.filter (fun n => n.recipient = user) =
      (t.notifications.filter fun n => n.recipient = user).map (Notification.renamed π)

def Write.renamed : Write → Write
  | .like arrow row => .like arrow (row.map (Like.renamed π))
  | .request id row => .request (π id) (row.map (FriendRequest.renamed π))
  | .notification n => .notification (n.renamed π)
  | w => w

def Change.renamed : Change → Change
  | .write w => .write (w.renamed π)
  | .expire pair now => .expire pair now

end Tables

/-! ## Answers -/

def Command.renamed : (c : Command) → c.Answer → c.Answer
  | swipe .., result => { result with like := result.like.renamed π }
  | undoLastSwipe _, result => { result with undone := result.undone.renamed π }
  | propose .., request => request.renamed π
  | respond .., request => request.renamed π
  | gracefulExit _, current => current
  | unmatch _, current => current
  | block _, found => found
  | unblock _, lifted => lifted

def Question.renamed : (q : Question) → q.Answer → q.Answer
  | matchesFor _, found => found
  | blockedBy _, found => found
  | pendingRequestsFor _, found => found.map (FriendRequest.renamed π)
  | notificationsFor _, found => found.map (Notification.renamed π)
  | conversation .., found => found
  | canMessage _, allowed => allowed

def Action.renamed : (a : Action) → a.Answer → a.Answer
  | command c, answer => c.renamed π answer
  | question q, answer => q.renamed π answer

def Draft.renamed {α : Type} (answerRenamed : α → α) (d : Draft α) : Draft α :=
  ⟨d.answer.map answerRenamed, d.changes.map (Tables.Change.renamed π), d.taken⟩

/-! ## Names that stay -/

variable {π}

theorem Like.renamed_eq_self {l : Like} (h : π l.id = l.id) : l.renamed π = l := by
  rw [renamed, h]

theorem FriendRequest.renamed_eq_self {r : FriendRequest} (h : π r.id = r.id) :
    r.renamed π = r := by
  rw [renamed, h]

theorem Notification.renamed_eq_self {n : Notification} (h : ∀ id ∈ n.ids, π id = id) :
    n.renamed π = n := by
  have hid : π n.id = n.id := h n.id List.mem_cons_self
  have hpayload : n.payload.renamed π = n.payload := by
    obtain ⟨_, _, _, payload, _, _, _⟩ := n
    cases payload with
    | gracefulExit pair initiator => rfl
    | _ => simp only [NotificationPayload.renamed, h _ (List.mem_cons_of_mem _ List.mem_cons_self)]
  rw [renamed, hid, hpayload]

namespace Tables

variable {t t' : Tables}

/-- Every identifier in use keeps its name. -/
def Fixes (t : Tables) (π : Equiv.Perm Uuid) : Prop := ∀ id : Uuid, t.Uses id → π id = id

namespace Fixes

variable (h : t.Fixes π)

include h

theorem like {arrow : Arrow} {l : Like} (hl : t.likes[arrow]? = some l) : l.renamed π = l :=
  Like.renamed_eq_self (h _ (.inl ⟨arrow, l, hl, rfl⟩))

theorem request (ht : t.Keyed) {id : Uuid} {r : FriendRequest} (hr : t.requests[id]? = some r) :
    r.renamed π = r := by
  obtain ⟨rfl, _⟩ := ht.request hr
  exact FriendRequest.renamed_eq_self (h _ (.inr (.inl ⟨r, hr⟩)))

theorem notification {n : Notification} (hn : n ∈ t.notifications) : n.renamed π = n :=
  Notification.renamed_eq_self fun _ hid => h _ (.inr (.inr ⟨n, hn, hid⟩))

/-- A request is found under its name, and none under a name that is not in use. -/
theorem getElem?_requests (ht : t.Keyed) (id : Uuid) :
    t.requests[π id]? = t.requests[id]?.map (FriendRequest.renamed π) := by
  cases hr : t.requests[id]? with
  | some r =>
    rw [h _ (.inr (.inl ⟨r, hr⟩)), hr, Option.map_some, h.request ht hr]
  | none =>
    cases hr' : t.requests[π id]? with
    | none => rfl
    | some r =>
      have hid : π id = id := π.injective (h _ (.inr (.inl ⟨r, hr'⟩)))
      rw [hid, hr] at hr'
      cases hr'

theorem sameUpTo (ht : t.Keyed) : t.SameUpTo π t where
  likes arrow := by
    cases hl : t.likes[arrow]? with
    | none => rfl
    | some l => rw [Option.map_some, h.like hl]
  matchRows := rfl
  blocks := rfl
  requests := h.getElem?_requests ht
  conversations := rfl
  notifications user := by
    refine (List.map_id' _).symm.trans (List.map_congr_left fun n hn => ?_)
    exact (h.notification (List.mem_of_mem_filter hn)).symm

end Fixes

/-! ## Changes -/

theorem expiredOn_renamed (r : FriendRequest) (pair : PairId) (now : Instant) :
    (r.renamed π).expiredOn pair now = (r.expiredOn pair now).renamed π := by
  have hpending : (r.renamed π).isPending = r.isPending := rfl
  have hmatch : (r.renamed π).matchId = r.matchId := rfl
  unfold FriendRequest.expiredOn
  rw [hpending, hmatch]
  split <;> rfl

theorem getElem?_set_renamed {κ ν : Type} [Ord κ] [Std.TransOrd κ] [Std.LawfulEqOrd κ]
    [DecidableEq κ] {rows rows' : Rows κ ν} {σ : Equiv.Perm κ} {f : ν → ν}
    (h : ∀ key : κ, rows'[σ key]? = rows[key]?.map f) (key : κ) (row : Option ν) (other : κ) :
    (rows'.set (σ key) (row.map f))[σ other]? = (rows.set key row)[other]?.map f := by
  rw [Rows.get?_set, Rows.get?_set]
  by_cases hkey : key = other
  · rw [if_pos hkey, if_pos (congrArg σ hkey)]
  · rw [if_neg hkey, if_neg (σ.injective.ne hkey), h other]

/-- A change on either side, with the names that are in use there. -/
theorem SameUpTo.change (h : t.SameUpTo π t') (c : Change) :
    (t.change c).SameUpTo π (t'.change (c.renamed π)) := by
  rcases c with (⟨arrow, row⟩ | ⟨pair, row⟩ | ⟨arrow, row⟩ | ⟨id, row⟩ | ⟨pair, row⟩ | n) |
    ⟨pair, now⟩
  · have hlikes : ∀ key : Arrow, t'.likes[(1 : Equiv.Perm Arrow) key]? =
        t.likes[key]?.map (Like.renamed π) := h.likes
    exact { h with likes := getElem?_set_renamed hlikes arrow row }
  · exact { h with matchRows := congrArg (·.set pair row) h.matchRows }
  · exact { h with blocks := congrArg (·.set arrow row) h.blocks }
  · exact { h with requests := getElem?_set_renamed h.requests id row }
  · exact { h with conversations := congrArg (·.set pair row) h.conversations }
  · refine { h with notifications := ?_ }
    intro user
    have hrecipient : (n.renamed π).recipient = n.recipient := rfl
    simp only [Tables.change, write, Change.renamed, Write.renamed, List.filter_append,
      h.notifications user, List.map_append, List.filter_singleton, hrecipient]
    cases decide (n.recipient = user) <;> rfl
  · refine { h with requests := ?_ }
    intro id
    simp only [Tables.change, Change.renamed, getElem?_expire, h.requests id, Option.map_map]
    refine congrArg (t.requests[id]?.map ·) (funext fun r => ?_)
    exact expiredOn_renamed r pair now

theorem SameUpTo.changed (h : t.SameUpTo π t') (changes : List Change) :
    (t.changed changes).SameUpTo π (t'.changed (changes.map (Change.renamed π))) := by
  induction changes generalizing t t' with
  | nil => exact h
  | cons c changes ih => exact ih (h.change c)

theorem answerChanges_renamed (t : Tables) (now : Instant) (r : FriendRequest) (m : Match)
    (accept : Bool) (noticeId : Uuid) :
    (t.answerChanges now r m accept noticeId).map (Change.renamed π) =
      t.answerChanges now (r.renamed π) m accept (π noticeId) := by
  cases accept <;> rfl

theorem blockChanges_renamed (t : Tables) (arrow : Arrow) (now : Instant) :
    (t.blockChanges arrow now).map (Change.renamed π) = t.blockChanges arrow now := by
  unfold blockChanges
  split <;> split <;> rfl

end Tables

/-! ## Drafts -/

namespace Draft

variable {α : Type} {f : α → α}

theorem answered_renamed (a : α) (changes : List Tables.Change) (taken : Nat) :
    (answered a changes taken).renamed π f =
      answered (f a) (changes.map (Tables.Change.renamed π)) taken := rfl

theorem answeredWithNotice_renamed (rejects : Bool) (a : α) (changes : List Tables.Change)
    (taken : Nat) : (answeredWithNotice rejects a changes taken).renamed π f =
      answeredWithNotice rejects (f a) (changes.map (Tables.Change.renamed π)) taken := by
  unfold answeredWithNotice
  split <;> rfl

end Draft

namespace Tables.Fixes

variable {t : Tables} {now : Instant} (h : t.Fixes π)

include h

theorem upserted (arrow : Arrow) (direction : Direction) (id : Uuid) :
    (t.upserted arrow direction now id).renamed π = t.upserted arrow direction now (π id) := by
  unfold Tables.upserted
  cases hl : t.likes[arrow]? with
  | none => rfl
  | some l =>
    have hid : π l.id = l.id := h _ (.inl ⟨arrow, l, hl, rfl⟩)
    exact Like.renamed_eq_self hid

theorem swipeResult (arrow : Arrow) (direction : Direction) (id : Uuid) :
    (Command.swipe arrow direction).renamed π (t.swipeResult arrow direction now id) =
      t.swipeResult arrow direction now (π id) := by
  simp only [Command.renamed, Tables.swipeResult, h.upserted]

theorem swipeChanges (arrow : Arrow) (direction : Direction) (id : Uuid) :
    (t.swipeChanges arrow now direction id).map (Change.renamed π) =
      t.swipeChanges arrow now direction (π id) := by
  unfold Tables.swipeChanges
  rw [List.map_cons, ← h.upserted]
  split <;> rfl

theorem undoChanges {arrow : Arrow} {l : Like} (hl : t.likes[arrow]? = some l) (ended : Instant) :
    (t.undoChanges arrow now l ended).map (Change.renamed π) =
      t.undoChanges arrow now l ended := by
  have hwithdrawn : (l.withdrawn now).renamed π = l.withdrawn now :=
    congrArg (Like.withdrawn · now) (h.like hl)
  unfold Tables.undoChanges
  rw [List.map_cons, Change.renamed, Write.renamed, Option.map_some, hwithdrawn]
  split <;> rfl

theorem undoDraft (ht : t.Keyed) (rank : Arrow → Nat) (check : Operation.AgeCheck)
    (user : UserId) :
    t.undoDraft rank check user now =
      (t.undoDraft rank check user now).renamed π
        ((Command.undoLastSwipe user).renamed π) := by
  rw [Tables.undoDraft]
  cases hlast : t.lastInWindow rank check user now with
  | error why => rfl
  | ok l =>
    have hl := (ht.stands_latestLikeBy (Tables.lastInWindow_ok hlast)).stored
    have hundone : (l.withdrawn now).renamed π = l.withdrawn now :=
      congrArg (Like.withdrawn · now) (h.like hl)
    dsimp only
    rw [Draft.answered_renamed, h.undoChanges hl, Command.renamed, hundone]

end Tables.Fixes

variable {settings : Settings} {now : Instant} {rejects : Bool} {rank : Arrow → Nat} {t : Tables}

/-- With other names for the new identifiers a command drafts the same. -/
theorem Command.draft_renamed (h : t.Fixes π) (ht : t.Keyed) (new : Nat → Uuid) (c : Command) :
    c.draft settings now rejects rank t (fun i => π (new i)) =
      (c.draft settings now rejects rank t new).renamed π (c.renamed π) := by
  cases c with
  | swipe arrow direction =>
    simp only [draft]
    split
    · rfl
    · split
      · rfl
      · rw [Draft.answered_renamed, h.swipeResult, h.swipeChanges]
  | undoLastSwipe user => exact h.undoDraft ht rank _ user
  | propose arrow message =>
    simp only [draft]
    split
    · rfl
    · split
      · rfl
      · rw [Draft.answeredWithNotice_renamed]
        rfl
  | respond id responder accept =>
    rw [draft, draft]
    cases hfound : t.toAnswer id responder with
    | error e => rfl
    | ok found =>
      obtain ⟨r, current⟩ := found
      have hr := h.request ht (Tables.toAnswer_ok hfound).1
      have hclosed : (r.closed (Operation.verdict accept).2.2 now).renamed π =
          (r.renamed π).closed (Operation.verdict accept).2.2 now := rfl
      dsimp only
      rw [Draft.answeredWithNotice_renamed, t.answerChanges_renamed, renamed, hclosed, hr]
  | gracefulExit arrow =>
    rw [draft, draft]
    split
    · rfl
    · split
      · rfl
      · rw [Draft.answeredWithNotice_renamed]
        rfl
  | unmatch arrow =>
    rw [draft, draft]
    split <;> rfl
  | block arrow =>
    simp only [draft]
    split
    · rfl
    · rw [Draft.answered_renamed, t.blockChanges_renamed]
      rfl
  | unblock arrow =>
    simp only [draft]
    split <;> rfl

/-- The answer to a question names only identifiers in use. -/
theorem Question.reply_renamed (h : t.Fixes π) (ht : t.Keyed) (q : Question) :
    q.renamed π (q.reply t) = q.reply t := by
  cases q with
  | pendingRequestsFor user =>
    refine (List.map_congr_left fun r hr => ?_).trans (List.map_id' _)
    rw [reply, Tables.pendingRequestsFor, Tables.oldestFirst, List.mem_mergeSort] at hr
    have hstored := List.mem_of_mem_filter (List.mem_of_mem_filter hr)
    obtain ⟨id, hid⟩ := Rows.mem_values.1 hstored
    exact h.request ht hid
  | notificationsFor user =>
    refine (List.map_congr_left fun n hn => ?_).trans (List.map_id' _)
    rw [reply, Tables.notificationsFor, Tables.newestFirst, List.mem_mergeSort] at hn
    exact h.notification (List.mem_of_mem_filter hn)
  | _ => rfl

theorem Action.draft_renamed (h : t.Fixes π) (ht : t.Keyed) (new : Nat → Uuid) (a : Action) :
    a.draft settings now rejects rank t (fun i => π (new i)) =
      (a.draft settings now rejects rank t new).renamed π (a.renamed π) := by
  cases a with
  | command c => exact c.draft_renamed h ht new
  | question q =>
    rw [draft, draft, Draft.answered_renamed, renamed, q.reply_renamed h ht]
    rfl

variable {new : Nat → Uuid}

/-! ## Identifiers that are taken -/

/-- A draft that ends with a notification is indifferent to new identifiers if its answer and its
changes need no more of them than it takes when the notification is accepted. -/
theorem Draft.answeredWithNotice_congr {α : Type} {result result' : α}
    {changes changes' : List Tables.Change} {taken : Nat} {new' : Nat → Uuid}
    (hnew : ∀ i < (answeredWithNotice rejects result changes taken).taken, new' i = new i)
    (h : (∀ i ≤ taken, new' i = new i) → result' = result ∧ changes' = changes) :
    answeredWithNotice rejects result' changes' taken =
      answeredWithNotice rejects result changes taken := by
  cases rejects with
  | true => rfl
  | false =>
    obtain ⟨rfl, rfl⟩ := h fun i hi => hnew i (Nat.lt_succ_of_le hi)
    rfl

/-- A command is indifferent to new identifiers that it does not take. -/
theorem Command.draft_congr_new {new' : Nat → Uuid} {c : Command}
    (h : ∀ i < (c.draft settings now rejects rank t new).taken, new' i = new i) :
    c.draft settings now rejects rank t new' = c.draft settings now rejects rank t new := by
  cases c with
  | swipe arrow direction =>
    by_cases hself : arrow.actor = arrow.target
    · simp only [draft, if_pos hself]
    · simp only [draft, if_neg hself] at h ⊢
      cases hrefusal : t.swipeRefusal arrow with
      | some e => rfl
      | none =>
        simp only [hrefusal, Draft.answered] at h ⊢
        by_cases hstored : t.likes.contains arrow = true
        · have hlike := fun id => t.upserted_of_contains hstored direction now id (new 0)
          simp only [Tables.swipeResult, Tables.swipeChanges, hlike]
        · rw [if_neg hstored] at h
          rw [h 0 Nat.one_pos]
  | propose arrow message =>
    by_cases hself : arrow.actor = arrow.target
    · simp only [draft, if_pos hself]
    · simp only [draft, if_neg hself] at h ⊢
      cases hrefusal : t.proposalRefusal settings.relationships arrow message now with
      | some e => rfl
      | none =>
        simp only [hrefusal] at h ⊢
        refine Draft.answeredWithNotice_congr h fun hnew => ?_
        rw [hnew 0 (Nat.zero_le 1), hnew 1 (Nat.le_refl 1)]
        exact ⟨rfl, rfl⟩
  | respond id responder accept =>
    rw [draft] at h ⊢
    cases hfound : t.toAnswer id responder with
    | error e => rw [draft, hfound]
    | ok found =>
      rw [draft, hfound]
      rw [hfound] at h
      refine Draft.answeredWithNotice_congr h fun hnew => ?_
      rw [hnew 0 (Nat.le_refl 0)]
      exact ⟨rfl, rfl⟩
  | gracefulExit arrow =>
    rw [draft] at h ⊢
    cases hexited : t.exitedMatch arrow with
    | some current => rw [draft, hexited]
    | none =>
      cases hleave : t.matchToLeave arrow with
      | error e => simp only [draft, hexited, hleave]
      | ok current =>
        simp only [draft, hexited, hleave] at h ⊢
        refine Draft.answeredWithNotice_congr h fun hnew => ?_
        rw [hnew 0 (Nat.le_refl 0)]
        exact ⟨rfl, rfl⟩
  | undoLastSwipe user => rfl
  | unmatch arrow => rfl
  | block arrow => rfl
  | unblock arrow => rfl

theorem Draft.taken_answeredWithNotice_le {α : Type} (result : α) (changes : List Tables.Change)
    (taken : Nat) : (answeredWithNotice rejects result changes taken).taken ≤ taken + 1 := by
  unfold answeredWithNotice
  split
  · exact Nat.le_succ taken
  · exact Nat.le_refl _

theorem Command.taken_draft_le (c : Command) :
    (c.draft settings now rejects rank t new).taken ≤ 2 := by
  cases c with
  | swipe arrow direction =>
    simp only [draft]
    split
    · exact Nat.zero_le 2
    · split
      · exact Nat.zero_le 2
      · dsimp only [Draft.answered]
        split <;> omega
  | propose arrow message =>
    simp only [draft]
    split
    · exact Nat.zero_le 2
    · split
      · exact Nat.zero_le 2
      · exact Draft.taken_answeredWithNotice_le _ _ 1
  | respond id responder accept =>
    rw [draft]
    split
    · exact Nat.zero_le 2
    · exact (Draft.taken_answeredWithNotice_le _ _ 0).trans (Nat.le_succ 1)
  | gracefulExit arrow =>
    rw [draft]
    split
    · exact Nat.zero_le 2
    · split
      · exact Nat.zero_le 2
      · exact (Draft.taken_answeredWithNotice_le _ _ 0).trans (Nat.le_succ 1)
  | undoLastSwipe _ =>
    rw [draft, Tables.undoDraft]
    split <;> exact Nat.zero_le 2
  | unmatch _ | block _ | unblock _ =>
    simp only [draft]
    split <;> exact Nat.zero_le 2

theorem Action.taken_draft_le (a : Action) :
    (a.draft settings now rejects rank t new).taken ≤ 2 := by
  cases a with
  | command c => exact c.taken_draft_le
  | question q => exact Nat.zero_le 2

theorem Action.draft_congr_new {new' : Nat → Uuid} {a : Action}
    (h : ∀ i < (a.draft settings now rejects rank t new).taken, new' i = new i) :
    a.draft settings now rejects rank t new' = a.draft settings now rejects rank t new := by
  cases a with
  | command c => exact c.draft_congr_new h
  | question q => rfl

/-- A draft from new identifiers with other names. -/
theorem Action.draft_eq_renamed {π : Equiv.Perm Uuid} (h : t.Fixes π) (ht : t.Keyed)
    {new' : Nat → Uuid} {a : Action}
    (hnew : ∀ i < (a.draft settings now rejects rank t new).taken, new' i = π (new i)) :
    a.draft settings now rejects rank t new' =
      (a.draft settings now rejects rank t new).renamed π (a.renamed π) := by
  have hrenamed : (a.draft settings now rejects rank t fun i => π (new i)) =
      (a.draft settings now rejects rank t new).renamed π (a.renamed π) := a.draft_renamed h ht new
  have htaken : (a.draft settings now rejects rank t fun i => π (new i)).taken =
      (a.draft settings now rejects rank t new).taken := by
    rw [hrenamed]
    rfl
  rw [← hrenamed]
  exact Action.draft_congr_new (htaken ▸ hnew)

/-- Two neighbouring blocks of identifiers can change places, while every other one stays. -/
theorem Uuid.exists_exchange {k p q : Nat} (h : k + p + q ≤ 2 ^ 122) :
    ∃ π : Equiv.Perm Uuid, (∀ i < p, π (fresh (k + i)) = fresh (k + q + i)) ∧
      (∀ i < q, π (fresh (k + p + i)) = fresh (k + i)) ∧
      ∀ id, π id ≠ id → ∃ n, k ≤ n ∧ n < k + p + q ∧ id = fresh n := by
  let block : Fin (p + q) ↪ Uuid :=
    ⟨fun i => fresh (k + i), fun i j hij => by
      have hnumber := fresh_injective (by omega) (by omega) hij
      exact Fin.ext (by omega)⟩
  let e : Equiv.Perm (Fin (p + q)) := finAddFlip.trans (finCongr (Nat.add_comm q p))
  refine ⟨e.viaEmbedding block, ?_, ?_, ?_⟩
  · intro i hi
    have hmoved := e.viaEmbedding_apply block ⟨i, by omega⟩
    have hflip : e ⟨i, by omega⟩ = ⟨q + i, by omega⟩ := by
      simp [e, finAddFlip_apply_mk_left hi]
    rw [hflip] at hmoved
    rw [Nat.add_assoc]
    exact hmoved
  · intro i hi
    have hmoved := e.viaEmbedding_apply block ⟨p + i, by omega⟩
    have hflip : e ⟨p + i, by omega⟩ = ⟨i, by omega⟩ := by
      simp [e, finAddFlip_apply_mk_right (Nat.le_add_right p i)]
    rw [hflip] at hmoved
    rw [Nat.add_assoc]
    exact hmoved
  · intro id hid
    have hrange : id ∈ Set.range block := by
      by_contra hout
      exact hid (e.viaEmbedding_apply_of_notMem block id hout)
    obtain ⟨i, rfl⟩ := hrange
    exact ⟨k + i, by omega, by omega, rfl⟩

end Courtship
