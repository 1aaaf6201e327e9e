import Courtship.Operation.Command
import Courtship.Proofs.Effect.Blocking
import Courtship.Proofs.Effect.Ending
import Courtship.Proofs.Effect.FriendZone
import Courtship.Proofs.Effect.Swiping
import Courtship.Proofs.Effect.Undoing

/-! Everything that a successful command can do to the tables. -/

namespace Courtship

/-- What a command may answer, and the tables that it leaves then. -/
inductive Effect (settings : Settings) (readings : Readings) (t : Tables) :
    (c : Command) → c.Answer → Tables → Prop where
  | swipe (arrow : Arrow) (direction : Direction) (id : Uuid) (hne : arrow.actor ≠ arrow.target)
      (hopen : t.swipeRefusal arrow = none) :
      Effect settings readings t (.swipe arrow direction)
        (t.swipeResult arrow direction (readings 0) id)
        (t.swiped arrow direction (readings 0) id)
  | undo (arrow : Arrow) (l : Like)
      (hl : t.toWithdraw (Operation.requireInWindow settings.matching) arrow (readings 1) =
        .ok l) :
      Effect settings readings t (.undoLastSwipe arrow.actor)
        ⟨l.withdrawn (readings 0), t.matchEnded arrow l (readings 2)⟩
        (t.undone arrow l (readings 0) (readings 2))
  | propose (arrow : Arrow) (message : String) (id noticeId : Uuid)
      (hne : arrow.actor ≠ arrow.target)
      (hopen : t.proposalRefusal settings.relationships arrow message (readings 0) = none)
      (hfree : t.requests[id]? = none) :
      Effect settings readings t (.propose arrow message)
        (.new id arrow.actor arrow.target (String.ofList (trimmed message.toList)) (readings 0))
        (t.proposed (.new id arrow.actor arrow.target (String.ofList (trimmed message.toList))
          (readings 0)) noticeId)
  | respond (id noticeId : Uuid) (responder : UserId) (accept : Bool) (r : FriendRequest)
      (current : Match) (hfound : t.toAnswer id responder = .ok (r, current)) :
      Effect settings readings t (.respond id responder accept)
        (r.closed (Operation.verdict accept).2.2 (readings 0))
        (t.responded r current accept noticeId (readings 0))
  | exitAgain (arrow : Arrow) (current : Match)
      (hstored : t.matchRows[PairId.of arrow.actor arrow.target]? = some current)
      (hs : current.state = .gracefulExit) :
      Effect settings readings t (.gracefulExit arrow) current t
  | exit (arrow : Arrow) (current : Match) (noticeId : Uuid)
      (hstored : t.matchRows[PairId.of arrow.actor arrow.target]? = some current)
      (hs : current.state.isTerminal = false) :
      Effect settings readings t (.gracefulExit arrow)
        (current.moved .gracefulExit arrow.actor (some .gracefulExit) (readings 0))
        (t.exited arrow current noticeId (readings 0))
  | unmatch (arrow : Arrow) (current : Match)
      (hstored : t.matchRows[PairId.of arrow.actor arrow.target]? = some current)
      (hs : current.state.isTerminal = false) :
      Effect settings readings t (.unmatch arrow)
        (current.moved .unmatched arrow.actor (some .unmatch) (readings 0))
        (t.left arrow current .unmatched .unmatch (readings 0))
  | block (arrow : Arrow) (hne : arrow.actor ≠ arrow.target) :
      Effect settings readings t (.block arrow)
        (t.matchRows[PairId.of arrow.actor arrow.target]?.map fun m =>
          m.barredBy arrow.actor (readings 0))
        (t.barred arrow (readings 0))
  | unblock (arrow : Arrow) (hne : arrow.actor ≠ arrow.target) :
      Effect settings readings t (.unblock arrow) (t.blocks.contains arrow) (t.unblocked arrow)

variable {settings : Settings} {readings : Readings} {t t' : Tables}

theorem Effect.keyed {c : Command} {answer : c.Answer} (h : Effect settings readings t c answer t')
    (ht : t.Keyed) : t'.Keyed := by
  cases h with
  | swipe arrow direction id => exact ht.swiped arrow direction _ id
  | undo arrow l hl => exact ht.undone (Tables.toWithdraw_ok hl).1 _ _
  | propose arrow message id noticeId => exact ht.proposed id _ _ _ _ noticeId
  | respond id noticeId responder accept r current hfound =>
    obtain ⟨hr, _, _, hm, _⟩ := Tables.toAnswer_ok hfound
    obtain rfl := (ht.request hr).1
    exact ht.responded hr hm accept noticeId _
  | exitAgain => exact ht
  | exit arrow current noticeId hstored => exact ht.exited hstored noticeId _
  | unmatch arrow current hstored => exact ht.left hstored _ _ _
  | block arrow => exact ht.barred arrow _
  | unblock arrow => exact ht.unblocked arrow

/-! ## Plans -/

namespace Operation

/-- What is found without a lock decides whose locks are taken, and nothing else. -/
theorem plan_respond (id : Uuid) (responder : UserId) (accept : Bool) (readings : Readings)
    (m : Memory) :
    (respond id responder accept).plan readings m =
      (match m.tables.requests[id]? with
        | none => .reject .requestNotFound
        | some r => .locked r.fromUser r.toUser 0 fun readings =>
          respondWork id responder accept (readings 0), m) := by
  cases h : m.tables.requests[id]? <;> simp [respond, plan, Work.look_eq, h]

theorem plan_undoLastSwipe (check : AgeCheck) (user : UserId) (readings : Readings) (m : Memory) :
    (undoLastSwipe check user).plan readings m =
      (match m.latestLikeBy user with
        | none => .reject .nothingToUndo
        | some l =>
          match check l (readings 0) with
          | .error why => .answer (.error why)
          | .ok () => .locked user l.toUser 0 (undoWork check ⟨user, l.toUser⟩), m) := by
  unfold undoLastSwipe
  cases h : m.latestLikeBy user with
  | none => simp [plan, Work.look_eq, h]
  | some l => cases hcheck : check l (readings 0) <;> simp [plan, Work.look_eq, h, hcheck]

/-- Without a swipe, or with one that does not pass the check, undoing fails before its locks. -/
theorem plan_undoLastSwipe_cases (check : AgeCheck) (user : UserId) (readings : Readings)
    (m : Memory) :
    (∃ why, ((undoLastSwipe check user).plan readings m).1 = .answer (.error why)) ∨
      ∃ l, m.latestLikeBy user = some l ∧
        ((undoLastSwipe check user).plan readings m).1 =
          .locked user l.toUser 0 (undoWork check ⟨user, l.toUser⟩) := by
  rw [plan_undoLastSwipe]
  cases hlatest : m.latestLikeBy user with
  | none => exact .inl ⟨_, rfl⟩
  | some l =>
    dsimp only
    cases hcheck : check l (readings 0) with
    | error why => exact .inl ⟨why, rfl⟩
    | ok _ => exact .inr ⟨l, rfl, rfl⟩

theorem eq_of_plan_undoLastSwipe {check : AgeCheck} {user a b : UserId} {readings : Readings}
    {m : Memory} {retries : Nat} {body : Readings → Work (Ending UndoResult)}
    (h : ((undoLastSwipe check user).plan readings m).1 = .locked a b retries body) :
    ∃ l, m.latestLikeBy user = some l ∧ body = undoWork check ⟨user, l.toUser⟩ := by
  obtain ⟨why, hwhy⟩ | ⟨l, hlatest, hlocked⟩ := plan_undoLastSwipe_cases check user readings m
  · cases h.symm.trans hwhy
  · obtain ⟨-, -, -, rfl⟩ := Plan.locked.inj (h.symm.trans hlocked)
    exact ⟨l, hlatest, rfl⟩

end Operation

/-- The unit of a command, once it has been planned on any memory, has one of the effects of the
command. -/
theorem effect_of_inUnit {c : Command} {first : Readings} {m₀ m m' : Memory} {a b : UserId}
    {retries : Nat} {body : Readings → Work (Ending c.Answer)} {answer : c.Answer}
    (hplan : ((c.operation settings).plan first m₀).1 = .locked a b retries body)
    (hm : m.tables.Keyed) (h : (body readings).inUnit m = (.ok answer, m')) :
    Effect settings readings m.tables c answer m'.tables := by
  cases c with
  | swipe arrow direction =>
    simp only [Command.operation, Operation.swipe] at hplan
    split at hplan <;> cases hplan
    rename_i hne
    obtain ⟨hopen, rfl, htables⟩ := Operation.inUnit_swipeWork_ok hne h
    rw [htables]
    exact .swipe arrow direction _ hne hopen
  | undoLastSwipe user =>
    rw [Command.operation] at hplan
    obtain ⟨l, _, rfl⟩ := Operation.eq_of_plan_undoLastSwipe hplan
    obtain ⟨l', hl, rfl, htables⟩ := Operation.inUnit_undoWork_ok hm h
    rw [htables]
    exact .undo ⟨user, l.toUser⟩ l' hl
  | propose arrow message =>
    simp only [Command.operation, Operation.propose] at hplan
    split at hplan <;> cases hplan
    rename_i hne
    obtain ⟨hopen, hfree, rfl, htables⟩ := Operation.inUnit_proposeWork_ok h
    rw [htables]
    exact .propose arrow message _ _ hne hopen hfree
  | respond id responder accept =>
    rw [Command.operation, Operation.plan_respond] at hplan
    dsimp only at hplan
    split at hplan <;> cases hplan
    obtain ⟨r, current, hfound, rfl, htables⟩ := Operation.inUnit_respondWork_ok hm h
    rw [htables]
    exact .respond id _ responder accept r current hfound
  | gracefulExit arrow =>
    cases hplan
    obtain ⟨current, hstored, ⟨hs, rfl, htables⟩ | ⟨hs, rfl, htables⟩⟩ :=
      Operation.inUnit_gracefulExitWork_ok hm h <;> rw [htables]
    · exact .exitAgain arrow answer hstored hs
    · exact .exit arrow current _ hstored hs
  | unmatch arrow =>
    cases hplan
    obtain ⟨current, hstored, hs, rfl, htables⟩ := Operation.inUnit_unmatchWork_ok hm h
    rw [htables]
    exact .unmatch arrow current hstored hs
  | block arrow =>
    simp only [Command.operation, Operation.block] at hplan
    split at hplan <;> cases hplan
    rename_i hne
    obtain ⟨rfl, htables⟩ := Operation.inUnit_blockWork_ok hm h
    rw [htables]
    exact .block arrow hne
  | unblock arrow =>
    simp only [Command.operation, Operation.unblock] at hplan
    split at hplan <;> cases hplan
    rename_i hne
    obtain ⟨rfl, htables⟩ := Operation.inUnit_unblock_ok h
    rw [htables]
    exact .unblock arrow hne

end Courtship
