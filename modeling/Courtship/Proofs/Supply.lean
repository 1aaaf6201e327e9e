import Courtship.Proofs.Changes
import Courtship.Proofs.World

/-! The supply of identifiers. New ones are counted, and until the count leaves 122 bits no two of
them are equal. What is stored was counted: no record has an identifier that is yet to be made. -/

namespace Courtship

/-! ## New identifiers -/

namespace Uuid

/-- The three pieces of the number of a new identifier, each in its place. -/
theorem toNat_fresh {n : Nat} (h : n < 2 ^ 122) :
    (fresh n).toNat = n / 2 ^ 74 * 2 ^ 80 + 2 ^ 78 + n / 2 ^ 62 % 2 ^ 12 * 2 ^ 64 + 2 ^ 63 +
      n % 2 ^ 62 := by
  have hhigh : n / 2 ^ 74 % 2 ^ 48 = n / 2 ^ 74 := Nat.mod_eq_of_lt (by omega)
  simp only [fresh, ofNat, toNat, BitVec.toNat_ofNat, Nat.shiftRight_eq_div_pow,
    Nat.shiftLeft_eq, Nat.one_mul, hhigh]
  omega

theorem fresh_injective {a b : Nat} (ha : a < 2 ^ 122) (hb : b < 2 ^ 122)
    (h : fresh a = fresh b) : a = b := by
  have hnat := congrArg toNat h
  rw [toNat_fresh ha, toNat_fresh hb] at hnat
  have hlow : a % 2 ^ 62 = b % 2 ^ 62 := by omega
  have hmiddle : a / 2 ^ 62 % 2 ^ 12 = b / 2 ^ 62 % 2 ^ 12 := by omega
  have hhigh : a / 2 ^ 74 = b / 2 ^ 74 := by omega
  omega

end Uuid

/-! ## Identifiers in use -/

/-- Its own identifier, and that of a request that it is about. -/
def Notification.ids (n : Notification) : List Uuid :=
  n.id :: match n.payload with
    | .friendRequest id .. | .friendRequestAccepted id .. | .friendRequestDeclined id .. => [id]
    | .gracefulExit .. => []

namespace Tables

/-- Whether some record has the identifier, or names it. -/
def Uses (t : Tables) (id : Uuid) : Prop :=
  (∃ (arrow : Arrow) (l : Like), t.likes[arrow]? = some l ∧ l.id = id) ∨
    (∃ r, t.requests[id]? = some r) ∨ ∃ n ∈ t.notifications, id ∈ n.ids

/-- The identifiers that a change may bring in. -/
def Change.ids : Change → List Uuid
  | .write (.like _ row) => row.toList.map Like.id
  | .write (.request id _) => [id]
  | .write (.notification n) => n.ids
  | .write _ | .expire .. => []

variable {t : Tables} {id : Uuid}

theorem uses_change {c : Change} (h : (t.change c).Uses id) : t.Uses id ∨ id ∈ c.ids := by
  rcases h with ⟨arrow, l, hl, rfl⟩ | ⟨r, hr⟩ | ⟨n, hn, hid⟩
  · rcases c with (⟨key, row⟩ | _ | _ | _ | _ | _) | _
    case write.like =>
      rw [change, write, Rows.get?_set] at hl
      split at hl
      · exact .inr (by simp [Change.ids, hl])
      · exact .inl (.inl ⟨arrow, l, hl, rfl⟩)
    all_goals exact .inl (.inl ⟨arrow, l, hl, rfl⟩)
  · rcases c with (_ | _ | _ | ⟨key, row⟩ | _ | _) | ⟨pair, now⟩
    case write.request =>
      rw [change, write, Rows.get?_set] at hr
      split at hr
      · rename_i hkey
        exact .inr (by simp [Change.ids, hkey])
      · exact .inl (.inr (.inl ⟨r, hr⟩))
    case expire =>
      rw [change, getElem?_expire, Option.map_eq_some_iff] at hr
      obtain ⟨r', hr', -⟩ := hr
      exact .inl (.inr (.inl ⟨r', hr'⟩))
    all_goals exact .inl (.inr (.inl ⟨r, hr⟩))
  · rcases c with (_ | _ | _ | _ | _ | added) | _
    case write.notification =>
      rcases List.mem_append.1 hn with hn | hn
      · exact .inl (.inr (.inr ⟨n, hn, hid⟩))
      · rw [List.mem_singleton.1 hn] at hid
        exact .inr hid
    all_goals exact .inl (.inr (.inr ⟨n, hn, hid⟩))

theorem uses_changed {changes : List Change} (h : (t.changed changes).Uses id) :
    t.Uses id ∨ id ∈ changes.flatMap Change.ids := by
  induction changes generalizing t with
  | nil => exact .inl h
  | cons c changes ih =>
    rw [List.flatMap_cons, List.mem_append]
    rcases ih h with h | hid
    · rcases uses_change h with h | hid
      · exact .inl h
      · exact .inr (.inl hid)
    · exact .inr (.inr hid)

/-! ## What the effects bring in -/

theorem uses_swiped {arrow : Arrow} {direction : Direction} {now : Instant} {new : Uuid}
    (h : (t.swiped arrow direction now new).Uses id) :
    t.Uses id ∨ t.likes.contains arrow = false ∧ id = new := by
  rw [swiped_eq_changed] at h
  have hids : (t.swipeChanges arrow now direction new).flatMap Change.ids =
      [(t.upserted arrow direction now new).id] := by
    unfold swipeChanges
    split <;> rfl
  rcases uses_changed h with h | hid
  · exact .inl h
  · rw [hids, List.mem_singleton, upserted] at hid
    rw [Rows.contains_eq]
    cases hl : t.likes[arrow]? with
    | none =>
      rw [hl] at hid
      exact .inr ⟨rfl, hid⟩
    | some l =>
      rw [hl] at hid
      exact .inl (.inl ⟨arrow, l, hl, hid.symm⟩)

theorem uses_undone {arrow : Arrow} {l : Like} (hl : t.likes[arrow]? = some l)
    {now ended : Instant} (h : (t.undone arrow l now ended).Uses id) : t.Uses id := by
  rw [undone_eq_changed] at h
  have hids : (t.undoChanges arrow now l ended).flatMap Change.ids = [l.id] := by
    unfold undoChanges
    split <;> rfl
  rcases uses_changed h with h | hid
  · exact h
  · rw [hids, List.mem_singleton] at hid
    exact .inl ⟨arrow, l, hl, hid.symm⟩

theorem uses_proposed {r : FriendRequest} {noticeId : Uuid}
    (h : (t.proposed r noticeId).Uses id) : t.Uses id ∨ id = r.id ∨ id = noticeId := by
  rw [proposed_eq_changed] at h
  have hids : (proposeChanges r noticeId).flatMap Change.ids = [r.id, noticeId, r.id] := rfl
  rcases uses_changed h with h | hid
  · exact .inl h
  · simp only [hids, List.mem_cons, List.not_mem_nil, or_false] at hid
    rcases hid with hid | hid | hid
    · exact .inr (.inl hid)
    · exact .inr (.inr hid)
    · exact .inr (.inl hid)

theorem uses_responded {r : FriendRequest} (hr : t.requests[r.id]? = some r) {m : Match}
    {accept : Bool} {noticeId : Uuid} {now : Instant}
    (h : (t.responded r m accept noticeId now).Uses id) : t.Uses id ∨ id = noticeId := by
  rw [responded_eq_changed] at h
  have hids : (t.answerChanges now r m accept noticeId).flatMap Change.ids =
      [r.id, noticeId, r.id] := by
    cases accept <;> rfl
  rcases uses_changed h with h | hid
  · exact .inl h
  · simp only [hids, List.mem_cons, List.not_mem_nil, or_false] at hid
    rcases hid with rfl | hid | rfl
    · exact .inl (.inr (.inl ⟨r, hr⟩))
    · exact .inr hid
    · exact .inl (.inr (.inl ⟨r, hr⟩))

theorem uses_left {arrow : Arrow} {m : Match} {target : MatchState} {reason : ArchiveReason}
    {now : Instant} (h : (t.left arrow m target reason now).Uses id) : t.Uses id := by
  rw [left_eq_changed] at h
  rcases uses_changed h with h | hid
  · exact h
  · cases hid

theorem uses_exited {arrow : Arrow} {m : Match} {noticeId : Uuid} {now : Instant}
    (h : (t.exited arrow m noticeId now).Uses id) : t.Uses id ∨ id = noticeId := by
  rw [exited_eq_changed] at h
  have hids : (t.exitChanges arrow now m noticeId).flatMap Change.ids = [noticeId] := rfl
  rcases uses_changed h with h | hid
  · exact .inl h
  · rw [hids, List.mem_singleton] at hid
    exact .inr hid

theorem uses_barred {arrow : Arrow} {now : Instant} (h : (t.barred arrow now).Uses id) :
    t.Uses id := by
  rw [barred_eq_changed] at h
  have hids : (t.blockChanges arrow now).flatMap Change.ids = [] := by
    unfold blockChanges
    split <;> split <;> rfl
  rcases uses_changed h with h | hid
  · exact h
  · rw [hids] at hid
    cases hid

theorem uses_unblocked {arrow : Arrow} (h : (t.unblocked arrow).Uses id) : t.Uses id := by
  rw [unblocked_eq_changed] at h
  rcases uses_changed h with h | hid
  · exact h
  · cases hid

end Tables

/-! ## Draws -/

/-- From one memory to the next identifiers were only taken from the supply: what is newly in use
was made in between. -/
structure Memory.Draws (m m' : Memory) : Prop where
  minted_le : m.minted ≤ m'.minted
  uses : ∀ {id : Uuid}, m'.tables.Uses id →
    m.tables.Uses id ∨ ∃ n, m.minted ≤ n ∧ n < m'.minted ∧ id = .fresh n

/-- Everything in use was made. -/
def Memory.Supplied (m : Memory) : Prop :=
  ∀ id : Uuid, m.tables.Uses id → ∃ n < m.minted, id = .fresh n

namespace Memory

variable {m m' m'' : Memory}

theorem Draws.refl (m : Memory) : m.Draws m := ⟨Nat.le_refl _, .inl⟩

theorem Draws.trans (h : m.Draws m') (h' : m'.Draws m'') : m.Draws m'' where
  minted_le := Nat.le_trans h.minted_le h'.minted_le
  uses hid := by
    have hle' := h'.minted_le
    have hle := h.minted_le
    rcases h'.uses hid with hid | ⟨n, hn, hlt, rfl⟩
    · rcases h.uses hid with hid | ⟨n, hn, hlt, rfl⟩
      · exact .inl hid
      · exact .inr ⟨n, hn, by omega, rfl⟩
    · exact .inr ⟨n, by omega, hlt, rfl⟩

theorem Draws.supplied (h : m.Draws m') (hm : m.Supplied) : m'.Supplied := by
  intro id hid
  have hle := h.minted_le
  rcases h.uses hid with hid | ⟨n, -, hlt, rfl⟩
  · obtain ⟨n, hlt, rfl⟩ := hm id hid
    exact ⟨n, by omega, rfl⟩
  · exact ⟨n, hlt, rfl⟩

/-- What is yet to be made is not in use. -/
theorem Supplied.getElem?_requests (h : m.Supplied) {n : Nat} (hle : m.minted ≤ n)
    (hroom : n < 2 ^ 122) : m.tables.requests[Uuid.fresh n]? = none := by
  cases hr : m.tables.requests[Uuid.fresh n]? with
  | none => rfl
  | some r =>
    obtain ⟨j, hj, hsame⟩ := h _ (.inr (.inl ⟨r, hr⟩))
    have hn := Uuid.fresh_injective hroom (by omega) hsame
    omega

theorem draws_of_tables (htables : m'.tables = m.tables) (hle : m.minted ≤ m'.minted) :
    m.Draws m' := ⟨hle, fun hid => .inl (htables ▸ hid)⟩

theorem minted_le_perform_call (m : Memory) (c : Call) : m.minted ≤ (m.perform c).2.minted := by
  cases c
  case upsertLike =>
    rw [perform_upsertLike]
    dsimp only
    split <;> omega
  case createNotification =>
    rw [perform_createNotification]
    split
    · exact Nat.le_refl _
    · exact Nat.le_succ _
  all_goals
    simp only [perform, MemoryUnit.perform, MemoryUnit.softDeleteLike,
      MemoryUnit.createMatchIfAbsent, MemoryUnit.updateMatchState, MemoryUnit.recordBlock,
      MemoryUnit.removeBlock, MemoryUnit.insertRequest, MemoryUnit.updateRequestStatus,
      MemoryUnit.getOrCreateConversation, MemoryUnit.archiveConversation,
      MemoryUnit.setVisibility]
    repeat' split
    all_goals exact Nat.le_refl _

end Memory

/-! ## Work and units -/

namespace Work

variable {α : Type}

theorem minted_le_perform (w : Work α) (m : Memory) : m.minted ≤ (w.perform m).2.minted := by
  induction w generalizing m with
  | done a => exact Nat.le_refl _
  | fail why => exact Nat.le_refl _
  | newId next ih =>
    have hrest := ih (.fresh m.minted) { m with minted := m.minted + 1 }
    exact Nat.le_trans (Nat.le_succ m.minted) hrest
  | call c next ih =>
    have hcall := m.minted_le_perform_call c
    rw [perform_call]
    rcases hperform : m.perform c with ⟨e | reply, m'⟩ <;> rw [hperform] at hcall
    · exact hcall
    · exact Nat.le_trans hcall (ih reply m')

theorem minted_inUnit (w : Work (Ending α)) (m : Memory) :
    (w.inUnit m).2.minted = (w.perform m).2.minted := by
  rw [inUnit_eq]
  rcases w.perform m with ⟨why | a | a, m'⟩
  · rfl
  · rw [Memory.settle]
    split <;> rfl
  · rfl

theorem minted_le_inUnit (w : Work (Ending α)) (m : Memory) :
    m.minted ≤ (w.inUnit m).2.minted := by
  rw [minted_inUnit]
  exact w.minted_le_perform m

theorem draws_look (w : Work α) (m : Memory) : m.Draws (w.look m).2 := by
  rw [look_eq]
  exact Memory.draws_of_tables rfl (w.minted_le_perform m)

end Work

/-! ## Commands -/

namespace Operation

variable {m m' : Memory} {arrow : Arrow} {now : Instant}

theorem draws_swipeWork (hne : arrow.actor ≠ arrow.target) {direction : Direction}
    {answer : SwipeResult} (h : (swipeWork arrow direction now).inUnit m = (.ok answer, m')) :
    m.Draws m' := by
  rcases Work.inUnit_ok h with h | ⟨_, h, _⟩ <;> rw [perform_swipeWork hne] at h <;>
    split at h <;> cases h
  refine ⟨by dsimp only; split <;> omega, fun hid => ?_⟩
  rcases Tables.uses_swiped hid with hid | ⟨hnew, rfl⟩
  · exact .inl hid
  · exact .inr ⟨m.minted, Nat.le_refl _, by simp [hnew], rfl⟩

theorem draws_undoWork {check : AgeCheck} (hm : m.tables.Keyed) {readings : Readings}
    {answer : UndoResult}
    (h : (undoWork check arrow readings).inUnit m = (.ok answer, m')) : m.Draws m' := by
  rcases Work.inUnit_ok h with h | ⟨_, h, _⟩ <;> rw [perform_undoWork check hm] at h <;>
    split at h <;> cases h
  rename_i l hl
  exact ⟨Nat.le_refl _, fun hid => .inl (Tables.uses_undone (Tables.toWithdraw_ok hl).1 hid)⟩

theorem draws_proposeWork {settings : RelationshipSettings} {message : String}
    {answer : FriendRequest}
    (h : (proposeWork settings arrow message now).inUnit m = (.ok answer, m')) : m.Draws m' := by
  rcases Work.inUnit_ok h with h | ⟨_, h, _⟩ <;> rw [perform_proposeWork] at h <;>
    split at h <;> try cases h
  all_goals
    rw [perform_insertProposal] at h
    dsimp only at h
    split at h
    · cases h
    split at h <;> cases h
  refine ⟨Nat.le_add_right _ _, fun hid => ?_⟩
  rcases Tables.uses_proposed hid with hid | rfl | rfl
  · exact .inl hid
  · exact .inr ⟨m.minted, Nat.le_refl _, by dsimp only; omega, rfl⟩
  · exact .inr ⟨m.minted + 1, Nat.le_succ _, Nat.lt_succ_self _, rfl⟩

theorem draws_respondWork {id : Uuid} {responder : UserId} {accept : Bool} (hm : m.tables.Keyed)
    {answer : FriendRequest}
    (h : (respondWork id responder accept now).inUnit m = (.ok answer, m')) : m.Draws m' := by
  obtain ⟨r, current, hfound, rfl, htables⟩ := inUnit_respondWork_ok hm h
  have hchecks := perform_answerable id responder m
  rw [hfound] at hchecks
  obtain ⟨hr, rfl, _, hc, hs⟩ := Tables.toAnswer_ok hfound
  obtain rfl := (hm.request hr).1
  rcases Work.inUnit_ok h with h | ⟨_, h, _⟩ <;>
    rw [respondWork_eq, Work.perform_bind_ok hchecks, perform_recordAnswer hm hr hc hs] at h <;>
    split at h <;> cases h
  refine ⟨Nat.le_succ _, fun hid => ?_⟩
  rcases Tables.uses_responded hr hid with hid | rfl
  · exact .inl hid
  · exact .inr ⟨m.minted, Nat.le_refl _, Nat.lt_succ_self _, rfl⟩

theorem draws_gracefulExitWork (hm : m.tables.Keyed) {answer : Match}
    (h : (gracefulExitWork arrow now).inUnit m = (.ok answer, m')) : m.Draws m' := by
  obtain ⟨current, hstored, ⟨_, _, htables⟩ | ⟨hs, _, htables⟩⟩ := inUnit_gracefulExitWork_ok hm h
  · have hminted := (gracefulExitWork arrow now).minted_le_inUnit m
    rw [h] at hminted
    exact Memory.draws_of_tables htables hminted
  · rcases Work.inUnit_ok h with h | ⟨_, h, _⟩ <;>
      rw [perform_gracefulExitWork hm hstored hs] at h <;> split at h <;> cases h
    refine ⟨Nat.le_succ _, fun hid => ?_⟩
    rcases Tables.uses_exited hid with hid | rfl
    · exact .inl hid
    · exact .inr ⟨m.minted, Nat.le_refl _, Nat.lt_succ_self _, rfl⟩

end Operation

/-- The unit of a command takes its identifiers from the supply. -/
theorem draws_inUnit {settings : Settings} {c : Command} {first : Readings} {m₀ : Memory}
    {a b : UserId} {retries : Nat} {body : Readings → Work (Ending c.Answer)}
    (hplan : ((c.operation settings).plan first m₀).1 = .locked a b retries body) {m : Memory}
    (hm : m.tables.Keyed) (readings : Readings) : m.Draws ((body readings).inUnit m).2 := by
  have hminted := (body readings).minted_le_inUnit m
  rcases hunit : (body readings).inUnit m with ⟨why | answer, m'⟩ <;> rw [hunit] at hminted
  · exact Memory.draws_of_tables (Work.tables_inUnit_error hunit) hminted
  · cases c with
    | swipe arrow direction =>
      simp only [Command.operation, Operation.swipe] at hplan
      split at hplan <;> cases hplan
      rename_i hne
      exact Operation.draws_swipeWork hne hunit
    | undoLastSwipe user =>
      rw [Command.operation] at hplan
      obtain ⟨l, _, rfl⟩ := Operation.eq_of_plan_undoLastSwipe hplan
      exact Operation.draws_undoWork hm hunit
    | propose arrow message =>
      simp only [Command.operation, Operation.propose] at hplan
      split at hplan <;> cases hplan
      exact Operation.draws_proposeWork hunit
    | respond id responder accept =>
      rw [Command.operation, Operation.plan_respond] at hplan
      dsimp only at hplan
      split at hplan <;> cases hplan
      exact Operation.draws_respondWork hm hunit
    | gracefulExit arrow =>
      cases hplan
      exact Operation.draws_gracefulExitWork hm hunit
    | unmatch arrow =>
      cases hplan
      obtain ⟨current, _, _, _, htables⟩ := Operation.inUnit_unmatchWork_ok hm hunit
      exact ⟨hminted, fun hid => .inl (Tables.uses_left (htables ▸ hid))⟩
    | block arrow =>
      simp only [Command.operation, Operation.block] at hplan
      split at hplan <;> cases hplan
      obtain ⟨_, htables⟩ := Operation.inUnit_blockWork_ok hm hunit
      exact ⟨hminted, fun hid => .inl (Tables.uses_barred (htables ▸ hid))⟩
    | unblock arrow =>
      simp only [Command.operation, Operation.unblock] at hplan
      split at hplan <;> cases hplan
      obtain ⟨_, htables⟩ := Operation.inUnit_unblock_ok hunit
      exact ⟨hminted, fun hid => .inl (Tables.uses_unblocked (htables ▸ hid))⟩

/-! ## Runs -/

namespace World

variable {settings : Settings} {w : World}

theorem draws_called (c : Command) (readings : Readings) :
    w.memory.Draws (w.called settings c readings).memory := by
  have hmemory : (w.called settings c readings).memory =
      ((c.operation settings).plan readings w.memory).2 := by
    unfold called
    split <;> simp only [*]
  rw [hmemory]
  cases hop : c.operation settings with
  | plain plan => exact .refl _
  | reading look =>
    have hlook := look.draws_look w.memory
    rw [Operation.plan]
    rcases hresult : look.look w.memory with ⟨why | plan, m⟩ <;> rw [hresult] at hlook <;>
      exact hlook

theorem draws_attempted (hw : w.Sound settings) {place : Nat} {task : Task}
    (htask : w.tasks[place]? = some task) (readings : Readings) :
    w.memory.Draws (w.attempted place task readings).memory := by
  obtain ⟨first, m₀, retries, hplan⟩ := hw.planned task (List.mem_of_getElem? htask)
  have hunit := draws_inUnit hplan hw.keyed readings
  have hmemory : (w.attempted place task readings).memory =
      ((task.body readings).inUnit w.memory).2 := by
    unfold attempted
    split <;> simp only [*]
  rw [hmemory]
  exact hunit

theorem draws_step (hw : w.Sound settings) (e : Event) :
    w.memory.Draws (w.step settings e).memory := by
  cases e with
  | call c readings => exact draws_called c readings
  | attempt place readings =>
    simp only [step]
    split
    · rename_i task htask
      exact draws_attempted hw htask readings
    · exact .refl _
  | timeOut place user =>
    simp only [step]
    split <;> exact .refl _
  | cancel place => exact .refl _
  | ask question => exact question.work.draws_look w.memory
  | setFaults rejectsNotifications commitConflicts => exact ⟨Nat.le_refl _, .inl⟩
  | rerank rank => exact ⟨Nat.le_refl _, .inl⟩

theorem draws_run (before after : List Event) :
    (run settings before).memory.Draws (run settings (before ++ after)).memory := by
  induction after using List.reverseRecOn with
  | nil =>
    rw [List.append_nil]
    exact .refl _
  | append_singleton after e ih =>
    rw [← List.append_assoc, run_concat]
    exact ih.trans (draws_step (sound_run _) e)

theorem supplied_run (settings : Settings) (events : List Event) :
    (run settings events).memory.Supplied := by
  refine (draws_run [] events).supplied ?_
  rintro id (⟨arrow, l, hl, _⟩ | ⟨r, hr⟩ | ⟨n, hn, _⟩)
  · simp [run, empty, Memory.empty, Tables.empty] at hl
  · simp [run, empty, Memory.empty, Tables.empty] at hr
  · simp [run, empty, Memory.empty, Tables.empty] at hn

end World

end Courtship
