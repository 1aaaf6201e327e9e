import Courtship.Proofs.InPlace
import Courtship.Proofs.Rows

/-! Taking a unit back, whatever its calls came to. The log holds one entry for each write and is
played newest first. It is enough to keep what each key held before the unit first wrote there: then
the entries may be put back in any order. -/

namespace Courtship

/-! ## Rows -/

namespace Rows

variable {κ ν : Type} [Ord κ] [Std.TransOrd κ]

/-- Puts back what each of these keys held. -/
def restore (t : Rows κ ν) (entries : List (κ × Option ν)) : Rows κ ν :=
  entries.foldl (fun t e => t.set e.1 e.2) t

/-- The first entry of a key stays. -/
def remember (priors : Rows κ (Option ν)) (t : Rows κ ν) (key : κ) : Rows κ (Option ν) :=
  Std.ExtTreeMap.insertIfNew priors key t[key]?

/-- The priors hold what was there at the start under every key that may hold something else now. -/
def Remembers (priors : Rows κ (Option ν)) (start now : Rows κ ν) : Prop :=
  ∀ key : κ,
    priors[key]? = some start[key]? ∨ (priors[key]? = none ∧ now[key]? = start[key]?)

theorem remembers_start (t : Rows κ ν) : Remembers ∅ t t :=
  fun _ => .inr ⟨Std.ExtTreeMap.getElem?_empty, rfl⟩

variable [Std.LawfulEqOrd κ] [DecidableEq κ] {priors : Rows κ (Option ν)} {start now : Rows κ ν}

theorem getElem?_remember (priors : Rows κ (Option ν)) (t : Rows κ ν) (key other : κ) :
    (remember priors t key)[other]? =
      if key = other then some (priors[key]?.getD t[key]?) else priors[other]? := by
  rw [remember, Std.ExtTreeMap.getElem?_insertIfNew]
  by_cases hkey : key = other
  · subst hkey
    cases hprior : priors[key]? with
    | none =>
      have hnot : key ∉ priors := by
        rw [Std.ExtTreeMap.mem_iff_isSome_getElem?, hprior]
        exact Bool.false_ne_true
      simp [hnot]
    | some prior =>
      have hmem : key ∈ priors := by
        rw [Std.ExtTreeMap.mem_iff_isSome_getElem?, hprior]
        rfl
      simp [hmem]
  · simp [hkey]

/-- A key that is remembered may be written. -/
theorem Remembers.write (h : Remembers priors start now) (key : κ) (row : Option ν) :
    Remembers (remember priors now key) start (now.set key row) := by
  intro other
  rw [getElem?_remember, get?_set]
  by_cases hkey : key = other
  · subst hkey
    rcases h key with hprior | ⟨hnone, hsame⟩
    · simp [hprior]
    · simp [hnone, hsame]
  · simpa [hkey] using h other

/-- To remember a key again, or one that is then not written, does no harm. -/
theorem Remembers.again (h : Remembers priors start now) (key : κ) :
    Remembers (remember priors now key) start now := by
  have hwrite := h.write key now[key]?
  rwa [set_eq_self rfl] at hwrite

/-- The entries of one key agree, so that their order and their number do not matter. -/
theorem getElem?_restore {entries : List (κ × Option ν)} (h : ∀ e ∈ entries, e.2 = start[e.1]?)
    (now : Rows κ ν) (key : κ) :
    (restore now entries)[key]? =
      if key ∈ entries.map Prod.fst then start[key]? else now[key]? := by
  induction entries generalizing now with
  | nil => rfl
  | cons e entries ih =>
    have hrest := ih (fun e' he' => h e' (List.mem_cons_of_mem _ he')) (now.set e.1 e.2)
    rw [get?_set, h e List.mem_cons_self] at hrest
    rw [restore, List.foldl_cons, ← restore, h e List.mem_cons_self, hrest]
    by_cases hkey : e.1 = key
    · subst hkey
      simp only [List.map_cons, List.mem_cons_self, ↓reduceIte, ite_self]
    · simp only [hkey, Ne.symm hkey, List.map_cons, List.mem_cons, ↓reduceIte, false_or]

/-- The priors, put back in any order, lead to the start. -/
theorem Remembers.restore (h : Remembers priors start now) {entries : List (κ × Option ν)}
    (hperm : entries.Perm priors.toList) : now.restore entries = start := by
  have hmem (key : κ) (prior : Option ν) : (key, prior) ∈ entries ↔ priors[key]? = some prior := by
    rw [hperm.mem_iff, Std.ExtTreeMap.mem_toList_iff_getElem?_eq_some]
  have hsound : ∀ e ∈ entries, e.2 = start[e.1]? := by
    rintro ⟨key, prior⟩ he
    rw [hmem] at he
    rcases h key with hprior | ⟨hnone, -⟩
    · exact Option.some.inj (he.symm.trans hprior)
    · cases he.symm.trans hnone
  apply Std.ExtTreeMap.ext_getElem?
  intro key
  rw [getElem?_restore hsound]
  split
  · rfl
  · rename_i hkey
    rcases h key with hprior | ⟨-, hsame⟩
    · exact absurd (List.mem_map_of_mem ((hmem key _).2 hprior)) hkey
    · exact hsame

end Rows

/-! ## Tables -/

namespace Tables

/-- A place in one of the five tables that have keys. -/
inductive Key where
  | like (key : Arrow)
  | matchRow (key : PairId)
  | block (key : Arrow)
  | request (key : Uuid)
  | conversation (key : PairId)

def Write.key? : Write → Option Key
  | like key _ => some (.like key)
  | matchRow key _ => some (.matchRow key)
  | block key _ => some (.block key)
  | request key _ => some (.request key)
  | conversation key _ => some (.conversation key)
  | notification _ => none

/-- The key that a call looks up in order to write there. Some calls do so before they know whether
they will. -/
def touched (t : Tables) : Call → Option Key
  | .upsertLike arrow _ _ | .softDeleteLike arrow _ => some (.like arrow)
  | .createMatchIfAbsent id _ _ _ =>
    if t.matchRows.contains id then none else some (.matchRow id)
  | .updateMatchState updated => some (.matchRow updated.id)
  | .recordBlock arrow _ => if t.blocks.contains arrow then none else some (.block arrow)
  | .removeBlock arrow => some (.block arrow)
  | .insertRequest r => if t.requests.contains r.id then none else some (.request r.id)
  | .updateRequestStatus id _ _ => some (.request id)
  | .getOrCreateConversation a b _ => some (.conversation (.of a b))
  | .archiveConversation id _ _ | .setVisibility id _ _ => some (.conversation id)
  | _ => none

/-- What a unit keeps of the tables that it found: what its keys held, and how many notifications
there were. -/
structure Priors where
  likes : Rows Arrow (Option Like)
  matchRows : Rows PairId (Option Match)
  blocks : Rows Arrow (Option Block)
  requests : Rows Uuid (Option FriendRequest)
  conversations : Rows PairId (Option Conversation)
  notifications : Nat

namespace Priors

def start (t : Tables) : Priors := ⟨∅, ∅, ∅, ∅, ∅, t.notifications.length⟩

def remember (p : Priors) (t : Tables) : Option Key → Priors
  | none => p
  | some (.like key) => { p with likes := p.likes.remember t.likes key }
  | some (.matchRow key) => { p with matchRows := p.matchRows.remember t.matchRows key }
  | some (.block key) => { p with blocks := p.blocks.remember t.blocks key }
  | some (.request key) => { p with requests := p.requests.remember t.requests key }
  | some (.conversation key) =>
    { p with conversations := p.conversations.remember t.conversations key }

/-- The tables `t'` come out when the priors are put back into `t`, those of each table in some
order. -/
structure Restores (p : Priors) (t t' : Tables) : Prop where
  likes : ∃ entries, entries.Perm p.likes.toList ∧ t'.likes = t.likes.restore entries
  matchRows : ∃ entries, entries.Perm p.matchRows.toList ∧
    t'.matchRows = t.matchRows.restore entries
  blocks : ∃ entries, entries.Perm p.blocks.toList ∧ t'.blocks = t.blocks.restore entries
  requests : ∃ entries, entries.Perm p.requests.toList ∧
    t'.requests = t.requests.restore entries
  conversations : ∃ entries, entries.Perm p.conversations.toList ∧
    t'.conversations = t.conversations.restore entries
  notifications : t'.notifications = t.notifications.take p.notifications

/-- The priors lead from these tables back to those at the start. -/
structure Remembers (p : Priors) (start now : Tables) : Prop where
  likes : p.likes.Remembers start.likes now.likes
  matchRows : p.matchRows.Remembers start.matchRows now.matchRows
  blocks : p.blocks.Remembers start.blocks now.blocks
  requests : p.requests.Remembers start.requests now.requests
  conversations : p.conversations.Remembers start.conversations now.conversations
  count : p.notifications = start.notifications.length
  notifications : ∃ told, now.notifications = start.notifications ++ told

variable {p : Priors} {t now : Tables}

theorem remembers_start (t : Tables) : (start t).Remembers t t where
  likes := Rows.remembers_start _
  matchRows := Rows.remembers_start _
  blocks := Rows.remembers_start _
  requests := Rows.remembers_start _
  conversations := Rows.remembers_start _
  count := rfl
  notifications := ⟨[], (List.append_nil _).symm⟩

theorem Remembers.again (h : p.Remembers t now) (key : Option Key) :
    (p.remember now key).Remembers t now := by
  match key with
  | none => exact h
  | some (.like key) => exact { h with likes := h.likes.again key }
  | some (.matchRow key) => exact { h with matchRows := h.matchRows.again key }
  | some (.block key) => exact { h with blocks := h.blocks.again key }
  | some (.request key) => exact { h with requests := h.requests.again key }
  | some (.conversation key) => exact { h with conversations := h.conversations.again key }

theorem Remembers.write (h : p.Remembers t now) (w : Write) :
    (p.remember now w.key?).Remembers t (now.write w) := by
  cases w with
  | like key row => exact { h with likes := h.likes.write key row }
  | matchRow key row => exact { h with matchRows := h.matchRows.write key row }
  | block key row => exact { h with blocks := h.blocks.write key row }
  | request key row => exact { h with requests := h.requests.write key row }
  | conversation key row => exact { h with conversations := h.conversations.write key row }
  | notification row =>
    obtain ⟨told, htold⟩ := h.notifications
    refine { h with notifications := ⟨told ++ [row], ?_⟩ }
    rw [Tables.write, htold, List.append_assoc]

/-- There is only one way back, and it ends at the start. -/
theorem Remembers.restores_iff (h : p.Remembers t now) (t' : Tables) :
    p.Restores now t' ↔ t' = t := by
  have htake : now.notifications.take p.notifications = t.notifications := by
    obtain ⟨told, htold⟩ := h.notifications
    rw [htold, h.count, List.take_left]
  constructor
  · intro hrestores
    obtain ⟨_, hperm₁, hlikes⟩ := hrestores.likes
    obtain ⟨_, hperm₂, hmatchRows⟩ := hrestores.matchRows
    obtain ⟨_, hperm₃, hblocks⟩ := hrestores.blocks
    obtain ⟨_, hperm₄, hrequests⟩ := hrestores.requests
    obtain ⟨_, hperm₅, hconversations⟩ := hrestores.conversations
    have hnotifications := hrestores.notifications
    rw [h.likes.restore hperm₁] at hlikes
    rw [h.matchRows.restore hperm₂] at hmatchRows
    rw [h.blocks.restore hperm₃] at hblocks
    rw [h.requests.restore hperm₄] at hrequests
    rw [h.conversations.restore hperm₅] at hconversations
    rw [htake] at hnotifications
    cases t
    cases t'
    congr
  · rintro rfl
    exact {
      likes := ⟨_, .rfl, (h.likes.restore .rfl).symm⟩
      matchRows := ⟨_, .rfl, (h.matchRows.restore .rfl).symm⟩
      blocks := ⟨_, .rfl, (h.blocks.restore .rfl).symm⟩
      requests := ⟨_, .rfl, (h.requests.restore .rfl).symm⟩
      conversations := ⟨_, .rfl, (h.conversations.restore .rfl).symm⟩
      notifications := htake.symm }

end Priors

end Tables

/-! ## Calls -/

namespace MemoryUnit

/-- From `u` to `u'` there is at most one write, and it is under this key. -/
inductive Writes (u u' : MemoryUnit) (key : Option Tables.Key) : Prop where
  | kept (htables : u'.tables = u.tables)
  | wrote (w : Tables.Write) (hkey : w.key? = key) (htables : u'.tables = u.tables.write w)

/-- A call writes at most once, and where it says. -/
theorem perform_writes (u : MemoryUnit) (c : Call) :
    Writes u (u.perform c).2 (u.tables.touched c) := by
  cases c
  case getLike | findMutualLike | latestLikeBy | getMatch | matchesFor | isBlocked | blockedBy
      | getRequest | findPendingRequest | countRequestsSince | pendingRequestsOn
      | pendingRequestsFor | getConversation | notificationsFor =>
    exact .kept rfl
  all_goals
    simp only [perform, upsertLike, softDeleteLike, createMatchIfAbsent, updateMatchState,
      recordBlock, removeBlock, insertRequest, updateRequestStatus, getOrCreateConversation,
      archiveConversation, setVisibility, createNotification, Tables.touched]
  case upsertLike arrow _ _ =>
    cases u.tables.likes[arrow]? <;> exact .wrote (.like arrow _) rfl rfl
  case softDeleteLike arrow _ =>
    split
    · split
      · exact .kept rfl
      · exact .wrote (.like arrow _) rfl rfl
    · exact .kept rfl
  case createMatchIfAbsent id _ _ _ =>
    rw [Rows.contains_eq]
    cases u.tables.matchRows[id]? with
    | none => exact .wrote (.matchRow id _) rfl rfl
    | some m => exact .kept rfl
  case updateMatchState updated =>
    split
    · exact .wrote (.matchRow updated.id _) rfl rfl
    · exact .kept rfl
  case recordBlock arrow _ =>
    split
    · exact .kept rfl
    · exact .wrote (.block arrow _) rfl rfl
  case removeBlock arrow =>
    split
    · exact .wrote (.block arrow none) rfl rfl
    · exact .kept rfl
  case insertRequest r =>
    split
    · exact .kept rfl
    · exact .wrote (.request r.id _) rfl rfl
  case updateRequestStatus id _ _ =>
    split
    · exact .wrote (.request id _) rfl rfl
    · exact .kept rfl
  case getOrCreateConversation a b _ =>
    split
    · exact .kept rfl
    · exact .wrote (.conversation (.of a b) _) rfl rfl
  case archiveConversation id _ _ =>
    split
    · exact .wrote (.conversation id _) rfl rfl
    · exact .kept rfl
  case setVisibility id _ _ =>
    split
    · split
      · exact .wrote (.conversation id _) rfl rfl
      · exact .kept rfl
    · exact .kept rfl
  case createNotification =>
    split
    · exact .kept rfl
    · exact .wrote (.notification _) rfl rfl

/-- A call that fails leaves the whole unit as it was. -/
theorem eq_of_perform_error {u u' : MemoryUnit} {c : Call} {why : StorageError}
    (h : u.perform c = (.error why, u')) : u' = u := by
  cases c
  case getLike | findMutualLike | latestLikeBy | getMatch | matchesFor | isBlocked | blockedBy
      | getRequest | findPendingRequest | countRequestsSince | pendingRequestsOn
      | pendingRequestsFor | getConversation | notificationsFor | upsertLike | softDeleteLike
      | createMatchIfAbsent | recordBlock | removeBlock | getOrCreateConversation =>
    cases h
  case updateMatchState | insertRequest | updateRequestStatus | archiveConversation =>
    simp only [perform, updateMatchState, insertRequest, updateRequestStatus,
      archiveConversation] at h
    split at h <;> cases h
    rfl
  case setVisibility =>
    simp only [perform, setVisibility] at h
    split at h
    · split at h <;> cases h
      rfl
    · cases h
      rfl
  case createNotification =>
    simp only [perform, createNotification] at h
    split at h <;> cases h
    rfl

end MemoryUnit

/-! ## Units -/

/-- What may come about in a unit before it ends; the faults are switched from outside. -/
inductive UnitEvent where
  | call (c : Call)
  | mint
  | setFaults (rejectsNotifications : Bool) (commitConflicts : Nat)

def Memory.withFaults (m : Memory) (rejectsNotifications : Bool) (commitConflicts : Nat) : Memory :=
  { m with rejectsNotifications := rejectsNotifications, commitConflicts := commitConflicts }

def MemoryUnit.step (u : MemoryUnit) : UnitEvent → MemoryUnit
  | .call c => (u.perform c).2
  | .mint => u.mint.2
  | .setFaults rejectsNotifications commitConflicts =>
    { u with memory := u.memory.withFaults rejectsNotifications commitConflicts }

/-- A unit that keeps what its keys held in the place of a log. -/
structure PriorUnit where
  memory : Memory
  priors : Tables.Priors

namespace PriorUnit

def start (m : Memory) : PriorUnit := ⟨m, .start m.tables⟩

def perform (u : PriorUnit) (c : Call) : Except StorageError c.Reply × PriorUnit :=
  ((u.memory.perform c).1,
    ⟨(u.memory.perform c).2, u.priors.remember u.memory.tables (u.memory.tables.touched c)⟩)

def step (u : PriorUnit) : UnitEvent → PriorUnit
  | .call c => (u.perform c).2
  | .mint => { u with memory := { u.memory with minted := u.memory.minted + 1 } }
  | .setFaults rejectsNotifications commitConflicts =>
    { u with memory := u.memory.withFaults rejectsNotifications commitConflicts }

end PriorUnit

/-- The two units are at work on the same memory, and both know the way back. -/
structure Restorable (t : Tables) (u : MemoryUnit) (p : PriorUnit) : Prop where
  memory : p.memory = u.memory
  restored : u.restored = t
  remembers : p.priors.Remembers t p.memory.tables

theorem restorable_start (m : Memory) : Restorable m.tables m.start (.start m) where
  memory := rfl
  restored := rfl
  remembers := Tables.Priors.remembers_start m.tables

theorem Restorable.step {t : Tables} {u : MemoryUnit} {p : PriorUnit} (h : Restorable t u p)
    (e : UnitEvent) : Restorable t (u.step e) (p.step e) := by
  have hmemory := h.memory
  cases e with
  | call c =>
    obtain ⟨-, hmade, hrestored⟩ := u.perform_inPlace c
    refine ⟨?_, hrestored.trans h.restored, ?_⟩
    · rw [MemoryUnit.step, hmade, PriorUnit.step, PriorUnit.perform, hmemory]
    · show (p.priors.remember p.memory.tables (p.memory.tables.touched c)).Remembers t
        (p.memory.start.perform c).2.tables
      cases p.memory.start.perform_writes c with
      | kept htables =>
        rw [htables]
        exact h.remembers.again _
      | wrote w hkey htables =>
        rw [htables, show p.memory.tables.touched c = w.key? from hkey.symm]
        exact h.remembers.write w
  | mint =>
    refine ⟨?_, h.restored, h.remembers⟩
    simp only [PriorUnit.step, MemoryUnit.step, MemoryUnit.mint, hmemory]
  | setFaults rejectsNotifications commitConflicts =>
    refine ⟨?_, h.restored, h.remembers⟩
    simp only [PriorUnit.step, MemoryUnit.step, hmemory]

theorem restorable_run (m : Memory) (events : List UnitEvent) :
    Restorable m.tables (events.foldl MemoryUnit.step m.start)
      (events.foldl PriorUnit.step (.start m)) := by
  suffices ∀ (u : MemoryUnit) (p : PriorUnit), Restorable m.tables u p →
      Restorable m.tables (events.foldl MemoryUnit.step u) (events.foldl PriorUnit.step p) from
    this _ _ (restorable_start m)
  induction events with
  | nil => exact fun _ _ h => h
  | cons e events ih => exact fun _ _ h => ih _ _ (h.step e)

/-- **A unit that is dropped, or whose commit fails, leaves the tables as it found them**, whatever
was done in it, and a call that fails in it changes nothing. A unit that keeps only what each key
held when it was first looked up for a write gives the same replies, and its one way back, in
whatever order the keys are put back, leads to the same tables. -/
theorem unit_restores_tables (m : Memory) (events : List UnitEvent) :
    let u := events.foldl MemoryUnit.step m.start
    let p := events.foldl PriorUnit.step (.start m)
    u.discard.tables = m.tables ∧
    u.commit =
      (if u.memory.commitConflicts = 0 then (.ok (), u.memory)
      else (.error (.conflict "simulated commit conflict"),
        { u.memory with
          tables := m.tables
          commitConflicts := u.memory.commitConflicts - 1 })) ∧
    (∀ (c : Call) (why : StorageError) (u' : MemoryUnit),
      u.perform c = (.error why, u') → u'.tables = u.tables) ∧
    (∀ c : Call, (p.perform c).1 = (u.perform c).1) ∧
    p.memory = u.memory ∧ ∀ t : Tables, p.priors.Restores p.memory.tables t ↔ t = m.tables := by
  intro u p
  have h : Restorable m.tables u p := restorable_run m events
  refine ⟨h.restored, ?_, ?_, ?_, h.memory, h.remembers.restores_iff⟩
  · rw [MemoryUnit.commit, MemoryUnit.discard, h.restored]
  · intro c why u' herror
    rw [MemoryUnit.eq_of_perform_error herror]
  · intro c
    rw [(u.perform_inPlace c).1, PriorUnit.perform, h.memory]

/-- A storage that holds one swipe, and whose next commit fails. -/
def failing : Memory :=
  { Memory.empty with
    tables := Tables.empty.write
      (.like ⟨.ofNat 1, .ofNat 2⟩ (some (.new (.fresh 0) (.ofNat 1) (.ofNat 2) .like .epoch)))
    commitConflicts := 1
    minted := 1 }

/-- A block that is recorded, lifted and recorded once more, a swipe that is withdrawn and made
again, and a request that is stored twice. -/
def reworking : List UnitEvent :=
  let arrow : Arrow := ⟨.ofNat 1, .ofNat 2⟩
  let r := FriendRequest.new (.fresh 1) (.ofNat 1) (.ofNat 2) "let us be friends" .epoch
  [.call (.recordBlock arrow .epoch), .call (.removeBlock arrow), .call (.recordBlock arrow .epoch),
    .call (.softDeleteLike arrow .epoch), .call (.upsertLike arrow .pass .epoch), .mint,
    .call (.insertRequest r), .call (.insertRequest r)]

theorem unit_restores_tables_reworked :
    let u := reworking.foldl MemoryUnit.step failing.start
    let r := FriendRequest.new (.fresh 1) (.ofNat 1) (.ofNat 2) "let us be friends" .epoch
    u.tables.blocks.contains ⟨.ofNat 1, .ofNat 2⟩ = true ∧
      failing.tables.blocks.contains ⟨.ofNat 1, .ofNat 2⟩ = false ∧
      (u.perform (.insertRequest r)).2.tables = u.tables ∧
      u.discard.tables = failing.tables ∧
      u.commit.1 = .error (.conflict "simulated commit conflict") ∧
      u.commit.2.tables = failing.tables := by
  intro u r
  obtain ⟨hdiscard, hcommit, hfailed, -⟩ := unit_restores_tables failing reworking
  have hconflicts : ¬u.memory.commitConflicts = 0 := by decide +kernel
  rw [if_neg hconflicts] at hcommit
  refine ⟨by decide +kernel, by decide +kernel, ?_, hdiscard, ?_, ?_⟩
  · exact hfailed (.insertRequest r) (.conflict _) _ rfl
  · rw [hcommit]
  · rw [hcommit]

end Courtship
