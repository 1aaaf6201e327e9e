import Courtship.Proofs.Conversations
import Courtship.Proofs.Drafts
import Courtship.Proofs.FreeLocks
import Courtship.Proofs.Requests

/-! Leaving a match, by a graceful exit or by an unmatch: what either comes to on every memory of a
run, whatever faults are switched on. A graceful exit may be repeated, by either user; the repeat
comes before anything that could fail. -/

namespace Courtship

/-- The ways to leave a match. Of a graceful exit the other user is told. -/
inductive Parting where
  | gracefulExit
  | unmatch
  deriving DecidableEq

namespace Parting

def operation : Parting → Arrow → Operation Match
  | gracefulExit, arrow => .gracefulExit arrow
  | unmatch, arrow => .unmatch arrow

def work : Parting → Arrow → Instant → Work (Ending Match)
  | gracefulExit => Operation.gracefulExitWork
  | unmatch => Operation.unmatchWork

/-- The state that the match is left in. -/
def state : Parting → MatchState
  | gracefulExit => .gracefulExit
  | unmatch => .unmatched

/-- The reason of the same name. -/
def reason : Parting → ArchiveReason
  | gracefulExit => .gracefulExit
  | unmatch => .unmatch

/-- What `b` is told when `a` leaves. -/
def notices (way : Parting) (a b : UserId) (id : Uuid) (now : Instant) : List Notification :=
  match way with
  | gracefulExit => [{
    id := id
    recipient := b
    type := .gracefulExit
    payload := .gracefulExit (.of a b) a
    createdAt := now
    readAt := none
    dismissedAt := none }]
  | unmatch => []

/-- How many new identifiers that takes. -/
def taken : Parting → Nat
  | gracefulExit => 1
  | unmatch => 0

/-- Whether the notice is refused, if there is one. -/
def IsRefused (way : Parting) (held : Memory) : Prop :=
  way = gracefulExit ∧ held.rejectsNotifications = true

instance (way : Parting) (held : Memory) : Decidable (way.IsRefused held) :=
  inferInstanceAs (Decidable (_ ∧ _))

theorem isTerminal_state (way : Parting) : way.state.isTerminal = true := by
  cases way <;> rfl

/-- The tables once `arrow.actor` has left the match `m`. -/
def left (way : Parting) (t : Tables) (arrow : Arrow) (m : Match) (id : Uuid) (now : Instant) :
    Tables :=
  match way with
  | gracefulExit => t.exited arrow m id now
  | unmatch => t.left arrow m .unmatched .unmatch now

/-! ## The work, by what is found -/

variable (arrow : Arrow) {way : Parting} {held : Memory} {m : Match} (now : Instant)

theorem operation_run (way : Parting) (first second : Readings) (held : Memory) :
    (way.operation arrow).run first second held =
      held.settle ((way.work arrow (second 0)).perform held) := by
  rw [← Work.inUnit_eq]
  cases way <;> rfl

theorem perform_absent (h : held.tables.matchRows[PairId.of arrow.actor arrow.target]? = none) :
    (way.work arrow now).perform held = (.error (.error .matchNotFound), held) := by
  cases way <;>
    simp [work, Operation.gracefulExitWork, Operation.unmatchWork, Work.bind_eq,
      Operation.perform_leave_absent h]

theorem perform_ended (hkeyed : held.tables.Keyed)
    (hm : held.tables.matchRows[PairId.of arrow.actor arrow.target]? = some m)
    (hended : m.state.isTerminal = true)
    (hfirst : way = gracefulExit → m.state ≠ .gracefulExit) :
    (way.work arrow now).perform held =
      (.error (.error (.alreadyTerminal m.state)), held) := by
  have hleave {target : MatchState} (hrepeat : ¬(m.state = .gracefulExit ∧ target = .gracefulExit))
      (reason : ArchiveReason) :=
    Operation.perform_leave_ended hkeyed hm hended hrepeat reason now
  cases way with
  | gracefulExit =>
    have hrepeat : ¬(m.state = .gracefulExit ∧ MatchState.gracefulExit = .gracefulExit) :=
      fun h => hfirst rfl h.1
    simp [work, Operation.gracefulExitWork, Work.bind_eq, hleave hrepeat]
  | unmatch =>
    have hrepeat : ¬(m.state = .gracefulExit ∧ MatchState.unmatched = .gracefulExit) := by simp
    simp [work, Operation.unmatchWork, Work.bind_eq, hleave hrepeat]

/-- The unit of a repeated exit is dropped. -/
theorem perform_repeated (hkeyed : held.tables.Keyed)
    (hm : held.tables.matchRows[PairId.of arrow.actor arrow.target]? = some m)
    (hexited : m.state = .gracefulExit) :
    (gracefulExit.work arrow now).perform held = (.ok (.drop m), held) := by
  simp [work, Operation.gracefulExitWork, Work.bind_eq, Work.pure_eq,
    Operation.perform_leave_repeated hkeyed hm hexited]

theorem perform_left (hkeyed : held.tables.Keyed)
    (hm : held.tables.matchRows[PairId.of arrow.actor arrow.target]? = some m)
    (hopen : m.state.isTerminal = false) (hheard : ¬way.IsRefused held) :
    (way.work arrow now).perform held =
      (.ok (.commit (m.moved way.state arrow.actor (some way.reason) now)), { held with
        tables := way.left held.tables arrow m (.fresh held.minted) now
        minted := held.minted + way.taken }) := by
  cases way with
  | gracefulExit =>
    have hquiet : held.rejectsNotifications = false :=
      Bool.eq_false_iff.2 fun hsink => hheard ⟨rfl, hsink⟩
    rw [work, Operation.perform_gracefulExitWork hkeyed hm hopen, hquiet]
    rfl
  | unmatch =>
    have hunmatched : MatchState.unmatched.isTerminal = true := rfl
    simp [work, Operation.unmatchWork, Work.bind_eq, Work.pure_eq, Transition.result,
      Operation.perform_leave hkeyed hm hopen hunmatched, left, state, reason, taken]

theorem perform_refused (hkeyed : held.tables.Keyed)
    (hm : held.tables.matchRows[PairId.of arrow.actor arrow.target]? = some m)
    (hopen : m.state.isTerminal = false) (hrefused : way.IsRefused held) :
    ∃ t', (way.work arrow now).perform held =
      (.error (.error (.storage Memory.sinkError)), { held with tables := t' }) := by
  obtain ⟨rfl, hsink⟩ := hrefused
  rw [work, Operation.perform_gracefulExitWork hkeyed hm hopen, hsink]
  exact ⟨_, rfl⟩

end Parting

/-! ## What becomes of the match -/

/-- What it comes to when `a` leaves the open match `m` with `b`, and all of it. -/
structure Parted (way : Parting) (t : Tables) (a b : UserId) (m : Match) (now : Instant)
    (noticeId : Uuid) (last : Match) (t' : Tables) : Prop where
  result : last = { m with
    state := way.state
    endReason := some way.reason
    endedBy := some a
    stateChangedAt := now }
  matchRows : t'.matchRows = t.matchRows.set (.of a b) (some last)
  requests : ∀ id : Uuid, t'.requests[id]? = t.requests[id]?.map fun r =>
    if r.status = .pending ∧ r.matchId = .of a b then
      { r with status := .expired, respondedAt := some now }
    else r
  conversations : ∃ c, t.conversations[PairId.of a b]? = some c ∧
    t'.conversations = t.conversations.set (.of a b) (some { c with
      archivedAt := some now
      archiveReason := some way.reason })
  notifications : t'.notifications = t.notifications ++ way.notices a b noticeId now
  likes : t'.likes = t.likes
  blocks : t'.blocks = t.blocks

/-- How it comes out that `a` leaves the match with `b`, by the memory that is found: the answer and
the memory that is left. -/
inductive Departure (way : Parting) (a b : UserId) (held : Memory) (now : Instant) :
    Except (Failure EngineError) Match × Memory → Prop
  | missing (hnone : held.tables.matchRows[PairId.of a b]? = none) :
      Departure way a b held now (.error (.error .matchNotFound), held)
  | repeated (m : Match) (hway : way = .gracefulExit)
      (hm : held.tables.matchRows[PairId.of a b]? = some m) (hexited : m.state = .gracefulExit) :
      Departure way a b held now (.ok m, held)
  | ended (m : Match) (hm : held.tables.matchRows[PairId.of a b]? = some m)
      (hended : m.state.isTerminal = true)
      (hfirst : way = .gracefulExit → m.state ≠ .gracefulExit) :
      Departure way a b held now (.error (.error (.alreadyTerminal m.state)), held)
  | refusedNotice (m : Match) (hm : held.tables.matchRows[PairId.of a b]? = some m)
      (hopen : m.state.isTerminal = false) (hrefused : way.IsRefused held) :
      Departure way a b held now (.error (.error (.storage Memory.sinkError)), held)
  | conflict (m : Match) (hm : held.tables.matchRows[PairId.of a b]? = some m)
      (hopen : m.state.isTerminal = false) (hheard : ¬way.IsRefused held)
      (hconflict : held.commitConflicts ≠ 0) :
      Departure way a b held now
        (.error (.error (.storageConflict Memory.conflictError)), { held with
          commitConflicts := held.commitConflicts - 1
          minted := held.minted + way.taken })
  | left (m last : Match) (t' : Tables) (hm : held.tables.matchRows[PairId.of a b]? = some m)
      (hopen : m.state.isTerminal = false) (hheard : ¬way.IsRefused held)
      (hnone : held.commitConflicts = 0)
      (hparted : Parted way held.tables a b m now (.fresh held.minted) last t') :
      Departure way a b held now
        (.ok last, { held with tables := t', minted := held.minted + way.taken })

namespace Departure

variable {way : Parting} {a b : UserId} {held : Memory} {now : Instant} {m : Match}
  {come : Except (Failure EngineError) Match × Memory}

/-- No fault comes in the way where the match has ended. -/
theorem eq_of_ended (h : Departure way a b held now come)
    (hm : held.tables.matchRows[PairId.of a b]? = some m) (hended : m.state.isTerminal = true) :
    come = (if way = .gracefulExit ∧ m.state = .gracefulExit then .ok m
      else .error (.error (.alreadyTerminal m.state)), held) := by
  have hsame {m' : Match} (hm' : held.tables.matchRows[PairId.of a b]? = some m') : m' = m :=
    Option.some.inj (hm'.symm.trans hm)
  have hopen {m' : Match} (hm' : held.tables.matchRows[PairId.of a b]? = some m')
      (hs : m'.state.isTerminal = false) : False := by
    rw [hsame hm', hended] at hs
    cases hs
  cases h with
  | missing hnone => cases hnone.symm.trans hm
  | repeated m' hway hm' hexited =>
    obtain rfl := hsame hm'
    rw [if_pos ⟨hway, hexited⟩]
  | ended m' hm' _ hfirst =>
    obtain rfl := hsame hm'
    rw [if_neg fun hrepeat => hfirst hrepeat.1 hrepeat.2]
  | refusedNotice _ hm' hs | conflict _ hm' hs | left _ _ _ hm' hs => exact (hopen hm' hs).elim

end Departure

/-- Where a match and its conversation belong together, that is all that leaving it does. -/
theorem Parting.parted_left (way : Parting) {t : Tables} (hcoupled : t.Coupled) {a b : UserId}
    {m : Match} (hm : t.matchRows[PairId.of a b]? = some m) (hopen : m.state.isTerminal = false)
    (id : Uuid) (now : Instant) :
    Parted way t a b m now id (m.moved way.state a (some way.reason) now)
      (way.left t ⟨a, b⟩ m id now) := by
  obtain ⟨c, hc, hmirrors⟩ := hcoupled.conversation hm
  have hlast : m.moved way.state a (some way.reason) now = { m with
      state := way.state
      endReason := some way.reason
      endedBy := some a
      stateChangedAt := now } := if_pos way.isTerminal_state
  have hexpired (id : Uuid) := t.getElem?_expire (.of a b) now id
  simp only [FriendRequest.expiredOn_eq] at hexpired
  have harchived : (t.conversationOf a b now).archiveOnce way.reason now =
      { c with archivedAt := some now, archiveReason := some way.reason } := by
    rw [Tables.conversationOf, hc, Option.getD_some, hmirrors.archiveOnce_open hopen]
  refine ⟨hlast, ?_, ?_, ⟨c, hc, ?_⟩, ?_, ?_, ?_⟩
  · cases way <;> rfl
  · cases way <;> exact hexpired
  · rw [← harchived]
    cases way <;> rfl
  · cases way with
    | gracefulExit => rfl
    | unmatch => exact (List.append_nil _).symm
  · cases way <;> rfl
  · cases way <;> rfl

namespace World

variable {settings : Settings}

theorem departure_run (settings : Settings) (events : List Event) (way : Parting) (a b : UserId)
    (first second : Readings) :
    Departure way a b (run settings events).memory (second 0)
      ((way.operation ⟨a, b⟩).run first second (run settings events).memory) := by
  have hkeyed : (run settings events).memory.tables.Keyed := (sound_run events).keyed
  have hcoupled : (run settings events).memory.tables.Coupled := coupled_run settings events
  generalize (run settings events).memory = held at *
  rw [Parting.operation_run]
  cases hm : held.tables.matchRows[PairId.of a b]? with
  | none =>
    rw [Parting.perform_absent ⟨a, b⟩ (second 0) hm]
    exact .missing hm
  | some m =>
    by_cases hopen : m.state.isTerminal = false
    · by_cases hrefused : way.IsRefused held
      · obtain ⟨t', hperform⟩ :=
          Parting.perform_refused ⟨a, b⟩ (second 0) hkeyed hm hopen hrefused
        rw [hperform]
        exact .refusedNotice m hm hopen hrefused
      · rw [Parting.perform_left ⟨a, b⟩ (second 0) hkeyed hm hopen hrefused, Memory.settle]
        by_cases hnone : held.commitConflicts = 0
        · rw [if_pos hnone]
          exact .left m _ _ hm hopen hrefused hnone (way.parted_left hcoupled hm hopen _ _)
        · rw [if_neg hnone]
          exact .conflict m hm hopen hrefused hnone
    · have hended : m.state.isTerminal = true := by simpa using hopen
      by_cases hrepeat : way = .gracefulExit ∧ m.state = .gracefulExit
      · obtain ⟨rfl, hexited⟩ := hrepeat
        rw [Parting.perform_repeated ⟨a, b⟩ (second 0) hkeyed hm hexited]
        exact .repeated m rfl hm hexited
      · have hfirst : way = .gracefulExit → m.state ≠ .gracefulExit :=
          fun hway hexited => hrepeat ⟨hway, hexited⟩
        rw [Parting.perform_ended ⟨a, b⟩ (second 0) hkeyed hm hended hfirst]
        exact .ended m hm hended hfirst

/-- No user has a match with himself. -/
theorem matchRow_self (settings : Settings) (events : List Event) (user : UserId) :
    (run settings events).memory.tables.matchRows[PairId.of user user]? = none := by
  rw [Option.eq_none_iff_forall_ne_some]
  intro m hm
  have hlawful := lawful_run events hm
  rcases PairId.of_eq_iff.1 hlawful.users with ⟨ha, hb⟩ | ⟨ha, hb⟩ <;>
    · have horder := hlawful.order
      rw [ha, hb] at horder
      exact Nat.lt_irrefl _ horder

/-- **Leaving a match is settled by what is found of it.** On the memory after any run, whatever
faults are switched on: where the pair has no match, as nobody has with himself, nothing is done. An
open match ends together with its conversation and the requests that are pending on it, and of a
graceful exit the other user is told, or else nothing is written. A match that a graceful exit has
ended is the answer to any further exit, by either user, which leaves the memory as it is with all
its faults; else a match that has ended is not left again. A service that nobody else uses gets to
the same answer and the same memory, and its locks are free again. -/
theorem leaving_settled (settings : Settings) (events : List Event) (way : Parting)
    (a b : UserId) :
    let held := (run settings events).memory
    (a = b → held.tables.matchRows[PairId.of a b]? = none) ∧
    (∀ first second : Readings,
      Departure way a b held (second 0) ((way.operation ⟨a, b⟩).run first second held)) ∧
    ∀ s : Service Memory, s.Idle → s.store = held →
      let come := s.run (way.operation ⟨a, b⟩)
      come.2.Idle ∧ Departure way a b held s.clock (come.1, come.2.store) := by
  intro held
  refine ⟨?_, departure_run settings events way a b, fun s hidle hstore => ?_⟩
  · rintro rfl
    exact matchRow_self settings events a
  · obtain ⟨hcome, hidle'⟩ := hidle.run (way.operation ⟨a, b⟩)
    refine ⟨hidle', ?_⟩
    rw [hcome, hstore]
    exact departure_run settings events way a b s.readings s.readings

/-- One of two users who match leaves it with a graceful exit. After that notices are refused, and
commits fail. -/
def exited : List Event :=
  inTurn .epoch [.swipe ⟨.ofNat 1, .ofNat 2⟩ .like, .swipe ⟨.ofNat 2, .ofNat 1⟩ .like,
    .gracefulExit ⟨.ofNat 1, .ofNat 2⟩] ++ [.setFaults true 3]

theorem exited_leaves :
    ((run {} exited).memory.tables.matchRows[PairId.of (.ofNat 2) (.ofNat 1)]?.map Match.state) =
      some .gracefulExit := by
  decide +kernel

/-- The other user leaves it too, and finds it left already; to unmatch is too late. -/
theorem leaving_settled_again :
    let held := (run {} exited).memory
    let s := Service.new {} held .epoch
    let exit := s.run (Parting.gracefulExit.operation ⟨.ofNat 2, .ofNat 1⟩)
    let unmatch := s.run (Parting.unmatch.operation ⟨.ofNat 2, .ofNat 1⟩)
    (∃ m, held.tables.matchRows[PairId.of (.ofNat 2) (.ofNat 1)]? = some m ∧
      exit.1 = .ok m ∧ exit.2.store = held) ∧
    unmatch.1 = .error (.error (.alreadyTerminal .gracefulExit)) ∧ unmatch.2.store = held := by
  obtain ⟨m, hm, hexited⟩ := Option.map_eq_some_iff.1 exited_leaves
  have hended : m.state.isTerminal = true := by rw [hexited]; rfl
  obtain ⟨-, -, hexit⟩ := leaving_settled {} exited .gracefulExit (.ofNat 2) (.ofNat 1)
  obtain ⟨-, -, hunmatch⟩ := leaving_settled {} exited .unmatch (.ofNat 2) (.ofNat 1)
  generalize (run {} exited).memory = found at *
  intro held s exit unmatch
  obtain ⟨-, hexit⟩ := hexit s (Service.idle_new _ _ _) rfl
  obtain ⟨-, hunmatch⟩ := hunmatch s (Service.idle_new _ _ _) rfl
  have hagain := hexit.eq_of_ended hm hended
  have hlate := hunmatch.eq_of_ended hm hended
  rw [if_pos ⟨rfl, hexited⟩] at hagain
  rw [if_neg (by simp), hexited] at hlate
  obtain ⟨hagain, hkept⟩ := Prod.mk.inj hagain
  obtain ⟨hlate, hkept'⟩ := Prod.mk.inj hlate
  exact ⟨⟨m, hm, hagain, hkept⟩, hlate, hkept'⟩

end World

end Courtship
