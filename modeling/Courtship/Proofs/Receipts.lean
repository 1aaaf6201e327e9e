import Courtship.Proofs.Frame
import Courtship.Proofs.FreeLocks

/-! Answers as receipts: the records that a command answers with are those that it leaves in the
tables, though some of them are put together again once it has written. -/

namespace Courtship

/-- Whether the records of the answer are in the tables, each under the key that the command is
about. To lift a block has no record to answer with, and leaves none. -/
def Command.IsStored (t : Tables) : (c : Command) → c.Answer → Prop
  | swipe arrow _, result => t.likes[arrow]? = some result.like ∧
      ∀ m, result.matchOf = some m → t.matchRows[PairId.of arrow.actor arrow.target]? = some m
  | undoLastSwipe user, result =>
      t.likes[(⟨user, result.undone.toUser⟩ : Arrow)]? = some result.undone ∧
      ∀ m, result.unmatched = some m →
        t.matchRows[PairId.of user result.undone.toUser]? = some m
  | propose arrow _, r => t.requests[r.id]? = some r ∧
      r.fromUser = arrow.actor ∧ r.toUser = arrow.target
  | respond id _ _, r => t.requests[id]? = some r
  | gracefulExit arrow, m => t.matchRows[PairId.of arrow.actor arrow.target]? = some m
  | unmatch arrow, m => t.matchRows[PairId.of arrow.actor arrow.target]? = some m
  | block arrow, found => t.matchRows[PairId.of arrow.actor arrow.target]? = found
  | unblock arrow, _ => t.blocks[arrow]? = none

section Stored

variable {settings : Settings} {readings : Readings} {t t' : Tables}

theorem Tables.isStored_swiped (t : Tables) (arrow : Arrow) (direction : Direction)
    (now : Instant) (id : Uuid) :
    (Command.swipe arrow direction).IsStored (t.swiped arrow direction now id)
      (t.swipeResult arrow direction now id) := by
  refine ⟨Rows.getElem?_set_self .., ?_⟩
  intro m hm
  rw [swipeResult] at hm
  split at hm
  · rename_i hanswers
    cases hm
    rw [swiped_matchRows, if_pos hanswers, Rows.getElem?_set_self]
  · cases hm

theorem Tables.Keyed.isStored_undone (ht : t.Keyed) {arrow : Arrow} {l : Like}
    (hl : t.likes[arrow]? = some l) (now ended : Instant) :
    (Command.undoLastSwipe arrow.actor).IsStored (t.undone arrow l now ended)
      ⟨l.withdrawn now, t.matchEnded arrow l ended⟩ := by
  obtain rfl : l.arrow = arrow := ht.like hl
  refine ⟨Rows.getElem?_set_self .., ?_⟩
  intro m hm
  change t.matchEnded l.arrow l ended = some m at hm
  rw [undone_matchRows, hm]
  exact Rows.getElem?_set_self ..

theorem Effect.isStored {c : Command} {answer : c.Answer}
    (h : Effect settings readings t c answer t') (ht : t.Keyed) : c.IsStored t' answer := by
  cases h with
  | swipe arrow direction id => exact t.isStored_swiped arrow direction _ id
  | undo arrow l hl => exact ht.isStored_undone (Tables.toWithdraw_ok hl).1 _ _
  | propose => exact ⟨Rows.getElem?_set_self .., rfl, rfl⟩
  | respond id noticeId responder accept r current hfound =>
    -- The request is closed before the others on its match, and so is not one of them any more.
    obtain ⟨hr, -⟩ := Tables.toAnswer_ok hfound
    obtain rfl := (ht.request hr).1
    rw [Command.IsStored, Tables.getElem?_responded_requests, if_pos rfl]
  | exitAgain arrow current hstored => exact hstored
  | exit => exact Rows.getElem?_set_self ..
  | unmatch => exact Rows.getElem?_set_self ..
  | block => exact Rows.getElem?_set_self ..
  | unblock => exact Rows.getElem?_set_self ..

end Stored

namespace World

/-- **What is answered is what is stored.** When a step of a run answers a command with a success,
the records of the answer are in the tables of that moment, field by field. So they are when the
command is carried out as a whole on the memory of a run, and when a service does that which nobody
else uses. -/
theorem answers_stored (settings : Settings) (events : List Event) (c : Command)
    (answer : c.Answer) :
    (∀ (e : Event) (readings : Readings),
      (run settings (events ++ [e])).outcomes =
        .done c readings answer :: (run settings events).outcomes →
      c.IsStored (run settings (events ++ [e])).memory.tables answer) ∧
    (∀ (rules : Settings) (first second : Readings) (m : Memory),
      (c.operation rules).run first second (run settings events).memory = (.ok answer, m) →
      c.IsStored m.tables answer) ∧
    ∀ s s' : Service Memory, s.Idle → s.store = (run settings events).memory →
      s.command c = (.ok answer, s') → c.IsStored s'.store.tables answer := by
  have hkeyed : (run settings events).memory.tables.Keyed := (sound_run events).keyed
  have hrun (rules : Settings) (first second : Readings) (m : Memory)
      (hm : (c.operation rules).run first second (run settings events).memory = (.ok answer, m)) :
      c.IsStored m.tables answer := by
    obtain ⟨last, heffect⟩ := effect_of_run hkeyed hm
    exact heffect.isStored hkeyed
  refine ⟨fun e readings houtcome => ?_, hrun, fun s s' hidle hstore hcommand => ?_⟩
  · exact (effect_of_outcome houtcome).isStored hkeyed
  · obtain ⟨hcome, -⟩ := hidle.command c
    rw [hcommand, hstore] at hcome
    exact hrun s.settings s.readings s.readings s'.store hcome.symm

/-- Two users like each other. -/
def likedBack : List Event :=
  inTurn .epoch [.swipe ⟨.ofNat 1, .ofNat 2⟩ .like, .swipe ⟨.ofNat 2, .ofNat 1⟩ .like]

theorem likedBack_undone :
    let s := Service.new {} (run {} likedBack).memory .epoch
    ((s.command (.undoLastSwipe (.ofNat 2))).1.toOption.any fun result =>
      result.unmatched.isSome) = true := by
  decide +kernel

/-- The second of them takes that back, and the match ends with it. -/
theorem answers_stored_undone :
    let s := Service.new {} (run {} likedBack).memory .epoch
    ∃ result s' m, s.command (.undoLastSwipe (.ofNat 2)) = (.ok result, s') ∧
      result.unmatched = some m ∧
      s'.store.tables.likes[(⟨.ofNat 2, result.undone.toUser⟩ : Arrow)]? = some result.undone ∧
      s'.store.tables.matchRows[PairId.of (.ofNat 2) result.undone.toUser]? = some m := by
  intro s
  have hundone : ((s.command (.undoLastSwipe (.ofNat 2))).1.toOption.any fun result =>
      result.unmatched.isSome) = true := likedBack_undone
  rcases hcommand : s.command (.undoLastSwipe (.ofNat 2)) with ⟨why | result, s'⟩
  · rw [hcommand] at hundone
    cases hundone
  · rw [hcommand] at hundone
    obtain ⟨m, hm⟩ := Option.isSome_iff_exists.1 hundone
    obtain ⟨-, -, hservice⟩ := answers_stored {} likedBack (.undoLastSwipe (.ofNat 2)) result
    obtain ⟨hlike, hmatch⟩ := hservice s s' (Service.idle_new _ _ _) rfl hcommand
    exact ⟨result, s', m, rfl, hm, hlike, hmatch m hm⟩

end World

end Courtship
