import Courtship.Proofs.Renaming
import Courtship.Proofs.Scope

/-! Two operations on the memory of a run that have no user in common. They may be carried out in
either order: each answers the same, and the same is stored, but for the names of the identifiers
that are made and for the order in which different users are told. -/

namespace Courtship

variable {settings : Settings} {now : Instant} {t : Tables}

/-! ## Operations on a memory -/

/-- Whether the operation answers a request that only the second tables hold. -/
def Action.AnswersNew (a : Action) (t t' : Tables) : Prop :=
  ∃ id, a.request? = some id ∧ t.requests[id]? = none ∧ t'.requests[id]? ≠ none

/-- The same memory with other names for identifiers. -/
structure Memory.SameUpTo (π : Equiv.Perm Uuid) (m m' : Memory) : Prop where
  tables : m.tables.SameUpTo π m'.tables
  rejectsNotifications : m'.rejectsNotifications = m.rejectsNotifications
  commitConflicts : m'.commitConflicts = m.commitConflicts
  minted : m'.minted = m.minted
  rank : m'.rank = m.rank

/-- Whether the two operations may be carried out in either order: each answers the same, and the
same is stored, with other names for identifiers that are made on the way. -/
structure Action.CommuteUpTo (settings : Settings) (now : Instant) (m : Memory) (a b : Action)
    (π : Equiv.Perm Uuid) : Prop where
  names : ∀ id, π id ≠ id → ∃ n, m.minted ≤ n ∧
    n < (b.run settings now (a.run settings now m).2).2.minted ∧ id = .fresh n
  first : (a.run settings now (b.run settings now m).2).1 =
    (a.run settings now m).1.map (a.renamed π)
  second : (b.run settings now m).1 =
    (b.run settings now (a.run settings now m).2).1.map (b.renamed π)
  memory : (b.run settings now (a.run settings now m).2).2.SameUpTo π
    (a.run settings now (b.run settings now m).2).2

/-- What an operation relies on: every record is under its key, everything in use was made, and no
conflict is ahead. -/
structure Memory.Ready (m : Memory) : Prop where
  keyed : m.tables.Keyed
  supplied : m.Supplied
  commitConflicts : m.commitConflicts = 0

namespace Memory

variable {m : Memory}

theorem Ready.getElem?_requests (h : m.Ready) {n : Nat} (hle : m.minted ≤ n)
    (hroom : n < 2 ^ 122) : m.tables.requests[Uuid.fresh n]? = none :=
  h.supplied.getElem?_requests hle hroom

theorem Ready.fixes (h : m.Ready) {π : Equiv.Perm Uuid} {bound : Nat}
    (hbound : bound ≤ 2 ^ 122)
    (hπ : ∀ id, π id ≠ id → ∃ n, m.minted ≤ n ∧ n < bound ∧ id = .fresh n) :
    m.tables.Fixes π := by
  intro id hid
  by_contra hmoved
  obtain ⟨n, hle, hlt, hfresh⟩ := hπ id hmoved
  obtain ⟨j, hj, rfl⟩ := h.supplied id hid
  have hn := Uuid.fresh_injective (by omega) (by omega) hfresh
  omega

end Memory

namespace Action

variable {m : Memory} {a b : Action}

theorem run_eq_make (hm : m.Ready) (hroom : m.minted < 2 ^ 122) (a : Action) :
    a.run settings now m =
      (a.draft settings now m.rejectsNotifications m.rank m.tables m.supply).make m :=
  a.run_eq_draft hm.keyed hm.commitConflicts (hm.getElem?_requests (Nat.le_refl _) hroom) now

/-- Another operation with other users leaves the draft of this one as it was. -/
theorem draft_after (hm : m.Ready) (hroom : m.minted < 2 ^ 122)
    (hkeyed : (a.run settings now m).2.tables.Keyed)
    (hdisjoint : (a.users m.rank m.tables).Disjoint (b.users m.rank m.tables))
    (hnew : ¬b.AnswersNew m.tables (a.run settings now m).2.tables) (rejects : Bool)
    (new : Nat → Uuid) :
    b.draft settings now rejects m.rank (a.run settings now m).2.tables new =
      b.draft settings now rejects m.rank m.tables new := by
  have hfree : m.tables.requests[m.supply 0]? = none :=
    hm.getElem?_requests (Nat.le_refl _) hroom
  obtain ⟨u, hu, v, hv, hfor⟩ :=
    a.for_draft settings now m.rejectsNotifications m.rank hm.keyed hfree
  have hagree : m.tables.AgreeOn (b.users m.rank m.tables) (a.run settings now m).2.tables := by
    rw [run_eq_make hm hroom]
    exact hfor.writes.agreeOn (hdisjoint hu) (hdisjoint hv)
  refine draft_congr hagree hm.keyed hkeyed fun id hid hnone => ?_
  by_contra hstored
  exact hnew ⟨id, hid, hnone, hstored⟩

end Action

/-! ## Either order -/

namespace Tables

variable {π : Equiv.Perm Uuid} {t' t'' : Tables}

theorem SameUpTo.reordered (h : t.SameUpTo π t') (h' : Reordered t' t'') : t.SameUpTo π t'' where
  likes arrow := by
    rw [h'.rows]
    exact h.likes arrow
  matchRows := by
    rw [h'.rows]
    exact h.matchRows
  blocks := by
    rw [h'.rows]
    exact h.blocks
  requests id := by
    rw [h'.rows]
    exact h.requests id
  conversations := by
    rw [h'.rows]
    exact h.conversations
  notifications user := (h'.told user).trans (h.notifications user)

/-- Drafts for different users may be made in either order, with other names for what is new. -/
theorem sameUpTo_either_order {α β : Type} (ht : t.Keyed) (hfix : t.Fixes π) {d : Draft α}
    {e : Draft β} {f : α → α} {g : β → β} {new new' : Nat → Uuid} {u v x y : UserId}
    (hd : (d.renamed π f).For t new u v) (he : (e.renamed π g).For t new' x y)
    (hapart : ∀ user ∈ s(u, v), user ∉ s(x, y))
    (hfree : ∀ i < d.taken, t.requests[new i]? = none)
    (hfree' : ∀ j < e.taken, t.requests[new' j]? = none)
    (hnew : ∀ i < d.taken, ∀ j < e.taken, new i ≠ new' j) :
    ((t.changed d.changes).changed e.changes).SameUpTo π
      ((t.changed (e.renamed π g).changes).changed (d.renamed π f).changes) := by
  have hsame := ((hfix.sameUpTo ht).changed d.changes).changed e.changes
  refine hsame.reordered (reordered_changed_changed hd.changes he.changes hapart ?_ t)
  intro z hz w hw id hid hid'
  rcases hd.requests z hz id hid with ⟨i, hi, rfl⟩ | ⟨r, hr, hpair⟩ <;>
    rcases he.requests w hw _ hid' with ⟨j, hj, hj'⟩ | ⟨r', hr', hpair'⟩
  · exact hnew i hi j hj hj'
  · rw [hfree i hi] at hr'
    cases hr'
  · rw [hj', hfree' j hj] at hr
    cases hr
  · rw [hr'] at hr
    cases hr
    have huser : u ∈ s(x, y) := by
      rw [← PairId.of_eq_iff_pair.1 (hpair.symm.trans hpair')]
      exact Sym2.mem_mk_left u v
    exact hapart u (Sym2.mem_mk_left u v) huser

end Tables

/-- An operation that is carried out as a whole on the memory of a run goes on with that run. -/
theorem Action.exists_events (settings : Settings) (now : Instant) (a : Action)
    (events : List World.Event) :
    ∃ more, (World.run settings (events ++ more)).memory =
      (a.run settings now (World.run settings events).memory).2 := by
  cases a with
  | command c =>
    obtain ⟨more, hmore⟩ := World.exists_steps_run settings (World.run settings events) c
      (.still now) (.still now)
    exact ⟨more, World.run_append events more ▸ hmore⟩
  | question q =>
    refine ⟨[], ?_⟩
    have hreply := q.run_eq_reply (.still now) (.still now) (World.run settings events).memory
    rw [List.append_nil, run, operation, hreply]

namespace Action

variable {m : Memory} {a b : Action}

/-- The second of two operations is carried out with the identifiers that follow. -/
theorem run_after (hm : m.Ready) (hroom : m.minted + 2 < 2 ^ 122)
    (hready : (a.run settings now m).2.Ready)
    (hdisjoint : (a.users m.rank m.tables).Disjoint (b.users m.rank m.tables))
    (hnew : ¬b.AnswersNew m.tables (a.run settings now m).2.tables) {d : Draft a.Answer}
    (hd : a.draft settings now m.rejectsNotifications m.rank m.tables m.supply = d) :
    b.run settings now (a.run settings now m).2 =
      (b.draft settings now m.rejectsNotifications m.rank m.tables
        fun i => .fresh (m.minted + d.taken + i)).make (d.make m).2 := by
  have htaken : d.taken ≤ 2 := hd ▸ a.taken_draft_le
  have hrun : a.run settings now m = d.make m := hd ▸ run_eq_make hm (by omega) a
  have hafter := draft_after hm (by omega) hready.keyed hdisjoint hnew
  have hminted : (d.make m).2.minted < 2 ^ 122 := by
    change m.minted + d.taken < 2 ^ 122
    omega
  have hrank : (d.make m).2.rank = m.rank := rfl
  rw [hrun] at hready hafter ⊢
  rw [run_eq_make hready hminted, hrank, hafter]
  rfl

theorem apart_of_disjoint {users users' : List UserId} {u v x y : UserId}
    (h : users.Disjoint users') (hu : u ∈ users) (hv : v ∈ users) (hx : x ∈ users')
    (hy : y ∈ users') : ∀ user ∈ s(u, v), user ∉ s(x, y) := by
  intro user huser huser'
  rcases Sym2.mem_iff.1 huser with rfl | rfl <;> rcases Sym2.mem_iff.1 huser' with rfl | rfl
  · exact h hu hx
  · exact h hu hy
  · exact h hv hx
  · exact h hv hy

theorem exists_renaming (hm : m.Ready) (hroom : m.minted + 4 ≤ 2 ^ 122)
    (hreadyA : (a.run settings now m).2.Ready) (hreadyB : (b.run settings now m).2.Ready)
    (hdisjoint : (a.users m.rank m.tables).Disjoint (b.users m.rank m.tables))
    (ha : ¬a.AnswersNew m.tables (b.run settings now m).2.tables)
    (hb : ¬b.AnswersNew m.tables (a.run settings now m).2.tables) :
    ∃ π, CommuteUpTo settings now m a b π := by
  have hlt : m.minted + 2 < 2 ^ 122 := by omega
  have hkeyed := hm.keyed
  have hfree : ∀ n, m.minted ≤ n → n < m.minted + 4 → m.tables.requests[Uuid.fresh n]? = none :=
    fun n hle hn => hm.getElem?_requests hle (by omega)
  -- If `a` comes first the drafts are `d` and `e`, and if `b` does these with other names.
  let d := a.draft settings now m.rejectsNotifications m.rank m.tables m.supply
  let new := fun i => Uuid.fresh (m.minted + d.taken + i)
  let e := b.draft settings now m.rejectsNotifications m.rank m.tables new
  have hp : d.taken ≤ 2 := a.taken_draft_le
  have hq : e.taken ≤ 2 := b.taken_draft_le
  obtain ⟨π, hleft, hright, hmoved⟩ := Uuid.exists_exchange
    (k := m.minted) (p := d.taken) (q := e.taken) (by omega)
  have hfix : m.tables.Fixes π := hm.fixes (by omega) hmoved
  let new' := fun i => Uuid.fresh (m.minted + e.taken + i)
  have he : b.draft settings now m.rejectsNotifications m.rank m.tables m.supply =
      e.renamed π (b.renamed π) :=
    draft_eq_renamed hfix hkeyed fun i hi => (hright i hi).symm
  have hd : a.draft settings now m.rejectsNotifications m.rank m.tables new' =
      d.renamed π (a.renamed π) :=
    draft_eq_renamed hfix hkeyed fun i hi => (hleft i hi).symm
  have hA : a.run settings now m = d.make m := run_eq_make hm (by omega) a
  have hB : b.run settings now m = (e.renamed π (b.renamed π)).make m :=
    he ▸ run_eq_make hm (by omega) b
  have hAB : b.run settings now (a.run settings now m).2 = e.make (d.make m).2 :=
    run_after hm hlt hreadyA hdisjoint hb rfl
  have hBA : a.run settings now (b.run settings now m).2 =
      (d.renamed π (a.renamed π)).make ((e.renamed π (b.renamed π)).make m).2 :=
    hd ▸ run_after hm hlt hreadyB hdisjoint.symm ha he
  have hfirst : m.tables.requests[m.supply 0]? = none := hfree _ (by omega) (by omega)
  have hfirst' : m.tables.requests[new' 0]? = none := hfree _ (by omega) (by omega)
  obtain ⟨u, hu, v, hv, hford⟩ :=
    a.for_draft settings now m.rejectsNotifications m.rank hkeyed hfirst'
  obtain ⟨x, hx, y, hy, hfore⟩ :=
    b.for_draft settings now m.rejectsNotifications m.rank hkeyed hfirst
  rw [hd] at hford
  rw [he] at hfore
  have hapart := apart_of_disjoint hdisjoint hu hv hx hy
  have htables := Tables.sameUpTo_either_order hkeyed hfix hford hfore hapart
    (fun i hi => hfree _ (by omega) (by omega)) (fun j hj => hfree _ (by omega) (by omega))
    (fun i hi j hj hsame => by
      have hnumber := Uuid.fresh_injective (by omega) (by omega) hsame
      omega)
  refine ⟨π, ?_, ?_, ?_, ?_⟩
  · rw [hAB]
    exact hmoved
  · rw [hBA, hA]
    rfl
  · rw [hB, hAB]
    rfl
  · rw [hAB, hBA]
    exact ⟨htables, rfl, rfl, Nat.add_right_comm m.minted e.taken d.taken, rfl⟩

end Action

namespace World

theorem ready_run {events : List Event}
    (hnone : (run settings events).memory.commitConflicts = 0) :
    (run settings events).memory.Ready where
  keyed := (sound_run events).keyed
  supplied := supplied_run settings events
  commitConflicts := hnone

theorem ready_action {events : List Event}
    (hnone : (run settings events).memory.commitConflicts = 0)
    (hroom : (run settings events).memory.minted < 2 ^ 122) (a : Action) :
    (a.run settings now (run settings events).memory).2.Ready := by
  obtain ⟨more, hmore⟩ := a.exists_events settings now events
  rw [← hmore]
  apply ready_run
  rw [hmore, a.run_eq_make (ready_run hnone) hroom]
  exact hnone

/-- **Operations without a common user commute.** No conflict must be ahead, and identifiers must be
left to be had. The one case that is ruled out besides is that of an operation which answers the
very request that the other one makes. -/
theorem disjoint_actions_commute {settings : Settings} {events : List Event} {m : Memory}
    (hm : (run settings events).memory = m) (hnone : m.commitConflicts = 0)
    (hroom : m.minted + 4 ≤ 2 ^ 122) {now : Instant} {a b : Action}
    (hdisjoint : (a.users m.rank m.tables).Disjoint (b.users m.rank m.tables))
    (ha : ¬a.AnswersNew m.tables (b.run settings now m).2.tables)
    (hb : ¬b.AnswersNew m.tables (a.run settings now m).2.tables) :
    ∃ π, Action.CommuteUpTo settings now m a b π := by
  subst hm
  have hlt : (run settings events).memory.minted < 2 ^ 122 := by omega
  exact Action.exists_renaming (ready_run hnone) hroom (ready_action hnone hlt a)
    (ready_action hnone hlt b) hdisjoint ha hb

/-- A user has sent a request to another one. -/
def asking : List Event :=
  inTurn .epoch [.swipe ⟨.ofNat 1, .ofNat 2⟩ .like, .swipe ⟨.ofNat 2, .ofNat 1⟩ .like,
    .propose ⟨.ofNat 1, .ofNat 2⟩ "let us be friends"]

theorem asking_leaves :
    let m := (run {} asking).memory
    m.commitConflicts = 0 ∧ m.minted = 4 ∧
      m.tables.requests[Uuid.fresh 2]? =
        some (.new (.fresh 2) (.ofNat 1) (.ofNat 2) "let us be friends" .epoch) := by
  decide +kernel

/-- The request may be answered before a third user likes a fourth one, or after it. -/
theorem disjoint_actions_commute_asking :
    let m := (run {} asking).memory
    let answer := Action.command (.respond (.fresh 2) (.ofNat 2) true)
    let like := Action.command (.swipe ⟨.ofNat 3, .ofNat 4⟩ .like)
    m.commitConflicts = 0 ∧ m.minted + 4 ≤ 2 ^ 122 ∧
      (answer.users m.rank m.tables).Disjoint (like.users m.rank m.tables) ∧
      ∃ π, Action.CommuteUpTo {} .epoch m answer like π := by
  intro m answer like
  obtain ⟨hnone, hminted, hrequest⟩ := asking_leaves
  have hroom : m.minted + 4 ≤ 2 ^ 122 := by
    rw [hminted]
    decide
  have husers : answer.users m.rank m.tables = [.ofNat 2, .ofNat 1, .ofNat 2] := by
    simp only [answer, Action.users, Command.users, m, hrequest]
    rfl
  have hdisjoint : (answer.users m.rank m.tables).Disjoint (like.users m.rank m.tables) := by
    rw [husers]
    intro user huser huser'
    simp only [like, Action.users, Command.users, List.mem_cons, List.not_mem_nil, or_false]
      at huser huser'
    rcases huser with rfl | rfl | rfl <;> revert huser' <;> decide
  refine ⟨hnone, hroom, hdisjoint,
    disjoint_actions_commute rfl hnone hroom hdisjoint ?_ ?_⟩
  · rintro ⟨id, hid, habsent, -⟩
    cases hid
    rw [hrequest] at habsent
    cases habsent
  · rintro ⟨id, hid, -⟩
    cases hid

end World

end Courtship
