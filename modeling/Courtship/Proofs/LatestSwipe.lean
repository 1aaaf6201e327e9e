import Courtship.Proofs.Keyed

/-! The latest swipe of a user. A look for it finds one of those that stand and are as late as any,
and where there are several of one time it may be each of them, as their keys are ranked. -/

namespace Courtship

/-! ## Of two swipes and of many -/

namespace Like

variable {rank : Arrow → Nat} {l l' l'' : Like}

theorem precedes_iff : l.Precedes rank l' ↔ l'.createdAt.key < l.createdAt.key ∨
    l'.createdAt.key ≤ l.createdAt.key ∧ rank l.arrow ≤ rank l'.arrow := Iff.rfl

theorem Precedes.refl (rank : Arrow → Nat) (l : Like) : l.Precedes rank l :=
  .inr ⟨Int.le_refl _, Nat.le_refl _⟩

theorem Precedes.trans (h : l.Precedes rank l') (h' : l'.Precedes rank l'') :
    l.Precedes rank l'' := by
  rw [precedes_iff] at h h' ⊢
  omega

theorem Precedes.createdAt_le (h : l.Precedes rank l') : l'.createdAt ≤ l.createdAt :=
  h.elim Int.le_of_lt And.left

theorem preferred_precedes (rank : Arrow → Nat) (l l' : Like) :
    (preferred rank l l').Precedes rank l ∧ (preferred rank l l').Precedes rank l' := by
  unfold preferred
  split
  · rename_i h
    exact ⟨.refl rank l, h⟩
  · rename_i h
    refine ⟨?_, .refl rank l'⟩
    rw [precedes_iff] at h ⊢
    omega

theorem preferred_eq (rank : Arrow → Nat) (l l' : Like) :
    preferred rank l l' = l ∨ preferred rank l l' = l' := by
  unfold preferred
  split
  · exact .inl rfl
  · exact .inr rfl

/-- The one that is kept of some swipes precedes them all. -/
theorem precedes_foldl (rank : Arrow → Nat) (l : Like) (rest : List Like) :
    let best := rest.foldl (preferred rank) l
    best ∈ l :: rest ∧ ∀ other ∈ l :: rest, best.Precedes rank other := by
  induction rest generalizing l with
  | nil => simpa using Precedes.refl rank l
  | cons l' rest ih =>
    intro best
    obtain ⟨hmem, hbest⟩ := ih (preferred rank l l')
    change best ∈ _ at hmem
    have hfirst : best.Precedes rank (preferred rank l l') := hbest _ List.mem_cons_self
    obtain ⟨hl, hl'⟩ := preferred_precedes rank l l'
    refine ⟨?_, fun other hother => ?_⟩
    · rcases List.mem_cons.1 hmem with hmem | hmem
      · rcases preferred_eq rank l l' with h | h <;> simp [hmem, h]
      · exact List.mem_cons_of_mem _ (List.mem_cons_of_mem _ hmem)
    · simp only [List.mem_cons] at hother
      rcases hother with rfl | rfl | hother
      · exact hfirst.trans hl
      · exact hfirst.trans hl'
      · exact hbest other (List.mem_cons_of_mem _ hother)

end Like

/-! ## Swipes that stand -/

namespace Tables

variable {t : Tables} {user : UserId} {rank : Arrow → Nat} {l : Like}

/-- The swipe is stored, and was not withdrawn. -/
structure Stands (t : Tables) (arrow : Arrow) (l : Like) : Prop where
  stored : t.likes[arrow]? = some l
  live : l.deletedAt = none

theorem mem_liveSwipesBy (ht : t.Keyed) :
    l ∈ t.liveSwipesBy user ↔ ∃ target, t.Stands ⟨user, target⟩ l := by
  simp only [liveSwipesBy, List.mem_filter, Rows.mem_values, Bool.and_eq_true, decide_eq_true_eq,
    Bool.not_eq_true', Like.isDeleted, Option.isSome_eq_false_iff, Option.isNone_iff_eq_none]
  constructor
  · rintro ⟨⟨arrow, hl⟩, rfl, hlive⟩
    have harrow : (⟨l.fromUser, l.toUser⟩ : Arrow) = arrow := ht.like hl
    exact ⟨l.toUser, by rw [harrow, hl], hlive⟩
  · rintro ⟨target, hl, hlive⟩
    have hfrom : l.fromUser = user := congrArg Arrow.actor (ht.like hl)
    exact ⟨⟨_, hl⟩, hfrom, hlive⟩

/-- The tables hold one swipe for a key. -/
theorem Keyed.eq_of_stands (ht : t.Keyed) {l' : Like} {arrow arrow' : Arrow}
    (h : t.Stands arrow l) (h' : t.Stands arrow' l') (hsame : l.arrow = l'.arrow) : l = l' := by
  have harrow : l.arrow = arrow := ht.like h.stored
  have harrow' : l'.arrow = arrow' := ht.like h'.stored
  have hstored := h.stored
  rw [← harrow, hsame, harrow', h'.stored] at hstored
  exact (Option.some.inj hstored).symm

/-! ## Looks for the latest one -/

theorem latestLikeBy_eq_none_iff (ht : t.Keyed) :
    t.latestLikeBy rank user = none ↔ ∀ target l, ¬t.Stands ⟨user, target⟩ l := by
  have hempty : t.latestLikeBy rank user = none ↔ t.liveSwipesBy user = [] := by
    rw [latestLikeBy]
    cases t.liveSwipesBy user <;> simp
  rw [hempty, List.eq_nil_iff_forall_not_mem]
  simp only [mem_liveSwipesBy ht, not_exists]
  exact forall_comm

theorem latestLikeBy_eq_some (h : t.latestLikeBy rank user = some l) :
    l ∈ t.liveSwipesBy user ∧ ∀ other ∈ t.liveSwipesBy user, l.Precedes rank other := by
  rw [latestLikeBy] at h
  cases hswipes : t.liveSwipesBy user with
  | nil =>
    rw [hswipes] at h
    cases h
  | cons first rest =>
    rw [hswipes] at h
    cases h
    exact Like.precedes_foldl rank first rest

theorem Keyed.stands_latestLikeBy (ht : t.Keyed) (h : t.latestLikeBy rank user = some l) :
    t.Stands ⟨user, l.toUser⟩ l := by
  obtain ⟨target, hstored, hlive⟩ := (mem_liveSwipesBy ht).1 (latestLikeBy_eq_some h).1
  have htarget : l.toUser = target := congrArg Arrow.target (ht.like hstored)
  exact ⟨by rw [htarget, hstored], hlive⟩

/-- What a look for the latest swipe of the user may find: one of those that stand and are as late
as any, or nothing if none stands. -/
def IsLatest (t : Tables) (user : UserId) : Option Like → Prop
  | none => ∀ target l, ¬t.Stands ⟨user, target⟩ l
  | some l => t.Stands ⟨user, l.toUser⟩ l ∧
      ∀ target other, t.Stands ⟨user, target⟩ other → other.createdAt ≤ l.createdAt

theorem Keyed.isLatest_latestLikeBy (ht : t.Keyed) (rank : Arrow → Nat) (user : UserId) :
    t.IsLatest user (t.latestLikeBy rank user) := by
  cases hlatest : t.latestLikeBy rank user with
  | none => exact (latestLikeBy_eq_none_iff ht).1 hlatest
  | some l =>
    refine ⟨ht.stands_latestLikeBy hlatest, fun target other hother => ?_⟩
    have hother := (mem_liveSwipesBy ht).2 ⟨target, hother⟩
    exact ((latestLikeBy_eq_some hlatest).2 other hother).createdAt_le

/-- A latest swipe is found if its key ranks before all others. -/
theorem Keyed.exists_rank (ht : t.Keyed) {found : Option Like} (h : t.IsLatest user found) :
    ∃ rank, t.latestLikeBy rank user = found := by
  cases found with
  | none => exact ⟨fun _ => 0, (latestLikeBy_eq_none_iff ht).2 h⟩
  | some l =>
    obtain ⟨hstands, hlast⟩ := h
    let rank : Arrow → Nat := fun arrow => if arrow = l.arrow then 0 else 1
    have hrank : rank l.arrow = 0 := if_pos rfl
    refine ⟨rank, ?_⟩
    cases hlatest : t.latestLikeBy rank user with
    | none => exact absurd hstands ((latestLikeBy_eq_none_iff ht).1 hlatest _ l)
    | some l' =>
      have hstands' := ht.stands_latestLikeBy hlatest
      have hle : rank l'.arrow = 0 := by
        have hl := (mem_liveSwipesBy ht).2 ⟨_, hstands⟩
        rcases (latestLikeBy_eq_some hlatest).2 l hl with hlater | ⟨-, hle⟩
        · exact absurd hlater (Int.not_lt.2 (hlast _ l' hstands'))
        · omega
      have hsame : l'.arrow = l.arrow := by
        by_contra hother
        rw [show rank l'.arrow = 1 from if_neg hother] at hle
        cases hle
      rw [ht.eq_of_stands hstands' hstands hsame]

end Tables

end Courtship
