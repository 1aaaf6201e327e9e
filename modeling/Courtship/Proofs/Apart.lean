import Courtship.Proofs.Changes
import Courtship.Proofs.Frame

/-! Changes to the records of different pairs. In either order they leave the same tables, but for
the order in which different users were told. -/

namespace Courtship

theorem Rows.set_comm {κ ν : Type} [Ord κ] [Std.TransOrd κ] [Std.LawfulEqOrd κ] [DecidableEq κ]
    (rows : Rows κ ν) {key key' : κ} (h : key ≠ key') (row row' : Option ν) :
    (rows.set key row).set key' row' = (rows.set key' row').set key row := by
  apply Std.ExtTreeMap.ext_getElem?
  intro other
  simp only [get?_set]
  by_cases hkey : key = other
  · rw [if_neg (hkey ▸ h.symm), if_pos hkey, if_pos hkey]
  · rw [if_neg hkey, if_neg hkey]

namespace Tables

/-! ## Order of notifications -/

/-- The same tables, and every user was told the same in the same order. -/
structure Reordered (t t' : Tables) : Prop where
  rows : t' = { t with notifications := t'.notifications }
  told : ∀ user : UserId,
    t'.notifications.filter (fun n => n.recipient = user) =
      t.notifications.filter fun n => n.recipient = user

namespace Reordered

variable {t t' t'' : Tables}

theorem refl (t : Tables) : Reordered t t := ⟨rfl, fun _ => rfl⟩

theorem of_eq (h : t' = t) : Reordered t t' := h ▸ refl t

theorem trans (h : Reordered t t') (h' : Reordered t' t'') : Reordered t t'' where
  rows := by
    rw [h'.rows, h.rows]
  told user := (h'.told user).trans (h.told user)

theorem change (h : Reordered t t') (c : Change) : Reordered (t.change c) (t'.change c) where
  rows := by
    rw [h.rows]
    rcases c with (_ | _ | _ | _ | _ | _) | _ <;> rfl
  told user := by
    rcases c with (_ | _ | _ | _ | _ | n) | _
    case write.notification =>
      simp only [Tables.change, write, List.filter_append, h.told user]
    all_goals exact h.told user

theorem changed (h : Reordered t t') (changes : List Change) :
    Reordered (t.changed changes) (t'.changed changes) := by
  induction changes generalizing t t' with
  | nil => exact h
  | cons c changes ih => exact ih (h.change c)

end Reordered

end Tables

/-! ## Changes for a pair -/

namespace FriendRequest

variable {r : FriendRequest} {pair pair' : PairId}

theorem expiredOn_of_ne (h : r.matchId ≠ pair) (now : Instant) : r.expiredOn pair now = r := by
  rw [expiredOn, if_neg]
  simp [h]

theorem expiredOn_comm (r : FriendRequest) (h : pair ≠ pair') (now now' : Instant) :
    (r.expiredOn pair now).expiredOn pair' now' = (r.expiredOn pair' now').expiredOn pair now := by
  by_cases hpair : r.matchId = pair
  · have hother : r.matchId ≠ pair' := hpair ▸ h
    rw [expiredOn_of_ne hother, expiredOn_of_ne (by rwa [expiredOn_matchId])]
  · have hlater : (r.expiredOn pair' now').matchId ≠ pair := by rwa [expiredOn_matchId]
    rw [expiredOn_of_ne hpair, expiredOn_of_ne hlater]

end FriendRequest

namespace Tables

/-- Whether the change is to records of the two users. -/
def Change.Of (a b : UserId) : Change → Prop
  | .write (.like arrow _) | .write (.block arrow _) => arrow.pair = s(a, b)
  | .write (.matchRow pair _) | .write (.conversation pair _) | .expire pair _ => pair = .of a b
  | .write (.request _ row) => ∀ r, row = some r → r.matchId = .of a b
  | .write (.notification n) => n.recipient ∈ s(a, b)

/-- The identifier of the request that is written. -/
def Change.request? : Change → Option Uuid
  | .write (.request id _) => some id
  | _ => none

variable {a b c d : UserId}

theorem expire_comm (t : Tables) {pair pair' : PairId} (h : pair ≠ pair') (now now' : Instant) :
    (t.expire pair now).expire pair' now' = (t.expire pair' now').expire pair now := by
  unfold expire
  congr 1
  apply Std.ExtTreeMap.ext_getElem?
  intro id
  simp only [Std.ExtTreeMap.getElem?_map, Option.map_map]
  refine congrArg (t.requests[id]?.map ·) (funext fun r => ?_)
  exact r.expiredOn_comm h now now'

theorem write_request_expire (t : Tables) {pair : PairId} {row : Option FriendRequest}
    (h : ∀ r, row = some r → r.matchId ≠ pair) (now : Instant) (id : Uuid) :
    (t.write (.request id row)).expire pair now = (t.expire pair now).write (.request id row) := by
  have hrows : (t.requests.set id row).map (fun _ r => r.expiredOn pair now) =
      Rows.set (t.requests.map fun _ r => r.expiredOn pair now) id row := by
    apply Std.ExtTreeMap.ext_getElem?
    intro other
    rw [Std.ExtTreeMap.getElem?_map, Rows.get?_set, Rows.get?_set, Std.ExtTreeMap.getElem?_map]
    split
    · cases row with
      | none => rfl
      | some r => rw [Option.map_some, FriendRequest.expiredOn_of_ne (h r rfl)]
    · rfl
  exact congrArg (fun rows => { t with requests := rows }) hrows

/-- Two users may be told in either order. -/
theorem reordered_notifications {n n' : Notification} (h : n.recipient ≠ n'.recipient)
    (t : Tables) :
    Reordered ((t.write (.notification n)).write (.notification n'))
      ((t.write (.notification n')).write (.notification n)) where
  rows := rfl
  told user := by
    simp only [write, List.filter_append, List.append_assoc, List.filter_singleton]
    by_cases hn : n.recipient = user
    · have hn' : n'.recipient ≠ user := hn ▸ h.symm
      simp [hn, hn']
    · simp [hn]

/-- Two changes commute when they are for pairs without a common user and not to the same
request. -/
theorem reordered_change_change {x y : Change} (hx : x.Of a b) (hy : y.Of c d)
    (hapart : ∀ user ∈ s(a, b), user ∉ s(c, d))
    (hrequests : ∀ id, x.request? = some id → y.request? ≠ some id) (t : Tables) :
    Reordered ((t.change x).change y) ((t.change y).change x) := by
  have hpairs : s(a, b) ≠ s(c, d) := by
    intro h
    exact hapart a (Sym2.mem_mk_left a b) (h ▸ Sym2.mem_mk_left a b)
  have hids : PairId.of c d ≠ PairId.of a b := fun h => hpairs (PairId.of_eq_iff_pair.1 h).symm
  have harrows : ∀ {arrow arrow' : Arrow}, arrow.pair = s(a, b) → arrow'.pair = s(c, d) →
      arrow' ≠ arrow := by
    rintro arrow _ h h' rfl
    exact hpairs (h.symm.trans h')
  have hkeys : ∀ {pair pair' : PairId}, pair = .of a b → pair' = .of c d → pair' ≠ pair :=
    fun h h' hsame => hids (h'.symm.trans (hsame.trans h))
  -- Changes to different tables commute by themselves.
  rcases x with (⟨arrow, row⟩ | ⟨pair, row⟩ | ⟨arrow, row⟩ | ⟨id, row⟩ | ⟨pair, row⟩ | n) |
    ⟨pair, now⟩
  · rcases y with (⟨arrow', row'⟩ | _ | _ | _ | _ | _) | _
    case write.like =>
      exact .of_eq (congrArg (fun rows => { t with likes := rows })
        (t.likes.set_comm (harrows hx hy) row' row))
    all_goals exact .of_eq rfl
  · rcases y with (_ | ⟨pair', row'⟩ | _ | _ | _ | _) | _
    case write.matchRow =>
      exact .of_eq (congrArg (fun rows => { t with matchRows := rows })
        (t.matchRows.set_comm (hkeys hx hy) row' row))
    all_goals exact .of_eq rfl
  · rcases y with (_ | _ | ⟨arrow', row'⟩ | _ | _ | _) | _
    case write.block =>
      exact .of_eq (congrArg (fun rows => { t with blocks := rows })
        (t.blocks.set_comm (harrows hx hy) row' row))
    all_goals exact .of_eq rfl
  · rcases y with (_ | _ | _ | ⟨id', row'⟩ | _ | _) | ⟨pair', now'⟩
    case write.request =>
      have hne : id' ≠ id := fun h => hrequests id rfl (congrArg some h)
      exact .of_eq (congrArg (fun rows => { t with requests := rows })
        (t.requests.set_comm hne row' row))
    case expire =>
      have hother : ∀ r, row = some r → r.matchId ≠ pair' :=
        fun r hr => (hkeys (hx r hr) hy).symm
      exact .of_eq (t.write_request_expire hother now' id).symm
    all_goals exact .of_eq rfl
  · rcases y with (_ | _ | _ | _ | ⟨pair', row'⟩ | _) | _
    case write.conversation =>
      exact .of_eq (congrArg (fun rows => { t with conversations := rows })
        (t.conversations.set_comm (hkeys hx hy) row' row))
    all_goals exact .of_eq rfl
  · rcases y with (_ | _ | _ | _ | _ | n') | _
    case write.notification =>
      have hne : n.recipient ≠ n'.recipient := fun h => hapart _ hx (h ▸ hy)
      exact reordered_notifications hne t
    all_goals exact .of_eq rfl
  · rcases y with (_ | _ | _ | ⟨id', row'⟩ | _ | _) | ⟨pair', now'⟩
    case write.request =>
      have hother : ∀ r, row' = some r → r.matchId ≠ pair := fun r hr => hkeys hx (hy r hr)
      exact .of_eq (t.write_request_expire hother now id')
    case expire => exact .of_eq (t.expire_comm (hkeys hx hy) now' now)
    all_goals exact .of_eq rfl

/-- A change goes past changes that it commutes with. -/
theorem reordered_change_changed {x : Change} {changes : List Change} (hx : x.Of a b)
    (hchanges : ∀ y ∈ changes, y.Of c d) (hapart : ∀ user ∈ s(a, b), user ∉ s(c, d))
    (hrequests : ∀ y ∈ changes, ∀ id, x.request? = some id → y.request? ≠ some id) (t : Tables) :
    Reordered ((t.change x).changed changes) ((t.changed changes).change x) := by
  induction changes generalizing t with
  | nil => exact .refl _
  | cons y changes ih =>
    rw [List.forall_mem_cons] at hchanges hrequests
    have hfirst := reordered_change_change hx hchanges.1 hapart hrequests.1 t
    exact (hfirst.changed changes).trans (ih hchanges.2 hrequests.2 (t.change y))

/-- Changes for pairs without a common user may be made in either order. -/
theorem reordered_changed_changed {changes changes' : List Change}
    (hchanges : ∀ x ∈ changes, x.Of a b) (hchanges' : ∀ y ∈ changes', y.Of c d)
    (hapart : ∀ user ∈ s(a, b), user ∉ s(c, d))
    (hrequests : ∀ x ∈ changes, ∀ y ∈ changes', ∀ id,
      x.request? = some id → y.request? ≠ some id) (t : Tables) :
    Reordered ((t.changed changes).changed changes') ((t.changed changes').changed changes) := by
  induction changes generalizing t with
  | nil => exact .refl _
  | cons x changes ih =>
    rw [List.forall_mem_cons] at hchanges hrequests
    have hfirst := reordered_change_changed hchanges.1 hchanges' hapart hrequests.1 t
    exact (ih hchanges.2 hrequests.2 (t.change x)).trans (hfirst.changed changes)

end Tables

end Courtship
