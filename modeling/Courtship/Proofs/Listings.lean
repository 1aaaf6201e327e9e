import Courtship.Proofs.Rows
import Courtship.Store.Memory

/-! What is listed for a user or on a match: every row that qualifies, once, and no other row, by
the time of its creation. None of it hangs on the order in which a table is gone through; only rows
of one time come in that order. -/

namespace Courtship

/-! ## By time -/

namespace Instant

theorem le_trans {s t u : Instant} (hst : s ≤ t) (htu : t ≤ u) : s ≤ u := Int.le_trans hst htu

theorem le_total (s t : Instant) : s ≤ t ∨ t ≤ s := Int.le_total _ _

end Instant

/-- What a stable sort does to elements that are tied with each other: nothing. -/
theorem filter_mergeSort {α : Type} {le : α → α → Bool}
    (htrans : ∀ x y z, le x y = true → le y z = true → le x z = true)
    (htotal : ∀ x y, (le x y || le y x) = true) {p : α → Bool}
    (htied : ∀ x y, p x = true → p y = true → le x y = true) (xs : List α) :
    (xs.mergeSort le).filter p = xs.filter p := by
  have hpairwise : (xs.filter p).Pairwise fun x y => le x y = true := by
    refine List.pairwise_of_forall_mem_list ?_
    intro x hx y hy
    exact htied x y (List.mem_filter.1 hx).2 (List.mem_filter.1 hy).2
  have hsub : (xs.filter p).Sublist (xs.mergeSort le) :=
    List.sublist_mergeSort htrans htotal hpairwise List.filter_sublist
  have hsub : (xs.filter p).Sublist ((xs.mergeSort le).filter p) := by
    have h := hsub.filter p
    rwa [List.filter_filter, show (fun x => p x && p x) = p from funext fun x => Bool.and_self _]
      at h
  exact (hsub.eq_of_length ((List.mergeSort_perm xs le).filter p).length_eq.symm).symm

namespace Tables

variable {α : Type} (time : α → Instant)

theorem newestFirst_trans (x y z : α) (hxy : decide (time y ≤ time x) = true)
    (hyz : decide (time z ≤ time y) = true) : decide (time z ≤ time x) = true := by
  rw [decide_eq_true_eq] at hxy hyz ⊢
  exact Instant.le_trans hyz hxy

theorem newestFirst_total (x y : α) :
    (decide (time y ≤ time x) || decide (time x ≤ time y)) = true := by
  rw [Bool.or_eq_true, decide_eq_true_eq, decide_eq_true_eq]
  exact Instant.le_total _ _

theorem pairwise_newestFirst (xs : List α) :
    (newestFirst time xs).Pairwise fun x y => time y ≤ time x :=
  (List.pairwise_mergeSort (newestFirst_trans time) (newestFirst_total time) xs).imp
    of_decide_eq_true

theorem pairwise_oldestFirst (xs : List α) :
    (oldestFirst time xs).Pairwise fun x y => time x ≤ time y := by
  have htrans : ∀ x y z : α, decide (time x ≤ time y) = true → decide (time y ≤ time z) = true →
      decide (time x ≤ time z) = true := fun x y z hxy hyz => newestFirst_trans time z y x hyz hxy
  have htotal : ∀ x y : α, (decide (time x ≤ time y) || decide (time y ≤ time x)) = true :=
    fun x y => newestFirst_total time y x
  exact (List.pairwise_mergeSort htrans htotal xs).imp of_decide_eq_true

/-- Elements of one time keep their order. -/
theorem filter_newestFirst (moment : Instant) (xs : List α) :
    (newestFirst time xs).filter (fun x => time x = moment) =
      xs.filter fun x => time x = moment := by
  refine filter_mergeSort (newestFirst_trans time) (newestFirst_total time) ?_ xs
  intro x y hx hy
  rw [decide_eq_true_eq] at hx hy ⊢
  rw [hx, hy]
  exact Int.le_refl _

end Tables

/-! ## Rows of a table -/

namespace Rows

variable {κ ν : Type} [Ord κ] [Std.TransOrd κ] {t : Rows κ ν} {p q : ν → Prop} {found : List ν}

/-- The list has the rows of which `p` holds, each one for the one key under which it is stored. -/
def Lists (t : Rows κ ν) (p : ν → Prop) (found : List ν) : Prop :=
  ∃ keys : List κ, keys.Nodup ∧ (∀ key, key ∈ keys ↔ ∃ row, t[key]? = some row ∧ p row) ∧
    (keys.map fun key => t[key]?).Perm (found.map some)

theorem Lists.congr (h : t.Lists p found) (hpq : ∀ row, p row ↔ q row) : t.Lists q found := by
  rwa [← show p = q from funext fun row => propext (hpq row)]

theorem Lists.perm (h : t.Lists p found) {found' : List ν} (hperm : found.Perm found') :
    t.Lists p found' := by
  obtain ⟨keys, hnodup, hmem, hrows⟩ := h
  exact ⟨keys, hnodup, hmem, hrows.trans (hperm.map some)⟩

theorem Lists.filter (h : t.Lists p found) (pick : ν → Bool) :
    t.Lists (fun row => p row ∧ pick row = true) (found.filter pick) := by
  obtain ⟨keys, hnodup, hmem, hrows⟩ := h
  refine ⟨keys.filter fun key => t[key]?.any pick, hnodup.filter _, ?_, ?_⟩
  · intro key
    rw [List.mem_filter, hmem]
    constructor
    · rintro ⟨⟨row, hrow, hp⟩, hpick⟩
      exact ⟨row, hrow, hp, by simpa [hrow] using hpick⟩
    · rintro ⟨row, hrow, hp, hpick⟩
      exact ⟨⟨row, hrow, hp⟩, by simpa [hrow] using hpick⟩
  · have hfiltered := hrows.filter (Option.any pick)
    rwa [List.filter_map, List.filter_map] at hfiltered

theorem lists_values [Std.LawfulEqOrd κ] (t : Rows κ ν) : t.Lists (fun _ => True) t.values := by
  refine ⟨t.toList.map Prod.fst, nodup_keys t, ?_, ?_⟩
  · intro key
    simp only [and_true, ← Option.isSome_iff_exists]
    simp
  · rw [values_eq, List.map_map, List.map_map]
    refine List.Perm.of_eq (List.map_congr_left ?_)
    rintro ⟨key, row⟩ hentry
    exact Std.ExtTreeMap.mem_toList_iff_getElem?_eq_some.1 hentry

end Rows

/-! ## Listings -/

namespace Tables

/-- A way to go through those tables that are listed from: all rows of each, in any order. -/
structure Scan (t : Tables) where
  matchRows : List Match
  blocks : List Block
  requests : List FriendRequest
  lists_matchRows : t.matchRows.Lists (fun _ => True) matchRows
  lists_blocks : t.blocks.Lists (fun _ => True) blocks
  lists_requests : t.requests.Lists (fun _ => True) requests

namespace Scan

variable {t : Tables}

/-- The way by the keys of the rows, which `Tables.matchesFor` and the other listings go. -/
def byKeys (t : Tables) : t.Scan where
  matchRows := t.matchRows.values
  blocks := t.blocks.values
  requests := t.requests.values
  lists_matchRows := Rows.lists_values t.matchRows
  lists_blocks := Rows.lists_values t.blocks
  lists_requests := Rows.lists_values t.requests

def matchesFor (scan : t.Scan) (user : UserId) : List Match :=
  newestFirst Match.createdAt (scan.matchRows.filter fun m => m.involves user)

def blockedBy (scan : t.Scan) (user : UserId) : List Block :=
  newestFirst Block.createdAt (scan.blocks.filter fun b => b.blocker = user)

def pendingRequestsOn (scan : t.Scan) (pair : PairId) : List FriendRequest :=
  oldestFirst FriendRequest.createdAt
    ((scan.requests.filter FriendRequest.isPending).filter fun r => r.matchId = pair)

def pendingRequestsFor (scan : t.Scan) (user : UserId) : List FriendRequest :=
  oldestFirst FriendRequest.createdAt
    ((scan.requests.filter FriendRequest.isPending).filter fun r => r.toUser = user)

theorem lists_matchesFor (scan : t.Scan) (user : UserId) :
    t.matchRows.Lists (fun m => m.userA = user ∨ m.userB = user) (scan.matchesFor user) := by
  have h := scan.lists_matchRows.filter fun m => m.involves user
  exact (h.perm (List.mergeSort_perm _ _).symm).congr fun m => by simp [Match.involves]

theorem lists_blockedBy (scan : t.Scan) (user : UserId) :
    t.blocks.Lists (fun b => b.blocker = user) (scan.blockedBy user) := by
  have h := scan.lists_blocks.filter fun b => b.blocker = user
  exact (h.perm (List.mergeSort_perm _ _).symm).congr fun b => by simp

theorem lists_pending (scan : t.Scan) (pick : FriendRequest → Bool) :
    t.requests.Lists (fun r => r.status = .pending ∧ pick r = true)
      (oldestFirst FriendRequest.createdAt
        ((scan.requests.filter FriendRequest.isPending).filter pick)) := by
  have h := (scan.lists_requests.filter FriendRequest.isPending).filter pick
  exact (h.perm (List.mergeSort_perm _ _).symm).congr fun r => by simp [FriendRequest.isPending]

end Scan

end Tables

/-- **Listings are complete, private and in order.** In whatever order the tables are gone through,
a listing has every row that qualifies, once for its key, and no other: the matches that a user is
part of and the blocks that the user made, newest first; the pending requests to a user, or on a
match whoever sent them, oldest first. Those of a unit go by the keys. The notifications are those
to the user, newest first, and in order of creation where their times are the same. -/
theorem listings_complete (u : MemoryUnit) :
    (∀ (scan : u.tables.Scan) (user : UserId) (pair : PairId),
      (u.tables.matchRows.Lists (fun m => m.userA = user ∨ m.userB = user)
          (scan.matchesFor user) ∧
        (scan.matchesFor user).Pairwise fun m n => n.createdAt ≤ m.createdAt) ∧
      (u.tables.blocks.Lists (fun b => b.blocker = user) (scan.blockedBy user) ∧
        (scan.blockedBy user).Pairwise fun b c => c.createdAt ≤ b.createdAt) ∧
      (u.tables.requests.Lists (fun r => r.status = .pending ∧ r.toUser = user)
          (scan.pendingRequestsFor user) ∧
        (scan.pendingRequestsFor user).Pairwise fun r s => r.createdAt ≤ s.createdAt) ∧
      (u.tables.requests.Lists (fun r => r.status = .pending ∧ r.matchId = pair)
          (scan.pendingRequestsOn pair) ∧
        (scan.pendingRequestsOn pair).Pairwise fun r s => r.createdAt ≤ s.createdAt)) ∧
    (∀ (user : UserId) (pair : PairId),
      let scan := Tables.Scan.byKeys u.tables
      u.perform (.matchesFor user) = (.ok (scan.matchesFor user), u) ∧
      u.perform (.blockedBy user) = (.ok (scan.blockedBy user), u) ∧
      u.perform (.pendingRequestsFor user) = (.ok (scan.pendingRequestsFor user), u) ∧
      u.perform (.pendingRequestsOn pair) = (.ok (scan.pendingRequestsOn pair), u)) ∧
    ∀ user : UserId, ∃ found : List Notification,
      u.perform (.notificationsFor user) = (.ok found, u) ∧
      found.Perm (u.tables.notifications.filter fun n => n.recipient = user) ∧
      (found.Pairwise fun n o => o.createdAt ≤ n.createdAt) ∧
      ∀ time : Instant, found.filter (fun n => n.createdAt = time) =
        u.tables.notifications.filter fun n => n.createdAt = time ∧ n.recipient = user := by
  refine ⟨?_, fun user pair => ⟨rfl, rfl, rfl, rfl⟩, ?_⟩
  · intro scan user pair
    refine ⟨⟨scan.lists_matchesFor user, Tables.pairwise_newestFirst _ _⟩,
      ⟨scan.lists_blockedBy user, Tables.pairwise_newestFirst _ _⟩,
      ⟨(scan.lists_pending _).congr fun r => ?_, Tables.pairwise_oldestFirst _ _⟩,
      ⟨(scan.lists_pending _).congr fun r => ?_, Tables.pairwise_oldestFirst _ _⟩⟩
    · rw [decide_eq_true_eq]
    · rw [decide_eq_true_eq]
  · intro user
    refine ⟨_, rfl, List.mergeSort_perm _ _, Tables.pairwise_newestFirst _ _, ?_⟩
    intro time
    rw [Tables.notificationsFor, Tables.filter_newestFirst, List.filter_filter]
    simp

end Courtship
