import Courtship.Proofs.Leases
import Courtship.Service

/-! A service that nobody else uses. All its locks are free, so it grants them at once, one or two
of them; what is asked of it comes to the operation carried out as a whole, and the locks are free
again afterwards. -/

namespace Courtship

/-! ## Taking and giving back -/

namespace Registry.Agrees

variable {r : Registry} {held : List Lease}

/-- If all leases hold their locks, whoever comes for another user holds a lock at once. -/
theorem isHeld_next (h : r.Agrees held held) {user : UserId} (hnew : ∀ l ∈ held, l.user ≠ user) :
    ((r.lease user).2.request (r.lease user).1).isHeld (r.lease user).1 = true := by
  have hleased := h.lease user
  have huser : (r.lease user).1.user = user := by rw [lease_fst]
  have hfree : ((r.lease user).2.lockAt (r.lease user).1.lock).holder = none := by
    rw [Option.eq_none_iff_forall_ne_some]
    intro ticket hholder
    obtain ⟨l, hl, hlock, -⟩ := hleased.exists_of_holder hholder
    have hsame := (hleased.lock_eq_iff (List.mem_cons_of_mem _ hl) List.mem_cons_self).1 hlock
    exact hnew l hl (hsame.trans huser)
  rw [isHeld_eq_true, lockAt_request, if_pos rfl, Lock.request, hfree]

theorem advance {users : List UserId} (h : r.Agrees held held) (hnew : ∀ l ∈ held, l.user ∉ users)
    (hnodup : users.Nodup) (deadline : Nat) :
    ∃ leases r', Acquisition.advance r deadline held users = (.held leases, r') ∧
      r'.Agrees leases leases := by
  induction users generalizing r held with
  | nil => exact ⟨held, r, rfl, h⟩
  | cons user rest ih =>
    obtain ⟨hfirst, hrest⟩ := List.nodup_cons.1 hnodup
    have hheld : ((r.lease user).2.request (r.lease user).1).isHeld (r.lease user).1 = true := by
      refine h.isHeld_next fun l hl huser => hnew l hl ?_
      rw [huser]
      exact List.mem_cons_self
    have hnext : ∀ l ∈ (r.lease user).1 :: held, l.user ∉ rest := by
      intro l hl hmem
      rcases List.mem_cons.1 hl with rfl | hl
      · rw [lease_fst] at hmem
        exact hfirst hmem
      · exact hnew l hl (List.mem_cons_of_mem _ hmem)
    obtain ⟨leases, r', hadvance, hagrees⟩ := ih ((h.lease user).request _) hnext hrest
    refine ⟨leases, r', ?_, hagrees⟩
    rw [Acquisition.advance]
    dsimp only
    rw [if_pos hheld, hadvance]

theorem releaseAll (h : r.Agrees held held) : (r.releaseAll held).Agrees [] [] := by
  induction held generalizing r with
  | nil => exact h
  | cons l held ih => exact ih (h.letGo h.nodup).returnLease

end Registry.Agrees

theorem Acquisition.nodup_inLockOrder (a b : UserId) : (inLockOrder a b).Nodup := by
  unfold inLockOrder
  dsimp only
  split
  · exact List.nodup_singleton _
  · rename_i hne
    simpa using hne

/-! ## The service -/

namespace Service

variable {σ υ : Type}

/-- Nobody holds a lock or waits for one. -/
def Idle (s : Service σ) : Prop := s.registry.Agrees [] []

theorem idle_new (settings : Settings) (store : σ) (clock : Instant) :
    (new settings store clock).Idle := Registry.agrees_empty

/-- An operation comes to what it comes to as a whole, be it between two users or with one of them
twice, and gives its locks back. -/
theorem Idle.run [Storage σ υ] {α : Type} {s : Service σ} (h : s.Idle) (op : Operation α) :
    ((s.run op).1, (s.run op).2.store) = op.run s.readings s.readings s.store ∧
      (s.run op).2.Idle := by
  unfold Service.run start Operation.run
  rcases op.plan s.readings s.store with ⟨result | ⟨a, b, retries, body⟩, store⟩
  · exact ⟨rfl, h⟩
  · obtain ⟨leases, r, hadvance, hagrees⟩ := h.advance (by simp)
      (Acquisition.nodup_inLockOrder a b) (s.elapsed + s.lockTimeout)
    have hstart : Acquisition.start s.registry (Acquisition.inLockOrder a b) s.elapsed
        ({ s with store := store } : Service σ).lockTimeout = (.held leases, r) :=
      congrArg (Acquisition.expire s.elapsed) hadvance
    simp only [hstart, proceed]
    exact ⟨rfl, hagrees.releaseAll⟩

theorem Idle.command [Storage σ υ] {s : Service σ} (h : s.Idle) (c : Command) :
    ((s.command c).1, (s.command c).2.store) =
        (c.operation s.settings).run s.readings s.readings s.store ∧
      (s.command c).2.Idle :=
  h.run (c.operation s.settings)

end Service

end Courtship
