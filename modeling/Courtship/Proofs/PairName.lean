import Courtship.Match
import Mathlib.Algebra.Group.Nat.Defs

/-! The name of a pair of users: the same in either order, and that of no other pair. -/

namespace Courtship

/-! ## Digits -/

theorem hexDigits_length (width n : Nat) : (hexDigits width n).length = width := by
  induction width generalizing n with
  | zero => rfl
  | succ width ih => simp [hexDigits, ih]

theorem digitChar_inj : ∀ d < 16, ∀ e < 16, Nat.digitChar d = Nat.digitChar e → d = e := by
  decide

/-- Equal digits of a fixed width come from numbers that agree up to that width. -/
theorem mod_eq_of_hexDigits_eq {width n m : Nat} (h : hexDigits width n = hexDigits width m) :
    n % 16 ^ width = m % 16 ^ width := by
  induction width generalizing n m with
  | zero => simp [Nat.mod_one]
  | succ width ih =>
    rw [hexDigits, hexDigits] at h
    obtain ⟨hhigh, hlow⟩ := List.append_inj' h rfl
    have hq := ih hhigh
    have hr : n % 16 = m % 16 :=
      digitChar_inj _ (Nat.mod_lt _ (by omega)) _ (Nat.mod_lt _ (by omega)) (by simpa using hlow)
    rw [Nat.pow_succ', Nat.mod_mul, Nat.mod_mul, hq, hr]

/-! ## Users -/

namespace Uuid

theorem chars_length (u : Uuid) : u.chars.length = 36 := by
  simp [chars, hexDigits_length]

theorem toNat_lt (u : Uuid) : u.toNat < 2 ^ 128 := u.bits.isLt

theorem toNat_inj {u v : Uuid} (h : u.toNat = v.toNat) : u = v := by
  cases u; cases v
  exact congrArg Uuid.mk (BitVec.eq_of_toNat_eq h)

/-- The five groups of digits together hold every bit. -/
theorem chars_inj {u v : Uuid} (h : u.chars = v.chars) : u = v := by
  simp only [chars, Nat.shiftRight_eq_div_pow, List.append_assoc, List.cons_append] at h
  obtain ⟨h1, h⟩ := List.append_inj h (by simp [hexDigits_length])
  obtain ⟨h2, h⟩ := List.append_inj (List.cons.inj h).2 (by simp [hexDigits_length])
  obtain ⟨h3, h⟩ := List.append_inj (List.cons.inj h).2 (by simp [hexDigits_length])
  obtain ⟨h4, h⟩ := List.append_inj (List.cons.inj h).2 (by simp [hexDigits_length])
  have e1 := mod_eq_of_hexDigits_eq h1
  have e2 := mod_eq_of_hexDigits_eq h2
  have e3 := mod_eq_of_hexDigits_eq h3
  have e4 := mod_eq_of_hexDigits_eq h4
  have e5 := mod_eq_of_hexDigits_eq (List.cons.inj h).2
  have hu := u.toNat_lt
  have hv := v.toNat_lt
  apply toNat_inj
  omega

end Uuid

namespace UserId

theorem toNat_inj {a b : UserId} (h : a.toNat = b.toNat) : a = b := by
  cases a; cases b
  exact congrArg UserId.mk (Uuid.toNat_inj h)

theorem chars_inj {a b : UserId} (h : a.chars = b.chars) : a = b := by
  cases a; cases b
  exact congrArg UserId.mk (Uuid.chars_inj h)

end UserId

/-! ## Pairs -/

theorem inOrder_comm (a b : UserId) : inOrder a b = inOrder b a := by
  unfold inOrder
  split <;> split
  · have : a = b := UserId.toNat_inj (by omega)
    rw [this]
  · rfl
  · rfl
  · omega

theorem inOrder_eq (a b : UserId) : inOrder a b = (a, b) ∨ inOrder a b = (b, a) := by
  unfold inOrder
  split <;> simp

theorem inOrder_lt {a b : UserId} (h : a ≠ b) : (inOrder a b).1.toNat < (inOrder a b).2.toNat := by
  have hne : a.toNat ≠ b.toNat := fun e => h (UserId.toNat_inj e)
  unfold inOrder
  split <;> (dsimp only; omega)

theorem inOrder_idem (a b : UserId) : inOrder (inOrder a b).1 (inOrder a b).2 = inOrder a b := by
  rcases inOrder_eq a b with h | h
  · rw [h]; exact h
  · rw [h]; exact (inOrder_comm b a).trans h

namespace PairId

theorem of_comm (a b : UserId) : of a b = of b a := by
  unfold of
  rw [inOrder_comm]

theorem of_inOrder (a b : UserId) : of (inOrder a b).1 (inOrder a b).2 = of a b := by
  unfold of
  rw [inOrder_idem]

theorem inOrder_eq_of_eq {a b c d : UserId} (h : of a b = of c d) : inOrder a b = inOrder c d := by
  have hl := congrArg PairId.text h
  simp only [of] at hl
  have hl := congrArg String.toList hl
  simp only [String.toList_ofList] at hl
  obtain ⟨hlow, hrest⟩ := List.append_inj hl (by simp [UserId.chars, Uuid.chars_length])
  exact Prod.ext (UserId.chars_inj hlow) (UserId.chars_inj (List.cons.inj hrest).2)

/-- A pair is told from every other pair by its name. -/
theorem of_eq_iff {a b c d : UserId} :
    of a b = of c d ↔ (a = c ∧ b = d) ∨ (a = d ∧ b = c) := by
  constructor
  · intro h
    have h := inOrder_eq_of_eq h
    rcases inOrder_eq a b with h1 | h1 <;> rcases inOrder_eq c d with h2 | h2 <;>
      (rw [h1, h2] at h; simp only [Prod.mk.injEq] at h)
    · exact .inl h
    · exact .inr h
    · exact .inr ⟨h.2, h.1⟩
    · exact .inl ⟨h.2, h.1⟩
  · rintro (⟨rfl, rfl⟩ | ⟨rfl, rfl⟩)
    · rfl
    · exact of_comm a b

end PairId

end Courtship
