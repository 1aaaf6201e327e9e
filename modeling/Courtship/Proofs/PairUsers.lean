import Courtship.Conversation
import Courtship.Proofs.Text.Digits
import Mathlib.Data.Sym.Sym2

/-! The two users of a pair, out of its name: the name is the text of the smaller one, an underscore
and the text of the larger one, and no such text has an underscore in it. -/

namespace Courtship

/-! ## The text of an identifier -/

def lowerHex : List Char :=
  ['0', '1', '2', '3', '4', '5', '6', '7', '8', '9', 'a', 'b', 'c', 'd', 'e', 'f']

/-- The number with these digits in base 16. -/
def hexNumber (digits : List Char) : Nat :=
  digits.foldl (fun n c => 16 * n + lowerHex.idxOf c) 0

theorem mem_lowerHex_digitChar : ∀ d < 16, Nat.digitChar d ∈ lowerHex := by decide

theorem idxOf_digitChar : ∀ d < 16, lowerHex.idxOf (Nat.digitChar d) = d := by decide

theorem hexNumber_hexDigits (width n : Nat) : hexNumber (hexDigits width n) = n % 16 ^ width := by
  induction width generalizing n with
  | zero => simp [hexNumber, hexDigits, Nat.mod_one]
  | succ width ih =>
    have hlast : n % 16 < 16 := Nat.mod_lt _ (by omega)
    have hfirst : hexNumber (hexDigits width (n / 16)) = n / 16 % 16 ^ width := ih (n / 16)
    rw [hexNumber] at hfirst
    rw [hexDigits, hexNumber, List.foldl_append, hfirst, List.foldl_cons, List.foldl_nil,
      idxOf_digitChar _ hlast, Nat.pow_succ', Nat.mod_mul]
    omega

theorem hexDigits_add (width more n : Nat) :
    hexDigits (width + more) n = hexDigits width (n / 16 ^ more) ++ hexDigits more n := by
  induction more generalizing n with
  | zero => simp [hexDigits]
  | succ more ih =>
    rw [← Nat.add_assoc, hexDigits, hexDigits, ih, Nat.div_div_eq_div_mul, ← Nat.pow_succ',
      List.append_assoc]

namespace Uuid

/-- The text of an identifier with hyphens: five groups of digits in lower case that together spell
its number. -/
def Hyphenated (u : Uuid) (cs : List Char) : Prop :=
  ∃ groups : List (List Char), groups.map List.length = [8, 4, 4, 4, 12] ∧
    cs = ['-'].intercalate groups ∧ (∀ c ∈ groups.flatten, c ∈ lowerHex) ∧
    hexNumber groups.flatten = u.toNat

theorem hyphenated_chars (u : Uuid) : u.Hyphenated u.chars := by
  let n := u.toNat
  let groups := [hexDigits 8 (n >>> 96), hexDigits 4 (n >>> 80), hexDigits 4 (n >>> 64),
    hexDigits 4 (n >>> 48), hexDigits 12 n]
  have hflatten : groups.flatten = hexDigits 32 n := by
    rw [hexDigits_add 20 12, hexDigits_add 16 4, hexDigits_add 12 4, hexDigits_add 8 4]
    simp [groups, Nat.shiftRight_eq_div_pow, Nat.div_div_eq_div_mul]
  refine ⟨groups, by simp [groups, hexDigits_length], by simp [groups, chars, n], ?_, ?_⟩
  · intro c hc
    rw [hflatten] at hc
    obtain ⟨d, hd, rfl⟩ := mem_hexDigits hc
    exact mem_lowerHex_digitChar d hd
  · rw [hflatten, hexNumber_hexDigits]
    exact Nat.mod_eq_of_lt u.toNat_lt

theorem digitChar_ne_underscore : ∀ d < 16, Nat.digitChar d ≠ '_' := by decide

theorem underscore_not_mem_chars (u : Uuid) : '_' ∉ u.chars := by
  have hdigits : ∀ width n, '_' ∉ hexDigits width n := by
    intro width n h
    obtain ⟨d, hd, hc⟩ := mem_hexDigits h
    exact digitChar_ne_underscore d hd hc
  simp [chars, hdigits]

end Uuid

/-! ## The name of a pair -/

theorem inOrder_le (a b : UserId) : (inOrder a b).1.toNat ≤ (inOrder a b).2.toNat := by
  unfold inOrder
  split <;> (dsimp only; omega)

theorem sym2_inOrder (a b : UserId) : s((inOrder a b).1, (inOrder a b).2) = s(a, b) := by
  rcases inOrder_eq a b with h | h <;> rw [h]
  exact Sym2.eq_swap

namespace PairId

/-- The users whose texts are before and behind the first underscore. -/
def users? (pair : PairId) : Option (UserId × UserId) :=
  let cs := pair.text.toList
  match cs.dropWhile (· ≠ '_') with
  | '_' :: high => do
    some (⟨← Uuid.ofChars? (cs.takeWhile (· ≠ '_'))⟩, ⟨← Uuid.ofChars? high⟩)
  | _ => none

theorem toList_text_of (a b : UserId) :
    (of a b).text.toList = (inOrder a b).1.chars ++ '_' :: (inOrder a b).2.chars :=
  String.toList_ofList

theorem users?_of (a b : UserId) : (of a b).users? = some (inOrder a b) := by
  have hlow : ∀ c ∈ (inOrder a b).1.chars, decide (c ≠ '_') = true := by
    intro c hc
    rw [decide_eq_true_eq]
    rintro rfl
    exact Uuid.underscore_not_mem_chars _ hc
  have hdrop : (of a b).text.toList.dropWhile (· ≠ '_') = '_' :: (inOrder a b).2.chars := by
    rw [toList_text_of, List.dropWhile_append_of_pos hlow]
    rfl
  have htake : (of a b).text.toList.takeWhile (· ≠ '_') = (inOrder a b).1.chars := by
    rw [toList_text_of, List.takeWhile_append_of_pos hlow]
    exact List.append_nil _
  have hread : ∀ u : UserId, Uuid.ofChars? u.chars = some u.uuid :=
    fun u => Uuid.ofChars?_chars u.uuid
  rw [users?, hdrop, htake]
  simp [hread]

end PairId

/-- **A pair's name tells its users.** Two pairs have the same name exactly if they are the same
without regard to order. The name is the hyphenated text of the smaller user, an underscore and that
of the larger one; both can be read back from it, and they are the two users, in this order, of a
new match and of a new conversation of the pair. -/
theorem name_tells_pair :
    (∀ a b c d : UserId, PairId.of a b = PairId.of c d ↔ s(a, b) = s(c, d)) ∧
    ∀ a b : UserId, ∃ (low high : UserId) (lowText highText : List Char),
      s(low, high) = s(a, b) ∧ low.toNat ≤ high.toNat ∧
      low.uuid.Hyphenated lowText ∧ high.uuid.Hyphenated highText ∧
      (PairId.of a b).text.toList = lowText ++ '_' :: highText ∧
      (PairId.of a b).users? = some (low, high) ∧
      ∀ now : Instant,
        let m := Match.new a b now
        let c := Conversation.new a b now
        (m.id = PairId.of a b ∧ m.userA = low ∧ m.userB = high) ∧
          c.id = PairId.of a b ∧ c.userA = low ∧ c.userB = high := by
  constructor
  · intro a b c d
    rw [PairId.of_eq_iff, Sym2.eq_iff]
  · intro a b
    refine ⟨(inOrder a b).1, (inOrder a b).2, (inOrder a b).1.chars, (inOrder a b).2.chars,
      sym2_inOrder a b, inOrder_le a b, Uuid.hyphenated_chars _, Uuid.hyphenated_chars _,
      PairId.toList_text_of a b, PairId.users?_of a b, ?_⟩
    intro now
    exact ⟨⟨PairId.of_inOrder a b, rfl, rfl⟩, PairId.of_inOrder a b, rfl, rfl⟩

end Courtship
