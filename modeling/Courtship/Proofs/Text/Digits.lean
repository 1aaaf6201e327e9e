import Courtship.Proofs.PairName
import Courtship.Text.Basic

/-! Digits read back: the number that was written, and nothing of what follows it. An identifier is
read back from its text. -/

namespace Courtship

/-! ## Hexadecimal digits -/

theorem hexValue?_digitChar : ∀ d < 16, hexValue? (Nat.digitChar d) = some d := by decide

theorem readHex_add (width more acc : Nat) (cs : List Char) :
    readHex (width + more) acc cs =
      (readHex width acc cs).bind fun p => readHex more p.1 p.2 := by
  induction width generalizing acc cs with
  | zero => simp [readHex]
  | succ width ih =>
    rw [Nat.add_right_comm]
    cases cs with
    | nil => rfl
    | cons c cs => simp [readHex, ih, Option.bind_assoc]

/-- The digits read come behind those of `acc`. -/
theorem readHex_hexDigits (width acc n : Nat) (rest : List Char) :
    readHex width acc (hexDigits width n ++ rest) =
      some (16 ^ width * acc + n % 16 ^ width, rest) := by
  induction width generalizing n rest with
  | zero => simp [readHex, hexDigits, Nat.mod_one]
  | succ width ih =>
    have hlast : n % 16 < 16 := Nat.mod_lt _ (by omega)
    rw [readHex_add, hexDigits, List.append_assoc, ih]
    simp only [Option.bind_some, List.singleton_append, readHex, hexValue?_digitChar _ hlast,
      Option.bind_eq_bind, Option.some.injEq, Prod.mk.injEq, and_true]
    rw [Nat.pow_succ', Nat.mod_mul, Nat.mul_add, Nat.mul_assoc]
    omega

theorem mem_hexDigits {width n : Nat} {c : Char} (h : c ∈ hexDigits width n) :
    ∃ d < 16, Nat.digitChar d = c := by
  induction width generalizing n with
  | zero => simp [hexDigits] at h
  | succ width ih =>
    rcases List.mem_append.1 h with h | h
    · exact ih h
    · exact ⟨n % 16, Nat.mod_lt _ (by omega), (List.mem_singleton.1 h).symm⟩

namespace Uuid

theorem readGroups_cons (width next : Nat) (widths : List Nat) (acc n : Nat) (rest : List Char) :
    readGroups (width :: next :: widths) acc (hexDigits width n ++ '-' :: rest) =
      readGroups (next :: widths) (16 ^ width * acc + n % 16 ^ width) rest := by
  simp [readGroups, readHex_hexDigits]

/-- The five groups of digits together hold every bit. -/
theorem readHyphenated_chars (u : Uuid) (rest : List Char) :
    readHyphenated (u.chars ++ rest) = some (u.toNat, rest) := by
  have hu := u.toNat_lt
  simp only [readHyphenated, chars, List.append_assoc, List.cons_append, readGroups_cons]
  rw [readGroups, readHex_hexDigits]
  simp only [Nat.shiftRight_eq_div_pow, Option.some.injEq, Prod.mk.injEq, and_true]
  omega

theorem ofNat_toNat (u : Uuid) : ofNat u.toNat = u :=
  toNat_inj (by simp [ofNat, toNat])

/-- What the text of an identifier starts with is the start of no other form. -/
theorem exists_chars_eq_cons (u : Uuid) : ∃ d < 16, ∃ rest, u.chars = Nat.digitChar d :: rest := by
  cases hchars : u.chars with
  | nil => simpa [hchars] using u.chars_length
  | cons c rest =>
    have hc : c ∈ hexDigits 8 (u.toNat >>> 96) := by
      have hhead := congrArg List.head? hchars
      simp only [chars, List.append_assoc] at hhead
      rw [List.head?_append,
        Option.or_of_isSome (by simp [← List.length_eq_zero_iff, hexDigits_length])] at hhead
      exact List.mem_of_mem_head? (by simpa using hhead)
    obtain ⟨d, hd, rfl⟩ := mem_hexDigits hc
    exact ⟨d, hd, rest, rfl⟩

theorem digitChar_ne_opening : ∀ d < 16, Nat.digitChar d ≠ '\x7b' ∧
    (Nat.digitChar d).toLower ≠ 'u' := by
  decide

theorem ofChars?_chars (u : Uuid) : ofChars? u.chars = some u := by
  obtain ⟨d, hd, rest, hchars⟩ := u.exists_chars_eq_cons
  obtain ⟨hbrace, hurn⟩ := digitChar_ne_opening d hd
  have hread := u.readHyphenated_chars []
  rw [List.append_nil] at hread
  have hafter : afterUrn? u.chars = none := by
    simp [afterUrn?, hchars, hurn]
  unfold ofChars?
  split
  · rename_i heq
    exact absurd (List.cons.inj (hchars.symm.trans heq)).1 hbrace
  · simp only [hafter, hread, ofNat_toNat, Option.some_or]

theorem ofText?_text (u : Uuid) : ofText? u.text = some u := by
  rw [ofText?, text, String.toList_ofList, ofChars?_chars]

end Uuid

/-! ## Decimal digits -/

/-- Whether the text after a number would not be taken for a part of it. -/
def StartsNoDigit (rest : List Char) : Prop := ∀ c ∈ rest.head?, c.isDigit = false

theorem startsNoDigit_cons {c : Char} {rest : List Char} (h : c.isDigit = false) :
    StartsNoDigit (c :: rest) := by
  simpa [StartsNoDigit] using h

theorem spanDigits_append {digits rest : List Char} (hdigits : ∀ c ∈ digits, c.isDigit = true)
    (hrest : StartsNoDigit rest) : spanDigits (digits ++ rest) = (digits, rest) := by
  induction digits with
  | nil =>
    cases rest with
    | nil => rfl
    | cons c rest => simp [spanDigits, hrest c rfl]
  | cons d digits ih =>
    obtain ⟨hd, hdigits⟩ := List.forall_mem_cons.1 hdigits
    have ih := ih hdigits
    simp only [spanDigits, Prod.mk.injEq] at ih
    simp [spanDigits, hd, ih]

theorem digitChar_ne_zero : ∀ d < 10, d ≠ 0 → Nat.digitChar d ≠ '0' := by decide

/-- Zero alone is written with a zero in front. -/
theorem head?_toDigits {n : Nat} (hn : n ≠ 0) : (Nat.toDigits 10 n).head? ≠ some '0' := by
  induction n using Nat.strongRecOn with
  | ind n ih =>
    rw [Nat.toDigits_eq_if (by omega)]
    split
    · rename_i hone
      simpa using digitChar_ne_zero n hone hn
    · have hfirst : (Nat.toDigits 10 (n / 10)).head?.isSome := by simp [Nat.toDigits_ne_nil]
      rw [List.head?_append, Option.or_of_isSome hfirst]
      exact ih (n / 10) (by omega) (by omega)

theorem isDigit_of_mem_padded {width n : Nat} {c : Char} (h : c ∈ padded width n) :
    c.isDigit = true := by
  rcases List.mem_append.1 h with h | h
  · rw [List.eq_of_mem_replicate h]
    rfl
  · exact Nat.isDigit_of_mem_toDigits (by decide) (by decide) h

theorem ofDigits_padded (width n : Nat) : ofDigits (padded width n) = n := by
  simp [ofDigits, padded, Nat.ofDigitChars_append, Nat.ofDigitChars_replicate_zero,
    Nat.ofDigitChars_ten_toDigits]

theorem padded_ne_nil (width n : Nat) : padded width n ≠ [] := by
  simp [padded, Nat.toDigits_ne_nil]

theorem length_padded {width n : Nat} (hwidth : 0 < width) (hn : n < 10 ^ width) :
    (padded width n).length = width := by
  have := (Nat.length_toDigits_le_iff (by omega) hwidth).2 hn
  simp only [padded, List.length_append, List.length_replicate]
  omega

end Courtship
