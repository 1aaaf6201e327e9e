import Courtship.Json.Printer
import Courtship.Json.Reader
import Courtship.Proofs.Text.Digits
import Mathlib.Tactic.SplitIfs

/-! The text of a JSON value is read back as that value, if its numbers are integers. -/

namespace Courtship.Json

/-! ## Strings -/

theorem readUnicode_hexDigits {n : Nat} (hn : n < 32) (rest : List Char) :
    readUnicode (hexDigits 4 n ++ rest) = some (Char.ofNat n, rest) := by
  have hmod : 16 ^ 4 * 0 + n % 16 ^ 4 = n := by omega
  have hnone : ¬(0xD800 ≤ n ∧ n < 0xE000) := by omega
  simp only [readUnicode, readHex_hexDigits, hmod, hnone, Option.bind_eq_bind, Option.bind_some,
    ↓reduceIte]

/-- One character is read with one unit of fuel, however it is written. -/
theorem readString_escaped (c : Char) (fuel : Nat) (rest : List Char) :
    readString (fuel + 1) (escaped c ++ rest) =
      (readString fuel rest).bind fun p => some (c :: p.1, p.2) := by
  by_cases hshort : c = '"' ∨ c = '\\' ∨ c = '\n' ∨ c = '\r' ∨ c = '\t' ∨ c = '\x08' ∨ c = '\x0c'
  · rcases hshort with rfl | rfl | rfl | rfl | rfl | rfl | rfl <;>
      simp [escaped, readString, readEscape]
  · simp only [not_or] at hshort
    obtain ⟨h1, h2, h3, h4, h5, h6, h7⟩ := hshort
    by_cases hcontrol : c.toNat < 32
    · simp [escaped, readString, readEscape, h1, h2, h3, h4, h5, h6, h7, hcontrol,
        readUnicode_hexDigits]
    · simp [escaped, readString, h1, h2, h3, h4, h5, h6, h7, hcontrol]

theorem readString_flatMap {cs : List Char} {fuel : Nat} (hfuel : cs.length < fuel)
    (rest : List Char) :
    readString fuel (cs.flatMap escaped ++ '"' :: rest) = some (cs, rest) := by
  induction cs generalizing fuel with
  | nil =>
    obtain ⟨fuel, rfl⟩ : ∃ n, fuel = n + 1 := ⟨fuel - 1, by simp at hfuel; omega⟩
    simp [readString]
  | cons c cs ih =>
    obtain ⟨fuel, rfl⟩ : ∃ n, fuel = n + 1 := ⟨fuel - 1, by simp at hfuel; omega⟩
    have hfuel : cs.length < fuel := by simpa using hfuel
    rw [List.flatMap_cons, List.append_assoc, readString_escaped, ih hfuel]
    rfl

theorem length_le_flatMap_escaped (cs : List Char) :
    cs.length ≤ (cs.flatMap escaped).length := by
  induction cs with
  | nil => simp
  | cons c cs ih =>
    have : 1 ≤ (escaped c).length := by
      unfold escaped
      split_ifs <;> simp
    simp only [List.flatMap_cons, List.length_append, List.length_cons]
    omega

theorem length_quoted (cs : List Char) : cs.length + 2 ≤ (quoted cs).length := by
  have := length_le_flatMap_escaped cs
  simp only [quoted, List.cons_append, List.length_cons, List.length_append, List.length_nil]
  omega

/-! ## Numbers -/

/-- Nothing that would go on with a number. -/
def EndsNumber (rest : List Char) : Prop :=
  ∀ c ∈ rest.head?, c.isDigit = false ∧ c ≠ '.' ∧ c ≠ 'e' ∧ c ≠ 'E'

theorem endsNumber_nil : EndsNumber [] := by simp [EndsNumber]

theorem EndsNumber.startsNoDigit {rest : List Char} (h : EndsNumber rest) : StartsNoDigit rest :=
  fun c hc => (h c hc).1

theorem EndsNumber.readPoint {rest : List Char} (h : EndsNumber rest) :
    readPoint rest = some ([], rest) := by
  unfold Json.readPoint
  split
  · exact absurd rfl (h '.' rfl).2.1
  · rfl

theorem EndsNumber.readExponent {rest : List Char} (h : EndsNumber rest) :
    readExponent rest = some ([], rest) := by
  cases rest with
  | nil => rfl
  | cons c rest =>
    obtain ⟨_, _, he, hE⟩ := h c rfl
    simp [Json.readExponent, he, hE]

theorem readUnsigned_toDigits {n : Nat} {negative : Bool} (hsign : negative → n ≠ 0)
    {rest : List Char} (h : EndsNumber rest) :
    readUnsigned negative (Nat.toDigits 10 n ++ rest) =
      some (.int (if negative then -(n : Int) else n), rest) := by
  have hspan : spanDigits (Nat.toDigits 10 n ++ rest) = (Nat.toDigits 10 n, rest) :=
    spanDigits_append (fun _ => Nat.isDigit_of_mem_toDigits (by decide) (by decide))
      h.startsNoDigit
  have hzero : ¬((Nat.toDigits 10 n).head? = some '0' ∧ 1 < (Nat.toDigits 10 n).length) := by
    rintro ⟨hhead, hlong⟩
    by_cases hn : n = 0
    · subst hn
      exact absurd hlong (by decide)
    · exact head?_toDigits hn hhead
  have hvalue : ofDigits (Nat.toDigits 10 n) = n := Nat.ofDigitChars_ten_toDigits
  cases negative <;>
    simp_all [readUnsigned, h.readPoint, h.readExponent, Nat.toDigits_ne_nil]

/-- What a number starts with is the start of nothing else. -/
theorem exists_intChars_eq_cons (n : Int) :
    ∃ c cs, intChars n = c :: cs ∧ (c = '-' ∨ c.isDigit = true) := by
  unfold intChars
  split
  · exact ⟨_, _, rfl, .inl rfl⟩
  · obtain ⟨c, cs, h⟩ := List.exists_cons_of_ne_nil (Nat.toDigits_ne_nil (b := 10) (n := n.natAbs))
    exact ⟨c, cs, h, .inr (Nat.isDigit_of_mem_toDigits (b := 10) (n := n.natAbs) (by decide)
      (by decide) (by simp [h]))⟩

theorem readNumber_intChars (n : Int) {rest : List Char} (h : EndsNumber rest) :
    readNumber (intChars n ++ rest) = some (.int n, rest) := by
  by_cases hneg : n < 0
  · have hsign : -(n.natAbs : Int) = n := by omega
    rw [intChars, if_pos hneg, List.cons_append, readNumber, readUnsigned_toDigits (by omega) h]
    simp only [↓reduceIte, hsign]
  · have hsign : (n.natAbs : Int) = n := by omega
    have hread : readUnsigned false (Nat.toDigits 10 n.natAbs ++ rest) =
        some (.int (n.natAbs : Int), rest) := readUnsigned_toDigits (by simp) h
    rw [intChars, if_neg hneg]
    unfold readNumber
    split
    · rename_i r hcs
      have hminus : '-' ∈ Nat.toDigits 10 n.natAbs := by
        cases hdigits : Nat.toDigits 10 n.natAbs with
        | nil => exact absurd hdigits Nat.toDigits_ne_nil
        | cons c cs =>
          rw [hdigits] at hcs
          simp [(List.cons.inj hcs).1]
      exact absurd (Nat.isDigit_of_mem_toDigits (by decide) (by decide) hminus) (by decide)
    · rw [hread, hsign]

/-! ## Values -/

mutual

/-- Whether all numbers in the value are integers. -/
def isIntegral : Json → Bool
  | .real _ => false
  | .array js => areIntegral js
  | .object ms => membersIntegral ms
  | _ => true

def areIntegral : List Json → Bool
  | [] => true
  | j :: js => isIntegral j && areIntegral js

def membersIntegral : List (String × Json) → Bool
  | [] => true
  | (_, j) :: ms => isIntegral j && membersIntegral ms

end

/-- The start of a number is told from every other start of a value, and from what ends one. -/
theorem ne_of_startsInt {c : Char} (h : c = '-' ∨ c.isDigit = true) :
    (c ≠ '\x7b' ∧ c ≠ '[' ∧ c ≠ '"' ∧ c ≠ 'n' ∧ c ≠ 't' ∧ c ≠ 'f') ∧ c ≠ ']' ∧
      isSpace c = false := by
  have hne (d : Char) (hd : d ≠ '-' ∧ d.isDigit = false) : c ≠ d := by
    rintro rfl
    simp_all
  refine ⟨⟨?_, ?_, ?_, ?_, ?_, ?_⟩, ?_, ?_⟩
  case refine_8 =>
    simp [isSpace, hne ' ' (by decide), hne '\t' (by decide), hne '\n' (by decide),
      hne '\r' (by decide)]
  all_goals exact hne _ (by decide)

/-- A value does not start with white space, and not as an array ends. -/
theorem exists_chars_eq_cons (j : Json) (h : j.isIntegral) :
    ∃ c cs, chars j = c :: cs ∧ isSpace c = false ∧ c ≠ ']' := by
  cases j with
  | real text => simp [isIntegral] at h
  | null => exact ⟨_, _, rfl, rfl, by decide⟩
  | bool b => cases b <;> exact ⟨_, _, rfl, rfl, by decide⟩
  | int n =>
    obtain ⟨c, cs, hchars, hc⟩ := exists_intChars_eq_cons n
    exact ⟨c, cs, hchars, (ne_of_startsInt hc).2.2, (ne_of_startsInt hc).2.1⟩
  | string s => exact ⟨_, _, rfl, rfl, by decide⟩
  | array js => cases js <;> exact ⟨_, _, rfl, rfl, by decide⟩
  | object ms => rcases ms with _ | ⟨⟨name, j⟩, ms⟩ <;> exact ⟨_, _, rfl, rfl, by decide⟩

theorem length_chars_pos (j : Json) (h : j.isIntegral) : 0 < (chars j).length := by
  obtain ⟨c, cs, hchars, _⟩ := exists_chars_eq_cons j h
  simp [hchars]

theorem skipSpace_cons {c : Char} (h : isSpace c = false) (cs : List Char) :
    skipSpace (c :: cs) = c :: cs := by
  simp [skipSpace, h]

theorem skipSpace_chars {j : Json} (h : j.isIntegral) (rest : List Char) :
    skipSpace (chars j ++ rest) = chars j ++ rest := by
  obtain ⟨c, cs, hchars, hc, _⟩ := exists_chars_eq_cons j h
  rw [hchars, List.cons_append, skipSpace_cons hc]

theorem endsNumber_moreItems (js : List Json) (rest : List Char) :
    EndsNumber (moreItems js ++ rest) := by
  cases js <;> simp [EndsNumber, moreItems]

theorem endsNumber_moreMembers (ms : List (String × Json)) (rest : List Char) :
    EndsNumber (moreMembers ms ++ rest) := by
  rcases ms with _ | ⟨⟨name, j⟩, ms⟩ <;> simp [EndsNumber, moreMembers]

/-! ### One step of reading -/

variable {fuel : Nat} {rest : List Char} {j : Json}

theorem readValue_int (n : Int) (h : EndsNumber rest) :
    readValue (fuel + 1) (intChars n ++ rest) = some (.int n, rest) := by
  obtain ⟨c, cs, hchars, hc⟩ := exists_intChars_eq_cons n
  obtain ⟨⟨h1, h2, h3, h4, h5, h6⟩, _⟩ := ne_of_startsInt hc
  have hread := readNumber_intChars n h
  rw [hchars, List.cons_append] at hread ⊢
  simpa only [readValue, h1, h2, h3, h4, h5, h6, ↓reduceIte] using hread

theorem readValue_string {s : String} (hfuel : s.toList.length < fuel) :
    readValue (fuel + 1) (quoted s.toList ++ rest) = some (.string s, rest) := by
  simp only [quoted, List.cons_append, List.append_assoc, List.nil_append, readValue,
    Char.reduceEq, ↓reduceIte, readString_flatMap hfuel, Option.map_some, String.ofList_toList]

theorem readValue_array {js : List Json} (hj : j.isIntegral)
    (hitems : readItems fuel (chars j ++ (moreItems js ++ rest)) = some (j :: js, rest)) :
    readValue (fuel + 1) (chars (.array (j :: js)) ++ rest) = some (.array (j :: js), rest) := by
  obtain ⟨c, cs, hchars, _, hc⟩ := exists_chars_eq_cons j hj
  simp only [chars, List.cons_append, readValue, Char.reduceEq, ↓reduceIte, List.append_assoc,
    skipSpace_chars hj]
  rw [hchars, List.cons_append] at hitems ⊢
  split
  · rename_i heq
    exact absurd (List.cons.inj heq).1 hc
  · simp [hitems]

theorem readValue_object {name : String} {ms : List (String × Json)}
    (hmembers :
      readMembers fuel (quoted name.toList ++ ':' :: (chars j ++ (moreMembers ms ++ rest)))
        = some ((name, j) :: ms, rest)) :
    readValue (fuel + 1) (chars (.object ((name, j) :: ms)) ++ rest) =
      some (.object ((name, j) :: ms), rest) := by
  simp only [quoted, List.cons_append, List.append_assoc, List.nil_append] at hmembers
  simp [chars, readValue, quoted, hmembers, skipSpace_cons (c := '"') (by decide)]

theorem readItems_cons {js : List Json} (hj : j.isIntegral)
    (hvalue : readValue fuel (chars j ++ (moreItems js ++ rest)) = some (j, moreItems js ++ rest))
    (hitems : ∀ j' js', js = j' :: js' →
      readItems fuel (chars j' ++ (moreItems js' ++ rest)) = some (js, rest)) :
    readItems (fuel + 1) (chars j ++ (moreItems js ++ rest)) = some (j :: js, rest) := by
  rw [readItems, skipSpace_chars hj, hvalue]
  cases js with
  | nil => simp [moreItems, skipSpace_cons (c := ']') (by decide)]
  | cons j' js =>
    simp [moreItems, skipSpace_cons (c := ',') (by decide), hitems j' js rfl]

theorem readMembers_cons {name : String} {ms : List (String × Json)} (hj : j.isIntegral)
    (hname : name.toList.length < fuel)
    (hvalue : readValue fuel (chars j ++ (moreMembers ms ++ rest)) =
      some (j, moreMembers ms ++ rest))
    (hmembers : ∀ name' j' ms', ms = (name', j') :: ms' →
      readMembers fuel (quoted name'.toList ++ ':' :: (chars j' ++ (moreMembers ms' ++ rest))) =
        some (ms, rest)) :
    readMembers (fuel + 1)
        (quoted name.toList ++ ':' :: (chars j ++ (moreMembers ms ++ rest))) =
      some ((name, j) :: ms, rest) := by
  simp only [quoted, List.cons_append, List.append_assoc, List.nil_append, readMembers,
    skipSpace_cons (c := '"') (by decide), readString_flatMap hname,
    skipSpace_cons (c := ':') (by decide), Option.bind_eq_bind, Option.bind_some,
    skipSpace_chars hj, hvalue, String.ofList_toList]
  rcases ms with _ | ⟨⟨name', j'⟩, ms⟩
  · simp [moreMembers, skipSpace_cons (c := '\x7d') (by decide)]
  · simp [moreMembers, skipSpace_cons (c := ',') (by decide), hmembers name' j' ms rfl]

/-! ### Whole values -/

mutual

/-- A character of the text is worth one unit of fuel. -/
theorem readValue_chars : ∀ (j : Json) {fuel : Nat} {rest : List Char}, j.isIntegral →
    (chars j).length ≤ fuel → EndsNumber rest → readValue fuel (chars j ++ rest) = some (j, rest)
  | j, 0, _, h, hfuel, _ => absurd (length_chars_pos j h) (by omega)
  | .null, fuel + 1, rest, _, _, _ => by simp [chars, readValue, readWord]
  | .bool true, fuel + 1, rest, _, _, _ => by simp [chars, readValue, readWord]
  | .bool false, fuel + 1, rest, _, _, _ => by simp [chars, readValue, readWord]
  | .int n, fuel + 1, rest, _, _, hrest => by
    rw [chars]
    exact readValue_int n hrest
  | .string s, fuel + 1, rest, _, hfuel, _ => by
    have := length_quoted s.toList
    rw [chars] at hfuel ⊢
    exact readValue_string (by omega)
  | .array [], fuel + 1, rest, _, _, _ => by
    simp [chars, readValue, skipSpace_cons (c := ']') (by decide)]
  | .array (j :: js), fuel + 1, rest, h, hfuel, _ => by
    simp only [isIntegral, areIntegral, Bool.and_eq_true] at h
    simp only [chars, List.length_cons, List.length_append] at hfuel
    exact readValue_array h.1 (readItems_chars j js h.1 h.2 (by omega))
  | .object [], fuel + 1, rest, _, _, _ => by
    simp [chars, readValue, skipSpace_cons (c := '\x7d') (by decide)]
  | .object ((name, j) :: ms), fuel + 1, rest, h, hfuel, _ => by
    simp only [isIntegral, membersIntegral, Bool.and_eq_true] at h
    simp only [chars, List.length_cons, List.length_append] at hfuel
    exact readValue_object (readMembers_chars name j ms h.1 h.2 (by omega))

theorem readItems_chars : ∀ (j : Json) (js : List Json) {fuel : Nat} {rest : List Char},
    j.isIntegral → areIntegral js → (chars j).length + (moreItems js).length ≤ fuel →
    readItems fuel (chars j ++ (moreItems js ++ rest)) = some (j :: js, rest)
  | j, js, 0, rest, hj, _, hfuel => absurd (length_chars_pos j hj) (by omega)
  | j, [], fuel + 1, rest, hj, _, hfuel => by
    simp only [moreItems, List.length_cons, List.length_nil] at hfuel
    exact readItems_cons hj (readValue_chars j hj (by omega) (endsNumber_moreItems [] rest)) nofun
  | j, j' :: js, fuel + 1, rest, hj, hjs, hfuel => by
    have := length_chars_pos j hj
    simp only [areIntegral, Bool.and_eq_true] at hjs
    simp only [moreItems, List.length_cons, List.length_append] at hfuel
    have hmore : readItems fuel (chars j' ++ (moreItems js ++ rest)) = some (j' :: js, rest) :=
      readItems_chars j' js hjs.1 hjs.2 (by omega)
    refine readItems_cons hj (readValue_chars j hj (by omega) (endsNumber_moreItems _ rest)) ?_
    rintro _ _ ⟨⟩
    exact hmore

theorem readMembers_chars : ∀ (name : String) (j : Json) (ms : List (String × Json)) {fuel : Nat}
    {rest : List Char}, j.isIntegral → membersIntegral ms →
    (quoted name.toList).length + (chars j).length + (moreMembers ms).length ≤ fuel →
    readMembers fuel (quoted name.toList ++ ':' :: (chars j ++ (moreMembers ms ++ rest))) =
      some ((name, j) :: ms, rest)
  | name, j, ms, 0, rest, hj, _, hfuel => absurd (length_chars_pos j hj) (by omega)
  | name, j, [], fuel + 1, rest, hj, _, hfuel => by
    have := length_quoted name.toList
    simp only [moreMembers, List.length_cons, List.length_nil] at hfuel
    exact readMembers_cons hj (by omega)
      (readValue_chars j hj (by omega) (endsNumber_moreMembers [] rest)) nofun
  | name, j, (name', j') :: ms, fuel + 1, rest, hj, hms, hfuel => by
    have := length_quoted name.toList
    simp only [membersIntegral, Bool.and_eq_true] at hms
    simp only [moreMembers, List.length_cons, List.length_append] at hfuel
    have hmore : readMembers fuel
          (quoted name'.toList ++ ':' :: (chars j' ++ (moreMembers ms ++ rest))) =
        some ((name', j') :: ms, rest) :=
      readMembers_chars name' j' ms hms.1 hms.2 (by omega)
    refine readMembers_cons hj (by omega)
      (readValue_chars j hj (by omega) (endsNumber_moreMembers _ rest)) ?_
    rintro _ _ _ ⟨⟩
    exact hmore

end

theorem ofText?_text {j : Json} (h : j.isIntegral) : ofText? j.text = some j := by
  have hspace := skipSpace_chars h []
  have hread : readValue (2 * (chars j).length + 2) (chars j ++ []) = some (j, []) :=
    readValue_chars j h (by omega) endsNumber_nil
  rw [List.append_nil] at hspace hread
  have hend : skipSpace [] = [] := rfl
  simp [ofText?, ofChars?, text, hspace, hread, hend]

end Courtship.Json
