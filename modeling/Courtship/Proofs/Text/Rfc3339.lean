import Courtship.Proofs.Text.Calendar
import Courtship.Proofs.Text.Digits
import Courtship.Time.Text
import Mathlib.Tactic.SplitIfs

/-! The text of an instant is read back as that instant: in every year, with a fraction of any of
the three widths, and in a leap second. -/

namespace Courtship

/-! ## Parts of a text -/

theorem isBlank_of_isDigit {c : Char} (h : c.isDigit = true) : isBlank c = false := by
  have hc : 48 ≤ c.toNat ∧ c.toNat ≤ 57 := by
    simp only [Char.isDigit, Bool.and_eq_true, decide_eq_true_eq] at h
    exact ⟨h.1, h.2⟩
  simp only [isBlank, Bool.or_eq_false_iff, Bool.and_eq_false_iff, decide_eq_false_iff_not,
    beq_eq_false_iff_ne]
  omega

theorem skipBlanks_cons {c : Char} (h : isBlank c = false) (cs : List Char) :
    skipBlanks (c :: cs) = c :: cs := by
  simp [skipBlanks, h]

/-- A number in decimal starts with a digit. -/
theorem exists_padded_eq_cons (width n : Nat) :
    ∃ c cs, padded width n = c :: cs ∧ c.isDigit = true := by
  obtain ⟨c, cs, h⟩ := List.exists_cons_of_ne_nil (padded_ne_nil width n)
  have hc : c ∈ padded width n := by simp [h]
  exact ⟨c, cs, h, isDigit_of_mem_padded hc⟩

theorem skipBlanks_padded (width n : Nat) (rest : List Char) :
    skipBlanks (padded width n ++ rest) = padded width n ++ rest := by
  obtain ⟨c, cs, h, hc⟩ := exists_padded_eq_cons width n
  rw [h, List.cons_append, skipBlanks_cons (isBlank_of_isDigit hc)]

theorem Date.lt_of_isValid {d : Date} (h : d.isValid = true) : d.month < 100 ∧ d.day < 100 := by
  have hlength : monthLength d.year d.month ≤ 31 := by
    unfold monthLength
    split_ifs <;> omega
  simp only [isValid, Bool.and_eq_true, decide_eq_true_eq] at h
  omega

namespace Instant

variable {rest : List Char}

theorem readUpTo_padded {most width n : Nat} (hmost : (padded width n).length ≤ most)
    (h : StartsNoDigit rest) : readUpTo most (padded width n ++ rest) = some (n, rest) := by
  have htake : (padded width n ++ rest).take most =
      padded width n ++ rest.take (most - (padded width n).length) := by
    rw [List.take_append, List.take_of_length_le hmost]
  have hend : StartsNoDigit (rest.take (most - (padded width n).length)) := by
    intro c hc
    cases rest with
    | nil => simp at hc
    | cons d rest =>
      cases hcount : most - (padded width n).length with
      | zero => simp [hcount] at hc
      | succ count =>
        rw [hcount] at hc
        exact h c (by simpa using hc)
  have hspan := spanDigits_append (fun c (hc : c ∈ padded width n) => isDigit_of_mem_padded hc) hend
  simp only [spanDigits, Prod.mk.injEq] at hspan
  simp [readUpTo, htake, hspan.1, padded_ne_nil, ofDigits_padded]

theorem readPart_padded {width n : Nat} (hwidth : 0 < width) (hn : n < 10 ^ width)
    (h : StartsNoDigit rest) : readPart width (padded width n ++ rest) = some (n, rest) := by
  rw [readPart, skipBlanks_padded, readUpTo_padded (length_padded hwidth hn).le h]

theorem expect_cons {c : Char} (h : isBlank c = false) : expect c (c :: rest) = some rest := by
  simp [expect, skipBlanks_cons h]

/-! ## Dates -/

theorem readYear_yearChars (year : Int) (h : StartsNoDigit rest) :
    readYear (yearChars year ++ rest) = some (year, rest) := by
  unfold yearChars
  split
  · have hsign : -(year.natAbs : Int) = year := by omega
    simp [readYear, skipBlanks_cons (c := '-') (by decide), readUpTo_padded _ h, hsign,
      -Nat.cast_natAbs]
  · split
    · have hsign : (year.natAbs : Int) = year := by omega
      simp [readYear, skipBlanks_cons (c := '+') (by decide), readUpTo_padded _ h, hsign]
    · have hsign : (year.natAbs : Int) = year := by omega
      have hlength : (padded 4 year.natAbs).length ≤ 4 :=
        (length_padded (by omega) (by omega)).le
      obtain ⟨c, cs, hchars, hc⟩ := exists_padded_eq_cons 4 year.natAbs
      have hread := readUpTo_padded hlength h
      unfold readYear
      rw [skipBlanks_padded]
      split
      · rename_i heq
        rw [hchars] at heq
        obtain ⟨rfl, _⟩ := List.cons.inj heq
        exact absurd hc (by decide)
      · rename_i heq
        rw [hchars] at heq
        obtain ⟨rfl, _⟩ := List.cons.inj heq
        exact absurd hc (by decide)
      · simp [hread, hsign]

theorem readDate_dateChars {d : Date} (hmonth : d.month < 100) (hday : d.day < 100)
    (h : StartsNoDigit rest) : readDate (dateChars d ++ rest) = some (d, rest) := by
  have hhyphen : isBlank '-' = false := by decide
  simp [readDate, dateChars, readYear_yearChars, startsNoDigit_cons, expect_cons hhyphen,
    readPart_padded, hmonth, hday, h]

/-! ## Times of day -/

/-- Of however many digits a fraction has, nanoseconds are made. -/
theorem readFraction_padded {width n : Nat} (hwidth : 0 < width ∧ width ≤ 9)
    (hn : n < 10 ^ width) (h : StartsNoDigit rest) :
    readFraction ('.' :: (padded width n ++ rest)) = some (n * 10 ^ (9 - width), rest) := by
  have hlength := length_padded hwidth.1 hn
  have htake : (padded width n).take 9 = padded width n := List.take_of_length_le (by omega)
  have hvalue : ofDigits (padded width n ++ List.replicate (9 - width) '0') =
      n * 10 ^ (9 - width) := by
    have := ofDigits_padded width n
    rw [ofDigits] at this ⊢
    rw [Nat.ofDigitChars_append, this, Nat.ofDigitChars_replicate_zero, Nat.mul_comm]
  simp [readFraction, spanDigits_append (fun _ => isDigit_of_mem_padded) h, padded_ne_nil, htake,
    List.rightpad, hlength, hvalue]

theorem readFraction_fractionChars {nanos : Nat} (hnanos : nanos < 1000000000) :
    readFraction (fractionChars nanos ++ 'Z' :: rest) = some (nanos, 'Z' :: rest) := by
  have hend : StartsNoDigit ('Z' :: rest) := startsNoDigit_cons (by decide)
  unfold fractionChars
  split
  · simp_all [readFraction]
  · split
    · have hexact : nanos / 1000000 * 10 ^ (9 - 3) = nanos := by omega
      rw [List.cons_append, readFraction_padded (by omega) (by omega) hend, hexact]
    · split
      · have hexact : nanos / 1000 * 10 ^ (9 - 6) = nanos := by omega
        rw [List.cons_append, readFraction_padded (by omega) (by omega) hend, hexact]
      · rw [List.cons_append, readFraction_padded (by omega) (by omega) hend]
        simp

theorem startsNoDigit_fractionChars (nanos : Nat) :
    StartsNoDigit (fractionChars nanos ++ 'Z' :: rest) := by
  unfold fractionChars
  split_ifs <;> exact startsNoDigit_cons (by decide)

theorem readTime_parts {hour minute second nanos : Nat} (hhour : hour ≤ 23) (hminute : minute ≤ 59)
    (hsecond : second ≤ 60) (hnanos : nanos < 1000000000) :
    readTime (padded 2 hour ++ ':' :: (padded 2 minute ++ ':' ::
        (padded 2 second ++ (fractionChars nanos ++ 'Z' :: rest)))) =
      some (if second = 60 then (hour * 3600 + minute * 60 + 59, nanos + 1000000000)
        else (hour * 3600 + minute * 60 + second, nanos), 'Z' :: rest) := by
  have hcolon : isBlank ':' = false := by decide
  have hvalid : ¬(23 < hour ∨ 59 < minute ∨ 60 < second) := by omega
  simp only [readTime, readPart_padded (n := hour) (by omega : 0 < 2) (by omega)
      (startsNoDigit_cons (c := ':') (by decide)),
    readPart_padded (n := minute) (by omega : 0 < 2) (by omega)
      (startsNoDigit_cons (c := ':') (by decide)),
    readPart_padded (n := second) (by omega : 0 < 2) (by omega)
      (startsNoDigit_fractionChars nanos),
    expect_cons hcolon, readFraction_fractionChars hnanos, Option.bind_eq_bind, Option.bind_some,
    Bool.or_eq_true, decide_eq_true_eq, or_assoc, hvalid, ↓reduceIte]
  split <;> rfl

theorem readTime_timeChars {second nanos : Nat} (hsecond : second < 86400)
    (hnanos : nanos < 1000000000 ∨ (nanos < 2000000000 ∧ second % 60 = 59)) :
    readTime (timeChars second nanos ++ 'Z' :: rest) = some ((second, nanos), 'Z' :: rest) := by
  unfold timeChars
  split
  · rename_i hleap
    simp only [List.append_assoc, List.cons_append]
    rw [readTime_parts (by omega) (by omega) (by omega) (by omega), if_pos (by omega)]
    congr 2
    exact Prod.ext (by omega) (by omega)
  · rename_i hleap
    simp only [List.append_assoc, List.cons_append]
    rw [readTime_parts (by omega) (by omega) (by omega) (by omega), if_neg (by omega)]
    congr 2
    exact Prod.ext (by omega) (by omega)

/-! ## Instants -/

theorem of?_parts (t : Instant) : of? t.seconds t.nanos = some t := by
  have hfirst := t.first_le
  have hlast := t.le_last
  have hnanos := t.nanos_lt
  unfold of?
  rw [dif_pos ⟨hfirst, hlast, by omega, by omega⟩]
  rfl

theorem day_add_secondOfDay (t : Instant) :
    t.day * secondsPerDay + t.secondOfDay.toNat = t.seconds ∧ t.secondOfDay.toNat < 86400 := by
  simp only [day, secondOfDay, secondsPerDay]
  omega

theorem readOffset_zulu : readOffset ['Z'] = some (0, []) := by decide

theorem ofText?_text (t : Instant) : ofText? t.text = some t := by
  have hnanos := t.nanos_lt
  obtain ⟨hsecond, hday⟩ := t.day_add_secondOfDay
  have hdate := Date.isValid_ofDays t.day
  obtain ⟨hmonth, hdays⟩ := Date.lt_of_isValid hdate
  have hleap : t.nanos < 1000000000 ∨ (t.nanos < 2000000000 ∧ t.secondOfDay.toNat % 60 = 59) := by
    rw [← hsecond, secondsPerDay] at hnanos
    omega
  have hzulu : skipBlanks ['Z'] = ['Z'] := rfl
  have hend : skipBlanks [] = [] := rfl
  simp only [ofText?, text, String.toList_ofList, ofChars?, chars, List.append_assoc,
    List.cons_append, readDate_dateChars hmonth hdays (startsNoDigit_cons (c := 'T') (by decide)),
    readSeparator, readTime_timeChars hday hleap, hzulu, readOffset_zulu, hend, hdate,
    Date.toDays_ofDays, hsecond, of?_parts, Option.bind_eq_bind, Option.bind_some,
    List.isEmpty_nil, Bool.not_true, Bool.or_self, Bool.false_eq_true, ↓reduceIte, Int.sub_zero]

/-- Half a second into a leap second. -/
example : (Instant.mk 1483228799 1500000000 (by decide) (by decide) (by decide)).text =
    "2016-12-31T23:59:60.500Z" := by
  decide

end Instant

end Courtship
