import Courtship.Proofs.Text.Calendar
import Courtship.Time.Instant

/-! Midnight of a day, on the calendar and by the count of seconds: every instant that can be told
has one behind it that can be told too, and two instants share it if they share their date. -/

namespace Courtship.Instant

/-! ## Dates and times of day -/

/-- The date of `t` in UTC. -/
def date (t : Instant) : Date := .ofDays t.day

/-- The start of this second of this day, if there are such a date and such a time and they are in
range. -/
def at? (date : Date) (hour minute second : Nat) : Option Instant :=
  if date.isValid ∧ hour < 24 ∧ minute < 60 ∧ second < 60 then
    of? (date.toDays * secondsPerDay + (hour * 3600 + minute * 60 + second : Nat)) 0
  else none

structure IsMidnight (t : Instant) : Prop where
  wholeDays : t.seconds % secondsPerDay = 0
  noFraction : t.nanos = 0

/-! ## In the order of time -/

variable {s t m : Instant}

theorem isMidnight_startOfDay (t : Instant) : t.startOfDay.IsMidnight where
  wholeDays := Int.mul_emod_left t.day secondsPerDay
  noFraction := rfl

theorem day_startOfDay (t : Instant) : t.startOfDay.day = t.day :=
  Int.mul_ediv_cancel t.day (by decide)

/-- A later instant is on no earlier day, also if only its nanoseconds tell that it is later. -/
theorem day_le_of_le (h : s ≤ t) : s.day ≤ t.day := by
  have hs := s.nanos_lt
  have ht := t.nanos_lt
  change s.key ≤ t.key at h
  simp only [key] at h
  simp only [day, secondsPerDay]
  omega

theorem startOfDay_le_iff : s.startOfDay ≤ t ↔ s.day ≤ t.day := by
  constructor
  · intro h
    rw [← day_startOfDay s]
    exact day_le_of_le h
  · intro h
    change s.startOfDay.key ≤ t.key
    simp only [day, secondsPerDay] at h
    simp only [key, startOfDay, day, secondsPerDay]
    omega

theorem startOfDay_mono (h : s ≤ t) : s.startOfDay ≤ t.startOfDay := by
  rw [startOfDay_le_iff, day_startOfDay]
  exact day_le_of_le h

theorem startOfDay_eq_iff_day : s.startOfDay = t.startOfDay ↔ s.day = t.day := by
  constructor
  · intro h
    rw [← day_startOfDay s, h, day_startOfDay]
  · intro h
    simp only [startOfDay, h]

theorem IsMidnight.startOfDay_eq (hm : m.IsMidnight) : m.startOfDay = m := by
  obtain ⟨hseconds, hnanos⟩ := hm
  have hday : m.day * secondsPerDay = m.seconds := by
    simp only [day, secondsPerDay] at hseconds ⊢
    omega
  obtain ⟨seconds, nanos, _, _, _⟩ := m
  subst hnanos
  simp only [startOfDay, mk.injEq, and_true]
  exact hday

/-- A leap second, too, is before the midnight that follows. -/
theorem IsMidnight.lt_of_startOfDay_lt (hm : m.IsMidnight) (h : t.startOfDay < m) : t < m := by
  have hnot : ¬m.startOfDay ≤ t.startOfDay := by
    rw [hm.startOfDay_eq]
    exact Int.not_le.2 h
  rw [startOfDay_le_iff, day_startOfDay] at hnot
  rw [← hm.startOfDay_eq]
  exact Int.not_le.1 fun hle => hnot (startOfDay_le_iff.1 hle)

theorem seconds_lt_next_midnight (t : Instant) :
    t.seconds < t.startOfDay.seconds + secondsPerDay := by
  simp only [startOfDay, day, secondsPerDay]
  omega

/-! ## On the calendar -/

theorem date_eq_iff_day : s.date = t.date ↔ s.day = t.day := by
  constructor
  · intro h
    rw [← Date.toDays_ofDays s.day, ← Date.toDays_ofDays t.day]
    exact congrArg Date.toDays h
  · exact congrArg Date.ofDays

/-- Every date that an instant has also has a first second, on the first day of all as well. -/
theorem at?_midnight (t : Instant) : at? t.date 0 0 0 = some t.startOfDay := by
  have hvalid : t.date.isValid = true := Date.isValid_ofDays t.day
  have hseconds : t.date.toDays * secondsPerDay + ((0 * 3600 + 0 * 60 + 0 : Nat) : Int) =
      t.startOfDay.seconds := by
    rw [date, Date.toDays_ofDays]
    exact Int.add_zero _
  have hrange : -8334601228800 ≤ t.startOfDay.seconds ∧ t.startOfDay.seconds ≤ 8210266876799 :=
    ⟨t.startOfDay.first_le, t.startOfDay.le_last⟩
  rw [at?, if_pos ⟨hvalid, by decide⟩, hseconds, of?,
    dif_pos ⟨hrange.1, hrange.2, Int.le_refl 0, .inl (by decide)⟩]
  rfl

/-- **Midnight starts the day.** The start of a day is a midnight, not after any instant of the day,
and every instant of the day is before all later midnights. It is its own start of day, and the
instant that the calendar gives for the time 00:00:00 of the date, which exists for every date. It
keeps the order of instants and is the same for two of them exactly if they have the same date. -/
theorem midnight_starts_day :
    (∀ t : Instant,
      t.startOfDay ≤ t ∧ t.startOfDay.IsMidnight ∧
        t.seconds < t.startOfDay.seconds + secondsPerDay ∧
        (∀ m : Instant, m.IsMidnight → t.startOfDay < m → t < m) ∧
        t.startOfDay.startOfDay = t.startOfDay ∧ at? t.date 0 0 0 = some t.startOfDay) ∧
    (∀ s t : Instant, s ≤ t → s.startOfDay ≤ t.startOfDay) ∧
    ∀ s t : Instant, s.startOfDay = t.startOfDay ↔ s.date = t.date := by
  refine ⟨?_, fun s t => startOfDay_mono, ?_⟩
  · intro t
    exact ⟨startOfDay_le_iff.2 (Int.le_refl _), isMidnight_startOfDay t,
      seconds_lt_next_midnight t, fun m hm => hm.lt_of_startOfDay_lt,
      (isMidnight_startOfDay t).startOfDay_eq, at?_midnight t⟩
  · intro s t
    rw [startOfDay_eq_iff_day, date_eq_iff_day]

def first : Instant := ⟨-8334601228800, 0, by decide, by decide, by decide⟩

/-- The leap second at the end of the first day. -/
def firstLeap : Instant := ⟨-8334601142401, 1999999999, by decide, by decide, by decide⟩

def second : Instant := ⟨-8334601142400, 0, by decide, by decide, by decide⟩

/-- The first day of all ends with a leap second, which is before the second day. -/
theorem midnight_starts_day_first :
    first ≤ firstLeap ∧ first.startOfDay ≤ firstLeap.startOfDay ∧
      firstLeap.startOfDay = first ∧ second.IsMidnight ∧ firstLeap.startOfDay < second ∧
      firstLeap < second := by
  obtain ⟨hday, hmono, _⟩ := midnight_starts_day
  have hle : first ≤ firstLeap := by decide
  have hmidnight : second.IsMidnight := ⟨by decide, rfl⟩
  have hlt : firstLeap.startOfDay < second := by decide
  obtain ⟨_, _, _, hnext, _⟩ := hday firstLeap
  exact ⟨hle, hmono _ _ hle, by decide, hmidnight, hlt, hnext _ hmidnight hlt⟩

end Courtship.Instant
