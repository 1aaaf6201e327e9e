/-! Instants of UTC with nanoseconds: their range, order, differences and shifts. A leap second is
the second before it with 10^9 or more nanoseconds. -/

namespace Courtship

def nanosPerSecond : Nat := 1000000000

def secondsPerDay : Int := 86400

structure Instant where
  /-- Counted from 1970-01-01T00:00:00Z. -/
  seconds : Int
  nanos : Nat
  first_le : -8334601228800 ≤ seconds
  le_last : seconds ≤ 8210266876799
  nanos_lt : nanos < 1000000000 ∨ (nanos < 2000000000 ∧ seconds % 60 = 59)
  deriving DecidableEq

namespace Instant

/-- The instant with these parts, if they are those of one. -/
def of? (seconds nanos : Int) : Option Instant :=
  if h : -8334601228800 ≤ seconds ∧ seconds ≤ 8210266876799 ∧ 0 ≤ nanos ∧
      (nanos < 1000000000 ∨ (nanos < 2000000000 ∧ seconds % 60 = 59)) then
    some ⟨seconds, nanos.toNat, h.1, h.2.1, by omega⟩
  else none

def epoch : Instant := ⟨0, 0, by decide, by decide, by decide⟩

/-! ## Order -/

/-- A number that orders instants by second and then by nanosecond. -/
def key (t : Instant) : Int := t.seconds * 2000000000 + t.nanos

instance : LE Instant := ⟨fun t u => t.key ≤ u.key⟩

instance : LT Instant := ⟨fun t u => t.key < u.key⟩

instance (t u : Instant) : Decidable (t ≤ u) := inferInstanceAs (Decidable (t.key ≤ u.key))

instance (t u : Instant) : Decidable (t < u) := inferInstanceAs (Decidable (t.key < u.key))

/-! ## Days -/

def day (t : Instant) : Int := t.seconds / secondsPerDay

def secondOfDay (t : Instant) : Int := t.seconds % secondsPerDay

/-- Midnight of the day of `t`. -/
def startOfDay (t : Instant) : Instant where
  seconds := t.day * secondsPerDay
  nanos := 0
  first_le := by have := t.first_le; simp only [day, secondsPerDay]; omega
  le_last := by have := t.le_last; simp only [day, secondsPerDay]; omega
  nanos_lt := .inl (by decide)

/-! ## Differences -/

def isLeap (t : Instant) : Bool := 1000000000 ≤ t.nanos

/-- The nanoseconds from `u` to `t`. A leap second counts where the other instant lies on the far
side of it by the time of day. -/
def since (t u : Instant) : Int :=
  let leap : Int :=
    if u.secondOfDay < t.secondOfDay ∧ u.isLeap then 1
    else if t.secondOfDay < u.secondOfDay ∧ t.isLeap then -1
    else 0
  (t.seconds - u.seconds + leap) * 1000000000 + ((t.nanos : Int) - u.nanos)

/-- Carries nanoseconds between -10^9 and 2 · 10^9 over into the seconds. -/
def carry? (seconds nanos : Int) : Option Instant :=
  if nanos < 0 then of? (seconds - 1) (nanos + 1000000000)
  else if 1000000000 ≤ nanos then of? (seconds + 1) (nanos - 1000000000)
  else of? seconds nanos

/-- `t` moved by `nanos` nanoseconds, if that is in range. A move that leaves a leap second does
not count it. -/
def shift? (t : Instant) (nanos : Int) : Option Instant :=
  let s := nanos.tdiv 1000000000
  let n := nanos.tmod 1000000000
  if t.isLeap then
    if 0 < s ∨ (0 < n ∧ 2000000000 ≤ t.nanos + n) then
      carry? (t.seconds + s) (t.nanos - 1000000000 + n)
    else if s < 0 then carry? (t.seconds + 1 + s) (t.nanos - 1000000000 + n)
    else of? t.seconds (t.nanos + n)
  else carry? (t.seconds + s) (t.nanos + n)

/-! ## Microseconds from 2000-01-01 -/

def epoch2000 : Instant := ⟨946684800, 0, by decide, by decide, by decide⟩

/-- Whole microseconds since 2000-01-01, rounded towards it. -/
def micros2000 (t : Instant) : Int := (t.since epoch2000).tdiv 1000

def ofMicros2000? (micros : Int) : Option Instant :=
  of? (946684800 + micros / 1000000) (micros % 1000000 * 1000)

end Instant

end Courtship
