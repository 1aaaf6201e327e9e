import Courtship.Text.Basic
import Courtship.Time.Calendar
import Courtship.Time.Instant

/-! Times as text: instants in the one form written and in the wider set of forms read, and lengths
of time in the largest unit that they fill. -/

namespace Courtship

namespace Instant

/-! ## Writing instants -/

/-- Four digits, and a sign where four digits alone would not do. -/
def yearChars (year : Int) : List Char :=
  if year < 0 then '-' :: padded 4 year.natAbs
  else if 9999 < year then '+' :: padded 4 year.natAbs
  else padded 4 year.natAbs

def dateChars (d : Date) : List Char :=
  yearChars d.year ++ '-' :: padded 2 d.month ++ '-' :: padded 2 d.day

/-- The fraction of a second: none, or in milli-, micro- or nanoseconds, whichever is exact. -/
def fractionChars (nanos : Nat) : List Char :=
  if nanos = 0 then []
  else if nanos % 1000000 = 0 then '.' :: padded 3 (nanos / 1000000)
  else if nanos % 1000 = 0 then '.' :: padded 6 (nanos / 1000)
  else '.' :: padded 9 nanos

/-- The time of day; a leap second is second 60. -/
def timeChars (second nanos : Nat) : List Char :=
  let leap := if 1000000000 ≤ nanos then 1 else 0
  padded 2 (second / 3600) ++ ':' :: padded 2 (second / 60 % 60) ++
    ':' :: padded 2 (second % 60 + leap) ++ fractionChars (nanos - leap * 1000000000)

def chars (t : Instant) : List Char :=
  dateChars (Date.ofDays t.day) ++ 'T' :: timeChars t.secondOfDay.toNat t.nanos ++ ['Z']

def text (t : Instant) : String := String.ofList t.chars

/-! ## Reading instants -/

/-- One to `most` digits. -/
def readUpTo (most : Nat) (cs : List Char) : Option (Nat × List Char) :=
  let digits := (cs.take most).takeWhile Char.isDigit
  if digits.isEmpty then none else some (ofDigits digits, cs.drop digits.length)

def readPart (most : Nat) (cs : List Char) : Option (Nat × List Char) :=
  readUpTo most (skipBlanks cs)

/-- Up to four digits, or a sign and any number of them. -/
def readYear (cs : List Char) : Option (Int × List Char) :=
  match skipBlanks cs with
  | '-' :: r => (readUpTo r.length r).map fun (n, r) => (-(n : Int), r)
  | '+' :: r => (readUpTo r.length r).map fun (n, r) => ((n : Int), r)
  | r => (readUpTo 4 r).map fun (n, r) => ((n : Int), r)

def expect (c : Char) (cs : List Char) : Option (List Char) :=
  match skipBlanks cs with
  | d :: r => if d = c then some r else none
  | [] => none

/-- The nanoseconds of a fraction: digits beyond the ninth are dropped. -/
def readFraction (cs : List Char) : Option (Nat × List Char) :=
  match cs with
  | '.' :: r =>
    let (digits, rest) := spanDigits r
    if digits.isEmpty then none
    else some (ofDigits ((digits.take 9).rightpad 9 '0'), rest)
  | _ => some (0, cs)

def isOffsetBreak (c : Char) : Bool := c = ':' || isBlank c

/-- Two digits, the first at most `high`. -/
def readPair (high : Char) (cs : List Char) : Option (Nat × List Char) :=
  match cs with
  | c :: d :: r => if c.isDigit && c ≤ high && d.isDigit then some (ofDigits [c, d], r) else none
  | _ => none

/-- The offset from UTC in seconds: `Z`, `UTC`, or a sign, hours and minutes. -/
def readOffset (cs : List Char) : Option (Int × List Char) :=
  if (cs.take 3).map Char.toUpper = ['U', 'T', 'C'] then some (0, cs.drop 3)
  else
    let numeric (sign : Int) (r : List Char) : Option (Int × List Char) := do
      let (hours, r) ← readPair '9' r
      let (minutes, r) ← readPair '5' (r.dropWhile isOffsetBreak)
      if hours < 24 then some (sign * (hours * 3600 + minutes * 60), r) else none
    match cs with
    | 'Z' :: r | 'z' :: r => some (0, r)
    | '+' :: r => numeric 1 r
    | '-' :: r | '\u2212' :: r => numeric (-1) r
    | _ => none

def readDate (cs : List Char) : Option (Date × List Char) := do
  let (year, cs) ← readYear cs
  let (month, cs) ← readPart 2 (← expect '-' cs)
  let (day, cs) ← readPart 2 (← expect '-' cs)
  some (⟨year, month, day⟩, cs)

/-- The second of the day and the nanoseconds. -/
def readTime (cs : List Char) : Option ((Nat × Nat) × List Char) := do
  let (hour, cs) ← readPart 2 cs
  let (minute, cs) ← readPart 2 (← expect ':' cs)
  let (second, cs) ← readPart 2 (← expect ':' cs)
  let (nanos, cs) ← readFraction cs
  if 23 < hour || 59 < minute || 60 < second then none
  else if second = 60 then some ((hour * 3600 + minute * 60 + 59, nanos + 1000000000), cs)
  else some ((hour * 3600 + minute * 60 + second, nanos), cs)

def readSeparator (cs : List Char) : Option (List Char) :=
  match cs with
  | 'T' :: r | 't' :: r | ' ' :: r => some r
  | _ => none

/-- Both the local time and the instant it stands for have to be in range. -/
def ofChars? (cs : List Char) : Option Instant := do
  let (date, cs) ← readDate cs
  let ((second, nanos), cs) ← readTime (← readSeparator cs)
  let (offset, cs) ← readOffset (skipBlanks cs)
  if !(skipBlanks cs).isEmpty || !date.isValid then none
  else
    let here ← of? (date.toDays * secondsPerDay + second) nanos
    of? (here.seconds - offset) nanos

def ofText? (s : String) : Option Instant := ofChars? s.toList

end Instant

/-! ## Lengths of time -/

/-- `whole`, and the digits of `part` as a fraction of `places` places without zeros at the end. -/
def withFraction (whole places part : Nat) : List Char :=
  let digits := ((padded places part).reverse.dropWhile (· = '0')).reverse
  Nat.toDigits 10 whole ++ (if digits.isEmpty then [] else '.' :: digits)

def spanChars (nanos : Nat) : List Char :=
  if 1000000000 ≤ nanos then withFraction (nanos / 1000000000) 9 (nanos % 1000000000) ++ ['s']
  else if 1000000 ≤ nanos then withFraction (nanos / 1000000) 6 (nanos % 1000000) ++ ['m', 's']
  else if 1000 ≤ nanos then withFraction (nanos / 1000) 3 (nanos % 1000) ++ ['µ', 's']
  else Nat.toDigits 10 nanos ++ ['n', 's']

def spanText (nanos : Nat) : String := String.ofList (spanChars nanos)

def millisText (millis : Nat) : String := spanText (millis * 1000000)

end Courtship
