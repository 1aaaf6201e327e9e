import Courtship.Time.Calendar
import Courtship.Toml.Basic

/-! Numbers, dates and times in TOML. -/

namespace Courtship.Toml

/-! ## Digits -/

/-- Digits, each of which may have one underscore before it unless it is the first. -/
def readDigits (isDigit : Char → Bool) : List Char → Option (List Char × List Char)
  | [] => none
  | c :: cs =>
    if !isDigit c then none
    else
      match cs with
      | '_' :: r => (readDigits isDigit r).map fun (ds, r) => (c :: ds, r)
      | d :: r =>
        if isDigit d then (readDigits isDigit (d :: r)).map fun (ds, r) => (c :: ds, r)
        else some ([c], d :: r)
      | [] => some ([c], [])

/-- A number to a base that is a power of two. -/
def ofPowerDigits (base : Nat) (digits : List Char) : Nat :=
  digits.foldl (fun n c => base * n + (hexValue? c).getD 0) 0

/-- Digits without a zero in front of others. -/
def readWhole (cs : List Char) : Option (List Char × List Char) :=
  match cs with
  | '0' :: '_' :: _ => none
  | '0' :: r => some (['0'], r)
  | _ => readDigits Char.isDigit cs

/-! ## Integers -/

/-- Integers have 64 bits with a sign. -/
def int? (n : Int) : Option Toml :=
  if Int64.minValue.toInt ≤ n ∧ n ≤ Int64.maxValue.toInt then some (.int n) else none

def readPower (base : Nat) (isDigit : Char → Bool) (cs : List Char) :
    Option (Toml × List Char) := do
  let (digits, r) ← readDigits isDigit cs
  some (← int? (ofPowerDigits base digits), r)

/-- Decimal with a sign, or hexadecimal, octal or binary without one. -/
def readInteger (cs : List Char) : Option (Toml × List Char) :=
  match cs with
  | '0' :: 'x' :: r => readPower 16 (fun c => (hexValue? c).isSome) r
  | '0' :: 'o' :: r => readPower 8 (fun c => '0' ≤ c && c ≤ '7') r
  | '0' :: 'b' :: r => readPower 2 (fun c => c = '0' || c = '1') r
  | _ => do
    let (negative, r) := Binary64.readSign cs
    let (digits, r) ← readWhole r
    let n : Int := ofDigits digits
    some (← int? (if negative then -n else n), r)

/-! ## Floats -/

def readWord? (word : String) (cs : List Char) : Option (List Char) :=
  if word.toList.isPrefixOf cs then some (cs.drop word.length) else none

/-- The digits behind a point, if there is one. -/
def readPoint (cs : List Char) : Option (List Char × List Char) :=
  match cs with
  | '.' :: r => readDigits Char.isDigit r
  | _ => some ([], cs)

/-- The exponent, if there is one. -/
def readPowerOfTen (cs : List Char) : Option (Option Int × List Char) :=
  match cs with
  | e :: r =>
    if e = 'e' || e = 'E' then do
      let (negative, r) := Binary64.readSign r
      let (digits, r) ← readDigits Char.isDigit r
      let n : Int := ofDigits digits
      some (some (if negative then -n else n), r)
    else some (none, cs)
  | [] => some (none, [])

def readSpecial (negative : Bool) (cs : List Char) : Option (Toml × List Char) :=
  match readWord? "inf" cs, readWord? "nan" cs with
  | some r, _ => some (.float (.infinite negative), r)
  | none, some r => some (.float .nan, r)
  | none, none => none

/-- A decimal number with a fraction or an exponent. One too large for a float is refused unless it
is negative. -/
def readFloat (cs : List Char) : Option (Toml × List Char) :=
  let (negative, body) := Binary64.readSign cs
  match readSpecial negative body with
  | some x => some x
  | none => do
    let (whole, r) ← readWhole body
    let (fraction, r') ← readPoint r
    let (power, r'') ← readPowerOfTen r'
    if fraction.isEmpty && power.isNone then none
    else
      let x := Binary64.ofDecimal negative (ofDigits (whole ++ fraction))
        (power.getD 0 - fraction.length)
      if x = .infinite false then none else some (.float x, r'')

/-! ## Dates and times -/

/-- Exactly `width` digits, for a number from `low` to `high`. -/
def readField (width low high : Nat) (cs : List Char) : Option (Nat × List Char) :=
  let digits := cs.take width
  let n := ofDigits digits
  if digits.length = width && digits.all Char.isDigit && low ≤ n && n ≤ high then
    some (n, cs.drop width)
  else none

def readMark (c : Char) : List Char → Option (List Char)
  | d :: r => if c = d then some r else none
  | [] => none

def readDay (cs : List Char) : Option (List Char × List Char) := do
  let (year, cs) ← readField 4 0 9999 cs
  let (month, cs) ← readField 2 1 12 (← readMark '-' cs)
  let (day, cs) ← readField 2 1 31 (← readMark '-' cs)
  let date : Date := ⟨year, month, day⟩
  if date.isValid then
    some (padded 4 year ++ '-' :: padded 2 month ++ '-' :: padded 2 day, cs)
  else none

/-- A fraction of a second in nanoseconds; digits beyond the ninth are dropped. -/
def readNanos (cs : List Char) : Option (Nat × List Char) :=
  match cs with
  | '.' :: r =>
    let (digits, r) := spanDigits r
    if digits.isEmpty then none
    else some (ofDigits ((digits.take 9).rightpad 9 '0'), r)
  | _ => some (0, cs)

def nanosChars (nanos : Nat) : List Char :=
  if nanos = 0 then [] else '.' :: ((padded 9 nanos).reverse.dropWhile (· = '0')).reverse

def readClock (cs : List Char) : Option (List Char × List Char) := do
  let (hour, cs) ← readField 2 0 23 cs
  let (minute, cs) ← readField 2 0 59 (← readMark ':' cs)
  let (second, cs) ← readField 2 0 60 (← readMark ':' cs)
  let (nanos, cs) ← readNanos cs
  some (padded 2 hour ++ ':' :: padded 2 minute ++ ':' :: padded 2 second ++ nanosChars nanos, cs)

def readZone (cs : List Char) : Option (List Char × List Char) :=
  match cs with
  | 'Z' :: r | 'z' :: r => some (['Z'], r)
  | c :: r =>
    if c = '+' || c = '-' then do
      let (hours, r) ← readField 2 0 23 r
      let (minutes, r) ← readField 2 0 59 (← readMark ':' r)
      -- no offset has no sign of its own
      let sign := if c = '-' && (hours, minutes) ≠ (0, 0) then '-' else '+'
      some (sign :: padded 2 hours ++ ':' :: padded 2 minutes, r)
    else none
  | [] => none

def isTimeBreak (c : Char) : Bool := c = 'T' || c = 't' || c = ' '

/-- The time and the offset behind a date, if there are any. -/
def readClockAfter (cs : List Char) : List Char × List Char :=
  match cs with
  | c :: r =>
    if isTimeBreak c then
      match readClock r with
      | some (clock, r) =>
        match readZone r with
        | some (zone, r) => ('T' :: clock ++ zone, r)
        | none => ('T' :: clock, r)
      | none => ([], cs)
    else ([], cs)
  | [] => ([], [])

/-- A date, a time, or both, in canonical text. -/
def readMoment (cs : List Char) : Option (Toml × List Char) :=
  match readDay cs with
  | some (day, r) =>
    let (clock, r) := readClockAfter r
    some (.string (String.ofList (day ++ clock)), r)
  | none => (readClock cs).map fun (clock, r) => (.string (String.ofList clock), r)

/-- Anything that starts with a sign or a digit. -/
def readNumber (cs : List Char) : Option (Toml × List Char) :=
  ((readMoment cs).or (readFloat cs)).or (readInteger cs)

end Courtship.Toml
