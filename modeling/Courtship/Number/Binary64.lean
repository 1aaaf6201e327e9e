import Courtship.Text.Basic

/-! Floating-point numbers of 64 bits: the one nearest to a decimal number or to its text, the
natural number nearest to it, and its text of the fewest digits. All of it is exact arithmetic on
natural numbers. -/

namespace Courtship

inductive Binary64 where
  /-- The number `mantissa * 2 ^ power`, where the mantissa is below 2^53, and at least 2^52 unless
  the power is -1074. -/
  | finite (negative : Bool) (mantissa : Nat) (power : Int)
  | infinite (negative : Bool)
  | nan
  deriving DecidableEq

namespace Binary64

/-- A fraction of natural numbers times a power of two. -/
def scaled (num den : Nat) (power : Int) : Nat × Nat :=
  if 0 ≤ power then (num <<< power.toNat, den) else (num, den <<< (-power).toNat)

/-- The nearest natural number to a fraction; a half goes to the even one. -/
def roundEven (num den : Nat) : Nat :=
  let q := num / den
  let twice := 2 * (num % den)
  if den < twice ∨ (den = twice ∧ q % 2 = 1) then q + 1 else q

/-! ## From decimal -/

/-- The nearest number to a positive fraction. -/
def ofRatio (negative : Bool) (num den : Nat) : Binary64 :=
  let estimate : Int := max ((num.log2 : Int) - den.log2 - 52) (-1074)
  let below (power : Int) : Bool :=
    let (n, d) := scaled num den (-power)
    n < d <<< 52
  let power := if below estimate && -1074 < estimate then estimate - 1 else estimate
  let (n, d) := scaled num den (-power)
  let mantissa := roundEven n d
  let (mantissa, power) :=
    if mantissa = 1 <<< 53 then (1 <<< 52, power + 1) else (mantissa, power)
  if 971 < power then infinite negative else finite negative mantissa power

/-- The nearest number to `digits * 10 ^ exponent`. -/
def ofDecimal (negative : Bool) (digits : Nat) (exponent : Int) : Binary64 :=
  let size : Int := exponent + (Nat.toDigits 10 digits).length
  if digits = 0 ∨ size < -330 then finite negative 0 (-1074)
  else if 320 < size then infinite negative
  else if 0 ≤ exponent then ofRatio negative (digits * Nat.pow 10 exponent.toNat) 1
  else ofRatio negative digits (Nat.pow 10 (-exponent).toNat)

/-- A sign, and what it stands before. -/
def readSign : List Char → Bool × List Char
  | '-' :: r => (true, r)
  | '+' :: r => (false, r)
  | cs => (false, cs)

/-- The power of ten behind the digits: none, or an integer with a sign. -/
def readPower? : List Char → Option Int
  | [] => some 0
  | e :: r =>
    if e = 'e' || e = 'E' then
      let (negative, digits) := readSign r
      if digits.isEmpty || !digits.all Char.isDigit then none
      else some (if negative then -(ofDigits digits : Int) else ofDigits digits)
    else none

/-- Digits with a point before, between or after them, and a power of ten. -/
def readDecimal? (negative : Bool) (cs : List Char) : Option Binary64 :=
  let (whole, r) := spanDigits cs
  let (fraction, r) := match r with
    | '.' :: r => spanDigits r
    | _ => ([], r)
  let digits := whole ++ fraction
  if digits.isEmpty then none
  else (readPower? r).map fun power =>
    ofDecimal negative (ofDigits digits) (power - fraction.length)

/-- A number in decimal, or infinity or no number by name, in any case. -/
def ofText? (text : String) : Option Binary64 :=
  let (negative, cs) := readSign text.toList
  let word := String.ofList (cs.map Char.toLower)
  if word = "inf" || word = "infinity" then some (infinite negative)
  else if word = "nan" then some nan
  else readDecimal? negative cs

/-! ## To natural numbers -/

/-- The largest word of 64 bits. -/
def largestWord : Nat := UInt64.size - 1

/-- The nearest word of 64 bits, with a half going up; zero for what is no number. -/
def toWord : Binary64 → Nat
  | nan => 0
  | infinite negative => if negative then 0 else largestWord
  | finite negative mantissa power =>
    if negative then 0
    else
      let (n, d) := scaled mantissa 1 power
      min ((2 * n + d) / (2 * d)) largestWord

/-! ## To text -/

/-- How many digits a positive fraction has before the point; none or fewer if zeros follow the
point at once. -/
def magnitude (num den : Nat) : Int :=
  (Nat.toDigits 10 (num * Nat.pow 10 400 / den)).length - 400

/-- The positive number `num` between two neighbours, half of the way to each: what lies strictly
between `low` and `high` reads back as it, and the two ends do so if `closed`. All are over
`den`. -/
structure Interval where
  low : Nat
  num : Nat
  high : Nat
  den : Nat
  closed : Bool

/-- Of the numbers on the grid of `10 ^ (size - count)`, the one nearest to the middle that reads
back; it has `count` digits if the middle has `size` before the point. -/
def Interval.nearest? (v : Interval) (size : Int) (count : Nat) : Option Nat :=
  let step := v.den * Nat.pow 10 (size - count).toNat
  let factor := Nat.pow 10 (count - size).toNat
  let down := v.num * factor / step
  let fits (d : Nat) : Bool :=
    if v.closed then v.low * factor ≤ d * step && d * step ≤ v.high * factor
    else v.low * factor < d * step && d * step < v.high * factor
  let nearer :=
    if 2 * (v.num * factor - down * step) < step then [down, down + 1] else [down + 1, down]
  nearer.find? fits

def interval (mantissa : Nat) (power : Int) : Interval :=
  let lowGap := if mantissa = 1 <<< 52 ∧ -1074 < power then 1 else 2
  let (unit, den) := scaled 1 1 (power - 2)
  ⟨(4 * mantissa - lowGap) * unit, 4 * mantissa * unit, (4 * mantissa + 2) * unit, den,
    mantissa % 2 = 0⟩

/-- The fewest digits that read back as `mantissa * 2 ^ power`, and where the point stands. -/
def shortest (mantissa : Nat) (power : Int) : List Char × Int :=
  let v := interval mantissa power
  let size := magnitude v.num v.den
  match (List.range 17).findSome? fun i => (v.nearest? size (i + 1)).map (i + 1, ·) with
  | some (count, digits) =>
    let cs := Nat.toDigits 10 digits
    ((cs.reverse.dropWhile (· = '0')).reverse, size + (cs.length - count))
  | none => ([], 0)

/-- Digits with a point before, between or after them, and no exponent. -/
def positional (digits : List Char) (point : Int) : List Char :=
  if point ≤ 0 then ['0', '.'] ++ List.replicate (-point).toNat '0' ++ digits
  else if digits.length ≤ point.toNat then
    digits ++ List.replicate (point.toNat - digits.length) '0'
  else digits.take point.toNat ++ '.' :: digits.drop point.toNat

def chars : Binary64 → List Char
  | nan => "NaN".toList
  | infinite negative => (if negative then "-inf" else "inf").toList
  | finite negative mantissa power =>
    let sign := if negative then ['-'] else []
    if mantissa = 0 then sign ++ ['0']
    else
      let (digits, point) := shortest mantissa power
      sign ++ positional digits point

def text (x : Binary64) : String := String.ofList x.chars

end Binary64

end Courtship
