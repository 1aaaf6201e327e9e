/-! Characters and digits: white space, numbers of a least or an exact width and reading them back,
percent escapes, and case. -/

namespace Courtship

/-! ## White space -/

/-- The characters with the property White_Space. -/
def isBlank (c : Char) : Bool :=
  let n := c.toNat
  (9 ≤ n && n ≤ 13) || n == 0x20 || n == 0x85 || n == 0xA0 || n == 0x1680 ||
    (0x2000 ≤ n && n ≤ 0x200A) || n == 0x2028 || n == 0x2029 || n == 0x202F || n == 0x205F ||
    n == 0x3000

def skipBlanks (cs : List Char) : List Char := cs.dropWhile isBlank

/-- Without the white space at both ends. -/
def trimmed (cs : List Char) : List Char := (skipBlanks (skipBlanks cs).reverse).reverse

/-! ## Writing numbers -/

/-- The decimal digits of `n`, filled up with zeros in front to `width`. -/
def padded (width n : Nat) : List Char :=
  let digits := Nat.toDigits 10 n
  List.replicate (width - digits.length) '0' ++ digits

/-- The lowest `width` hexadecimal digits of `n`, in lower case. -/
def hexDigits : Nat → Nat → List Char
  | 0, _ => []
  | width + 1, n => hexDigits width (n / 16) ++ [Nat.digitChar (n % 16)]

/-! ## Reading numbers -/

/-- The ASCII digits that `cs` starts with, and what follows them. -/
def spanDigits (cs : List Char) : List Char × List Char :=
  (cs.takeWhile Char.isDigit, cs.dropWhile Char.isDigit)

def ofDigits (digits : List Char) : Nat := Nat.ofDigitChars 10 digits 0

/-- A text of one or more decimal digits, with an optional plus sign in front. -/
def readNat? (cs : List Char) : Option Nat :=
  let digits := match cs with
    | '+' :: r => r
    | _ => cs
  if digits.isEmpty || !digits.all Char.isDigit then none else some (ofDigits digits)

/-- As `readNat?`, and a minus sign is read too. -/
def readInt? (cs : List Char) : Option Int :=
  match cs with
  | '-' :: '+' :: _ => none
  | '-' :: r => (readNat? r).map fun n => -(n : Int)
  | _ => (readNat? cs).map Int.ofNat

def hexValue? (c : Char) : Option Nat :=
  if c.isDigit then some (c.toNat - 48)
  else if 'a' ≤ c ∧ c ≤ 'f' then some (c.toNat - 87)
  else if 'A' ≤ c ∧ c ≤ 'F' then some (c.toNat - 55)
  else none

/-- Reads exactly `width` hexadecimal digits behind the value `acc` of those read so far. -/
def readHex : Nat → Nat → List Char → Option (Nat × List Char)
  | 0, acc, cs => some (acc, cs)
  | _ + 1, _, [] => none
  | width + 1, acc, c :: cs => do readHex width (16 * acc + (← hexValue? c)) cs

/-! ## Percent escapes -/

/-- The code that two hexadecimal digits stand for. -/
def escapeCode? (c d : Char) : Option Nat := do some (16 * (← hexValue? c) + (← hexValue? d))

/-- Replaces the escapes of the codes that `decodes` picks; any other escape, also a broken one,
stays as it is. A code outside ASCII, part of a longer encoding, becomes the replacement
character. -/
def unescaped (decodes : Nat → Bool) : List Char → List Char
  | '%' :: c :: d :: r =>
    match (escapeCode? c d).filter decodes with
    | some code => (if code < 128 then Char.ofNat code else '\uFFFD') :: unescaped decodes r
    | none => '%' :: unescaped decodes (c :: d :: r)
  | c :: r => c :: unescaped decodes r
  | [] => []

/-! ## Case -/

/-- Lower case. The sign for kelvin is the one character outside ASCII whose lower case is a
single ASCII letter, so names spelled in ASCII compare as with full case mapping. -/
def lowerChar (c : Char) : Char := if c = '\u212A' then 'k' else c.toLower

def lowered (s : String) : String := s.map lowerChar

end Courtship
