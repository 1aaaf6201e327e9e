import Courtship.Text.Basic

/-! Universally unique identifiers: 128 bits, their four text forms, and the supply of new ones. -/

namespace Courtship

structure Uuid where
  bits : BitVec 128
  deriving DecidableEq

namespace Uuid

def toNat (u : Uuid) : Nat := u.bits.toNat

def ofNat (n : Nat) : Uuid := ⟨BitVec.ofNat 128 n⟩

/-- Identifiers are ordered as numbers. -/
instance : Ord Uuid where
  compare a b := compareOn Uuid.bits a b

instance : Std.TransOrd Uuid := inferInstanceAs (Std.TransCmp (compareOn Uuid.bits))

instance : Std.LawfulEqOrd Uuid where
  eq_of_compare {a b} h := by
    have : a.bits = b.bits := Std.compare_eq_iff_eq.1 h
    cases a; cases b; simp_all

/-! ## New identifiers -/

/-- The `n`-th new identifier: version 4, variant 1, with `n` in the 122 free bits. -/
def fresh (n : Nat) : Uuid :=
  ofNat ((n >>> 74 % 1 <<< 48) <<< 80 + 4 <<< 76 + (n >>> 62 % 1 <<< 12) <<< 64 + 2 <<< 62 +
    n % 1 <<< 62)

def version (u : Uuid) : Nat := u.toNat >>> 76 % 16

/-! ## Text -/

/-- Lower case digits in groups of 8, 4, 4, 4 and 12. -/
def chars (u : Uuid) : List Char :=
  let n := u.toNat
  hexDigits 8 (n >>> 96) ++ '-' :: hexDigits 4 (n >>> 80) ++ '-' :: hexDigits 4 (n >>> 64) ++
    '-' :: hexDigits 4 (n >>> 48) ++ '-' :: hexDigits 12 n

def text (u : Uuid) : String := String.ofList u.chars

/-- Reads the groups of the given widths, with a hyphen between two of them. -/
def readGroups : List Nat → Nat → List Char → Option (Nat × List Char)
  | [], acc, cs => some (acc, cs)
  | [width], acc, cs => readHex width acc cs
  | width :: widths, acc, cs => do
    match ← readHex width acc cs with
    | (acc, '-' :: cs) => readGroups widths acc cs
    | _ => none

def readHyphenated (cs : List Char) : Option (Nat × List Char) :=
  readGroups [8, 4, 4, 4, 12] 0 cs

/-- The rest of `cs` behind `urn:uuid:`, whose letters may stand in any case. -/
def afterUrn? (cs : List Char) : Option (List Char) :=
  if (cs.take 9).map Char.toLower = "urn:uuid:".toList then some (cs.drop 9) else none

/-- Hyphenated groups, alone, in braces or behind `urn:uuid:`; or 32 digits with no hyphen. -/
def ofChars? (cs : List Char) : Option Uuid :=
  let all : Option (Nat × List Char) → Option Uuid
    | some (n, []) => some (ofNat n)
    | _ => none
  match cs with
  | '{' :: r =>
    match readHyphenated r with
    | some (n, ['}']) => some (ofNat n)
    | _ => none
  | _ =>
    match afterUrn? cs with
    | some r => all (readHyphenated r)
    | none => (all (readHyphenated cs)).or (all (readHex 32 0 cs))

def ofText? (s : String) : Option Uuid := ofChars? s.toList

end Uuid

end Courtship
