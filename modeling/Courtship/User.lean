import Courtship.Uuid

/-! Users, ordered pairs of them, and the identifier that an unordered pair has in either order. -/

namespace Courtship

structure UserId where
  uuid : Uuid
  deriving DecidableEq

namespace UserId

def ofNat (n : Nat) : UserId := ⟨.ofNat n⟩

def toNat (u : UserId) : Nat := u.uuid.toNat

def chars (u : UserId) : List Char := u.uuid.chars

def text (u : UserId) : String := u.uuid.text

instance : Ord UserId where
  compare a b := compareOn UserId.uuid a b

instance : Std.TransOrd UserId := inferInstanceAs (Std.TransCmp (compareOn UserId.uuid))

instance : Std.LawfulEqOrd UserId where
  eq_of_compare {a b} h := by
    have : a.uuid = b.uuid := Std.compare_eq_iff_eq.1 h
    cases a; cases b; simp_all

end UserId

/-! ## Ordered pairs -/

/-- One user in relation to another: who acts, and toward whom. -/
structure Arrow where
  actor : UserId
  target : UserId
  deriving DecidableEq

namespace Arrow

instance : Ord Arrow where
  compare a b := compareLex (compareOn Arrow.actor) (compareOn Arrow.target) a b

instance : Std.TransOrd Arrow :=
  inferInstanceAs (Std.TransCmp (compareLex (compareOn Arrow.actor) (compareOn Arrow.target)))

instance : Std.LawfulEqOrd Arrow where
  eq_of_compare {a b} h := by
    have := compareLex_eq_eq.1 h
    have ha : a.actor = b.actor := Std.compare_eq_iff_eq.1 this.1
    have ht : a.target = b.target := Std.compare_eq_iff_eq.1 this.2
    cases a; cases b; simp_all

end Arrow

/-! ## Unordered pairs -/

/-- The two users, the smaller one first. -/
def inOrder (a b : UserId) : UserId × UserId := if a.toNat ≤ b.toNat then (a, b) else (b, a)

/-- Names a match and its conversation. A stored one need not be that of a pair. -/
structure PairId where
  text : String
  deriving DecidableEq

namespace PairId

instance : Ord PairId where
  compare a b := compareOn PairId.text a b

instance : Std.TransOrd PairId := inferInstanceAs (Std.TransCmp (compareOn PairId.text))

instance : Std.LawfulEqOrd PairId where
  eq_of_compare {a b} h := by
    have : a.text = b.text := Std.compare_eq_iff_eq.1 h
    cases a; cases b; simp_all

/-- The texts of both users, the smaller one first. -/
def of (a b : UserId) : PairId :=
  let (low, high) := inOrder a b
  ⟨String.ofList (low.chars ++ '_' :: high.chars)⟩

end PairId

end Courtship
