import Courtship.Text.Basic
import Courtship.Toml.Basic

/-! Places in nested tables and arrays: their paths as text, and setting the value at a place.
Keys are the same in any case. -/

namespace Courtship.Toml

/-! ## Paths -/

inductive Step where
  | key (name : String)
  /-- An index below zero counts from the end. -/
  | item (index : Int)
  deriving DecidableEq

def isPathChar (c : Char) : Bool := c.isAlphanum || c = ' ' || c = '_' || c = '-'

/-- A key at the start of `cs`, and what follows it. -/
def readPathKey (cs : List Char) : Option (Step × List Char) :=
  let name := cs.takeWhile isPathChar
  if name.isEmpty then none
  else some (.key (String.ofList name), cs.drop name.length)

/-- An index and its closing bracket. -/
def readIndex (cs : List Char) : Option (Step × List Char) :=
  let isGap (c : Char) : Bool := c = ' ' || c = '\t'
  let (negative, r) := match cs.dropWhile isGap with
    | '-' :: r => (true, r)
    | r => (false, r)
  let (digits, r) := spanDigits r
  match r.dropWhile isGap with
  | ']' :: r =>
    let n : Int := ofDigits digits
    if digits.isEmpty then none
    else some (.item (if negative then -n else n), r)
  | _ => none

/-- Steps behind the first one, at most `fuel` of them: a point and a key, or an index in
brackets. -/
def readSteps : Nat → List Char → Option (List Step)
  | _, [] => some []
  | 0, _ => none
  | fuel + 1, '.' :: cs => do
    let (s, r) ← readPathKey cs
    (readSteps fuel r).map (s :: ·)
  | fuel + 1, '[' :: cs => do
    let (s, r) ← readIndex cs
    (readSteps fuel r).map (s :: ·)
  | _ + 1, _ => none

def path? (text : String) : Option (List Step) := do
  let (s, r) ← readPathKey text.toList
  (readSteps r.length r).map (s :: ·)

/-- A text that is no path is one key. -/
def path (text : String) : List Step := (path? text).getD [.key text]

/-! ## Setting values -/

/-- What stands in a table; nothing stands in any other value. -/
def entries : Toml → List (String × Toml)
  | .table es => es
  | _ => []

def items : Toml → List Toml
  | .array vs => vs
  | _ => []

mutual

/-- Sets a key of a table. A table joins the one that is there; any other value takes its place. -/
def setKey (key : String) : (value root : Toml) → Toml
  | .table incoming, root =>
    let old := (lookup (lowered key) root.entries).getD (.table [])
    .table (assign (lowered key) (setKeys incoming old) root.entries)
  | value, root => .table (assign (lowered key) value root.entries)

def setKeys : List (String × Toml) → Toml → Toml
  | [], root => root
  | (key, value) :: es, root => setKeys es (setKey key value root)

end

/-- Changes an item. Holes fill up the array if it is too short. -/
def modifyItem (f : Toml → Toml) (index : Int) (vs : List Toml) : List Toml :=
  let i := if 0 ≤ index then index.toNat else vs.length - index.natAbs
  let vs := vs ++ List.replicate (i + 1 - vs.length) .hole
  vs.modify i f

/-- Sets the value at a place. Whatever is in the way turns into a table or an array. -/
def setAt (value : Toml) : List Step → Toml → Toml
  | [], _ => value
  | [.key k], root => setKey k value root
  | .key k :: rest, root =>
    let old := (lookup (lowered k) root.entries).getD .hole
    .table (assign (lowered k) (setAt value rest old) root.entries)
  | .item i :: rest, root => .array (modifyItem (setAt value rest) i root.items)

end Courtship.Toml
