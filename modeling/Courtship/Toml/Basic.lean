import Courtship.Number.Binary64

/-! TOML values. A date or time is kept as its text. -/

namespace Courtship

inductive Toml where
  /-- No value: a hole in an array that was filled at some place only. -/
  | hole
  | bool (b : Bool)
  | int (n : Int)
  | float (x : Binary64)
  | string (s : String)
  | array (items : List Toml)
  | table (entries : List (String × Toml))

namespace Toml

/-! ## Equality -/

mutual

/-- Whether two values are the same. -/
def same : Toml → Toml → Bool
  | hole, hole => true
  | bool a, bool b => a = b
  | int m, int n => m = n
  | float x, float y => x = y
  | string s, string t => s = t
  | array xs, array ys => sameItems xs ys
  | table xs, table ys => sameEntries xs ys
  | _, _ => false

def sameItems : List Toml → List Toml → Bool
  | [], [] => true
  | x :: xs, y :: ys => same x y && sameItems xs ys
  | _, _ => false

def sameEntries : List (String × Toml) → List (String × Toml) → Bool
  | [], [] => true
  | (key, x) :: xs, (other, y) :: ys => key = other && same x y && sameEntries xs ys
  | _, _ => false

end

mutual

theorem same_iff (v w : Toml) : same v w ↔ v = w := by
  cases v <;> cases w <;> simp [same, sameItems_iff, sameEntries_iff]

theorem sameItems_iff (xs ys : List Toml) : sameItems xs ys ↔ xs = ys := by
  cases xs with
  | nil => cases ys <;> simp [sameItems]
  | cons x xs =>
    cases ys with
    | nil => simp [sameItems]
    | cons y ys => simp [sameItems, same_iff x, sameItems_iff xs]

theorem sameEntries_iff (xs ys : List (String × Toml)) : sameEntries xs ys ↔ xs = ys := by
  cases xs with
  | nil => cases ys <;> simp [sameEntries]
  | cons x xs =>
    obtain ⟨key, x⟩ := x
    cases ys with
    | nil => simp [sameEntries]
    | cons y ys => simp [sameEntries, same_iff x, sameEntries_iff xs, and_assoc, Prod.ext_iff]

end

-- No instance is derived where the type is nested in lists of itself.
instance : DecidableEq Toml := fun v w => decidable_of_iff _ (same_iff v w)

/-! ## Entries -/

def lookup (key : String) (entries : List (String × Toml)) : Option Toml :=
  (entries.find? fun e => e.1 = key).map Prod.snd

/-- The entries with this value under `key`, in the place of a value already there. -/
def assign {α : Type} (key : String) (value : α) : List (String × α) → List (String × α)
  | [] => [(key, value)]
  | e :: es => if e.1 = key then (key, value) :: es else e :: assign key value es

theorem lookup_assign_self (key : String) (value : Toml) (es : List (String × Toml)) :
    lookup key (assign key value es) = some value := by
  induction es with
  | nil => simp [assign, lookup]
  | cons e es ih =>
    by_cases h : e.1 = key
    · simp [assign, lookup, h]
    · simpa [assign, lookup, h] using ih

theorem lookup_assign_of_ne {key other : String} (h : other ≠ key) (value : Toml)
    (es : List (String × Toml)) : lookup other (assign key value es) = lookup other es := by
  induction es with
  | nil => simp [assign, lookup, h.symm]
  | cons e es ih =>
    by_cases he : e.1 = key
    · simp [assign, lookup, he, h.symm]
    · by_cases ho : e.1 = other
      · simp [assign, lookup, ho, h]
      · simpa [assign, lookup, he, ho] using ih

end Toml

end Courtship
