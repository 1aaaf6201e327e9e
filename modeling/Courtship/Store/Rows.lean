import Std.Data.ExtTreeMap

/-! A table of rows under keys. Setting a key back to what it held gives the table back. -/

namespace Courtship

abbrev Rows (κ ν : Type) [Ord κ] := Std.ExtTreeMap κ ν compare

namespace Rows

variable {κ ν : Type} [Ord κ] [Std.TransOrd κ]

/-- The table with this row under `key`, or with none there. -/
def set (t : Rows κ ν) (key : κ) : Option ν → Rows κ ν
  | some row => t.insert key row
  | none => t.erase key

theorem get?_set [Std.LawfulEqOrd κ] [DecidableEq κ] (t : Rows κ ν) (key other : κ)
    (row : Option ν) : (t.set key row)[other]? = if key = other then row else t[other]? := by
  cases row <;> simp [set, Std.ExtTreeMap.getElem?_insert, Std.ExtTreeMap.getElem?_erase]

theorem set_set_get? [Std.LawfulEqOrd κ] (t : Rows κ ν) (key : κ) (row : Option ν) :
    (t.set key row).set key t[key]? = t := by
  classical
  apply Std.ExtTreeMap.ext_getElem?
  intro other
  simp only [get?_set]
  split
  · simp [*]
  · rfl

end Rows

end Courtship
