import Courtship.Text.Basic
import Courtship.Toml.Basic

/-! Reading types from TOML values. Scalars turn into each other where that makes sense, and a
record is a table of its fields, or an array of them in order. -/

namespace Courtship

class TomlForm (α : Type) where
  ofToml? : Toml → Option α

export TomlForm (ofToml?)

namespace Toml

/-! ## Scalars -/

def boolText (b : Bool) : String := if b then "true" else "false"

/-- The text of a scalar. -/
def text? : Toml → Option String
  | .string s => some s
  | .bool b => some (boolText b)
  | .int n => some s!"{n}"
  | .float x => some x.text
  | _ => none

/-- A word for a truth value counts as one or zero. -/
def natOfText? (s : String) : Option Nat :=
  let word := lowered s
  if ["true", "on", "yes"].contains word then some 1
  else if ["false", "off", "no"].contains word then some 0
  else readNat? s.toList

def nat? : Toml → Option Nat
  | .int n => if 0 ≤ n then some n.toNat else none
  | .bool b => some b.toNat
  | .float x => some x.toWord
  | .string s => natOfText? s
  | _ => none

/-- A natural number of the given size in bits. -/
def word? (bits : Nat) (v : Toml) : Option Nat := v.nat?.filter (· < 1 <<< bits)

end Toml

instance : TomlForm String := ⟨Toml.text?⟩

instance : TomlForm UInt16 := ⟨fun v => (v.word? 16).map UInt16.ofNat⟩

instance : TomlForm UInt32 := ⟨fun v => (v.word? 32).map UInt32.ofNat⟩

instance : TomlForm UInt64 := ⟨fun v => (v.word? 64).map UInt64.ofNat⟩

/-! ## Records -/

namespace Toml

/-- What there is for one field: a value, no such key, or no item left in the array. -/
inductive Slot where
  | given (v : Toml)
  | missing
  | beyond

def slots? (fields : List String) : Toml → Option (List Slot)
  | .table es => some (fields.map fun name => ((lookup name es).map Slot.given).getD .missing)
  | .array vs =>
    let given := (vs.take fields.length).map Slot.given
    some (given ++ List.replicate (fields.length - given.length) .beyond)
  | _ => none

namespace Slot

variable {α : Type} [TomlForm α]

def optional : Slot → Option (Option α)
  | given .hole => some none
  | given v => (ofToml? v).map some
  | missing => some none
  | beyond => none

/-- A field with a default. -/
def orElse (default : α) : Slot → Option α
  | given v => ofToml? v
  | _ => some default

end Slot

end Toml

end Courtship
