import Courtship.Json.Basic

/-! The JSON form of a type, and records of named fields. A record is written as an object; it is
read from an object, whose other members do not matter, or from an array of its fields in order. -/

namespace Courtship

class JsonForm (α : Type) where
  toJson : α → Json
  ofJson? : Json → Option α

export JsonForm (toJson ofJson?)

instance : JsonForm Bool where
  toJson := .bool
  ofJson?
    | .bool b => some b
    | _ => none

instance : JsonForm String where
  toJson := .string
  ofJson?
    | .string s => some s
    | _ => none

/-- An integer of the given size in bits. -/
def Json.toWord? (bits : Nat) : Json → Option Nat
  | .int n => if 0 ≤ n ∧ n < 1 <<< bits then some n.toNat else none
  | _ => none

instance : JsonForm UInt16 where
  toJson n := .ofNat n.toNat
  ofJson? j := (j.toWord? 16).map UInt16.ofNat

instance : JsonForm UInt32 where
  toJson n := .ofNat n.toNat
  ofJson? j := (j.toWord? 32).map UInt32.ofNat

instance : JsonForm UInt64 where
  toJson n := .ofNat n.toNat
  ofJson? j := (j.toWord? 64).map UInt64.ofNat

instance {α : Type} [JsonForm α] : JsonForm (List α) where
  toJson xs := .array (xs.map toJson)
  ofJson?
    | .array items => items.mapM ofJson?
    | _ => none

/-- A value that may be absent is written as `null` when it is. -/
def optionJson {α : Type} [JsonForm α] : Option α → Json
  | none => .null
  | some a => toJson a

/-- The one of `all` that is written as this string. An object with the string as its only name,
and nothing under it, is read too. -/
def namedOfJson? {α : Type} (all : List α) (name : α → String) : Json → Option α
  | .string s => all.find? fun a => name a = s
  | .object [(s, .null)] => all.find? fun a => name a = s
  | _ => none

/-! ## Records -/

namespace Json

/-- What the JSON of a record has for one field: a value, no member of that name, or no item left
in the array. -/
inductive Slot where
  | given (j : Json)
  | missing
  | beyond

/-- A field may have several names, and at most one member may bear one of them. -/
def memberSlot (names : List String) (members : List (String × Json)) : Option Slot :=
  match members.filter fun m => names.contains m.1 with
  | [] => some .missing
  | [m] => some (.given m.2)
  | _ => none

def slots? (fields : List (List String)) : Json → Option (List Slot)
  | .object members => fields.mapM fun names => memberSlot names members
  | .array items =>
    if fields.length < items.length then none
    else some (items.map Slot.given ++ List.replicate (fields.length - items.length) .beyond)
  | _ => none

namespace Slot

variable {α : Type} [JsonForm α]

def required : Slot → Option α
  | given j => ofJson? j
  | _ => none

def optional : Slot → Option (Option α)
  | given .null => some none
  | given j => (ofJson? j).map some
  | missing => some none
  | beyond => none

/-- A field with a default. -/
def orElse (default : α) : Slot → Option α
  | given j => ofJson? j
  | _ => some default

end Slot

end Json

end Courtship
