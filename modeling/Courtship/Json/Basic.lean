/-! JSON values. Members keep their order and may repeat a name; a number is kept as an integer
where it is written as one, and as its text otherwise. -/

namespace Courtship

inductive Json where
  | null
  | bool (b : Bool)
  | int (n : Int)
  | real (text : String)
  | string (s : String)
  | array (items : List Json)
  | object (members : List (String × Json))

namespace Json

def ofNat (n : Nat) : Json := .int n

/-- The value of the last member with this name. -/
def get? (name : String) : Json → Option Json
  | .object members => (members.reverse.find? fun m => m.1 = name).map Prod.snd
  | _ => none

def getString? (name : String) (j : Json) : Option String :=
  match j.get? name with
  | some (.string s) => some s
  | _ => none

def items? : Json → Option (List Json)
  | .array items => some items
  | _ => none

end Json

end Courtship
