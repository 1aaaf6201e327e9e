import Courtship.Number.Binary64
import Courtship.Toml.Path

/-! Layers of settings: a file, the variables of the environment, or a single value, each laid over
the layers before it. -/

namespace Courtship

/-- Values for places, set in this order. -/
structure Layer where
  assignments : List (List Toml.Step × Toml)
  deriving DecidableEq

namespace Layer

def empty : Layer := ⟨[]⟩

/-- The names of a file's top level may be paths. -/
def ofTable (entries : List (String × Toml)) : Layer :=
  ⟨entries.map fun (name, value) => (Toml.path name, value)⟩

def laidOver (layer : Layer) (root : Toml) : Toml :=
  layer.assignments.foldl (fun root (path, value) => Toml.setAt value path root) root

/-- What all layers together say; later ones lie over earlier ones. -/
def merged (layers : List Layer) : Toml := layers.foldl (fun root l => l.laidOver root) (.table [])

/-! ## Variables -/

/-- The value that a variable's text spells: a truth value, an integer of 64 bits, a number, or
else the text. -/
def variableValue (text : String) : Toml :=
  let word := lowered text
  let int := (readInt? text.toList).filter fun n =>
    Int64.minValue.toInt ≤ n ∧ n ≤ Int64.maxValue.toInt
  if word = "true" then .bool true
  else if word = "false" then .bool false
  else
    match int, Binary64.ofText? text with
    | some n, _ => .int n
    | none, some x => .float x
    | none, none => .string text

/-- How the name of a variable for a setting starts, in any case. -/
def variableStart : List Char := "lume__".toList

/-- A double underscore leads into a section. -/
def dotted : List Char → List Char
  | '_' :: '_' :: r => '.' :: dotted r
  | c :: r => c :: dotted r
  | [] => []

/-- The place that a variable sets, if it sets any. -/
def variablePath? (name : String) : Option (List Toml.Step) :=
  let cs := (lowered name).toList
  if variableStart.isPrefixOf cs then
    some (Toml.path (String.ofList (dotted (cs.drop variableStart.length))))
  else none

def ofVariables (bindings : List (String × String)) : Layer :=
  ⟨bindings.filterMap fun (name, text) =>
    (variablePath? name).map fun path => (path, variableValue text)⟩

/-- The database's URL, which is a text whatever it looks like. -/
def ofDatabaseUrl (url : String) : Layer :=
  ⟨[([.key "database", .key "url"], .string url)]⟩

end Layer

end Courtship
