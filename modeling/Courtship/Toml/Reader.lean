import Courtship.Toml.Number
import Courtship.Toml.Text

/-! Reading TOML text: values, the lines of a document, and the tables these lines build. -/

namespace Courtship.Toml

/-! ## Tables under construction -/

/-- A finished value, a table that later lines may add to, or an array of such tables. -/
inductive Node where
  | value (v : Toml)
  /-- An `implicit` table was only named on the way to another, a `dotted` one in a dotted key. -/
  | table (implicit dotted : Bool) (entries : List (String × Node))
  | tables (items : List (List (String × Node)))

abbrev Entries := List (String × Node)

def Entries.find? (es : Entries) (key : String) : Option Node :=
  (List.find? (fun e => e.1 = key) es).map Prod.snd

/-- Changes the entries that `path` leads to by `f`, which is also told whether they belong to a
dotted table. Tables on the way are created; of an array, the last table counts. A dotted key does
not lead into a table that has a header of its own. -/
def descend (f : Bool → Entries → Option Entries) (byDots : Bool) :
    List String → Bool → Entries → Option Entries
  | [], isDotted, es => f isDotted es
  | key :: path, _, es =>
    match es.find? key with
    | none =>
      (descend f byDots path byDots []).map fun inner =>
        assign key (.table true byDots inner) es
    | some (.value _) => none
    | some (.table implicit isDotted inner) =>
      if byDots && !implicit then none
      else
        (descend f byDots path isDotted inner).map fun inner =>
          assign key (.table implicit isDotted inner) es
    | some (.tables items) =>
      match items.reverse with
      | [] => none
      | last :: earlier =>
        (descend f byDots path false last).map fun last =>
          assign key (.tables (earlier.reverse ++ [last])) es

/-- A table is filled by plain keys or by dotted ones, never by both, and no key is set twice. -/
def insertHere (path : List String) (key : String) (v : Toml) : Bool → Entries → Option Entries :=
  fun _ es =>
    descend (fun isDotted es =>
      if isDotted = path.isEmpty ∨ (es.find? key).isSome then none
      else some (assign key (.value v) es)) true path false es

/-- The header of a table: one that was only implied so far may get it. -/
def openTable (key : String) : Bool → Entries → Option Entries :=
  fun _ es =>
    match es.find? key with
    | none => some (assign key (.table false false []) es)
    | some (.table true false inner) => some (assign key (.table false false inner) es)
    | some _ => none

/-- The header of one more table of an array. -/
def openItem (key : String) : Bool → Entries → Option Entries :=
  fun _ es =>
    match es.find? key with
    | none => some (assign key (.tables [[]]) es)
    | some (.tables items) => some (assign key (.tables (items ++ [[]])) es)
    | some _ => none

mutual

def Node.toToml : Node → Toml
  | .value v => v
  | .table _ _ entries => .table (tomlEntries entries)
  | .tables items => .array (tomlItems items)

def tomlEntries : List (String × Node) → List (String × Toml)
  | [] => []
  | (key, n) :: es => (key, n.toToml) :: tomlEntries es

def tomlItems : List (List (String × Node)) → List Toml
  | [] => []
  | es :: items => .table (tomlEntries es) :: tomlItems items

end

/-- A path without its last key, and that key. -/
def splitLast? (path : List String) : Option (List String × String) :=
  match path.reverse with
  | [] => none
  | key :: rest => some (rest.reverse, key)

/-- The table within braces. -/
def inlineTable? (pairs : List (List String × Toml)) : Option Toml := do
  let es ← pairs.foldlM (fun es (path, v) => do
    let (path, key) ← splitLast? path
    insertHere path key v false es) ([] : Entries)
  some (.table (tomlEntries es))

/-! ## Values -/

/-- Brackets and braces may stand in each other less often than this. -/
def deepest : Nat := 80

mutual

def readValue : Nat → Nat → List Char → Option (Toml × List Char)
  | 0, _, _ => none
  | _ + 1, _, [] => none
  | fuel + 1, depth, c :: cs =>
    if c = '"' || c = '\'' then
      (readString (c :: cs)).map fun (s, r) => (.string (String.ofList s), r)
    else if c = '[' then
      if depth + 1 < deepest then
        (readItems fuel (depth + 1) (skipAll cs)).map fun (vs, r) => (.array vs, r)
      else none
    else if c = '{' then
      if depth + 1 < deepest then
        match skipWhite cs with
        | '}' :: r => some (.table [], r)
        | r => do
          let (pairs, r) ← readPairs fuel (depth + 1) r
          some (← inlineTable? pairs, r)
      else none
    else if c = 't' then (readWord? "true" (c :: cs)).map fun r => (.bool true, r)
    else if c = 'f' then (readWord? "false" (c :: cs)).map fun r => (.bool false, r)
    else if c = 'i' || c = 'n' then readSpecial false (c :: cs)
    else readNumber (c :: cs)

/-- The items of an array, and its closing bracket; a comma may stand before that. -/
def readItems : Nat → Nat → List Char → Option (List Toml × List Char)
  | 0, _, _ => none
  | fuel + 1, depth, cs =>
    match cs with
    | ']' :: r => some ([], r)
    | _ => do
      let (v, r) ← readValue fuel depth cs
      match skipAll r with
      | ',' :: r => (readItems fuel depth (skipAll r)).map fun (vs, r) => (v :: vs, r)
      | ']' :: r => some ([v], r)
      | _ => none

/-- The pairs of an inline table, and its closing brace. -/
def readPairs : Nat → Nat → List Char → Option (List (List String × Toml) × List Char)
  | 0, _, _ => none
  | fuel + 1, depth, cs => do
    let (path, r) ← readKey (cs.length + 1) cs
    match r with
    | '=' :: r =>
      let (v, r) ← readValue fuel depth (skipWhite r)
      match skipWhite r with
      | ',' :: r => (readPairs fuel depth r).map fun (ps, r) => ((path, v) :: ps, r)
      | '}' :: r => some ([(path, v)], r)
      | _ => none
    | _ => none

end

/-! ## Documents -/

/-- What is read so far, and the header that the next pairs belong to. -/
structure Draft where
  entries : Entries
  header : List String

/-- `header` counts within the table at `path`. -/
def Draft.open? (d : Draft) (start : String → Bool → Entries → Option Entries)
    (path : List String) : Option Draft := do
  let (above, key) ← splitLast? path
  some ⟨← descend (start key) false above false d.entries, path⟩

def Draft.insert? (d : Draft) (path : List String) (v : Toml) : Option Draft := do
  let (path, key) ← splitLast? path
  some { d with entries := ← descend (insertHere path key v) false d.header false d.entries }

/-- A header or a pair, with what follows its line. -/
def readLine (d : Draft) (cs : List Char) : Option (Draft × List Char) :=
  match cs with
  | '[' :: '[' :: r => do
    let (path, r) ← readKey (r.length + 1) r
    match r with
    | ']' :: ']' :: r => some (← d.open? openItem path, ← endLine r)
    | _ => none
  | '[' :: r => do
    let (path, r) ← readKey (r.length + 1) r
    match r with
    | ']' :: r => some (← d.open? openTable path, ← endLine r)
    | _ => none
  | _ => do
    let (path, r) ← readKey (cs.length + 1) cs
    match r with
    | '=' :: r =>
      let (v, r) ← readValue (2 * r.length + 2) 0 (skipWhite r)
      some (← d.insert? path v, ← endLine r)
    | _ => none

/-- Lines up to the end of the text, at most `lines` of them. -/
def readDraft : Nat → Draft → List Char → Option Draft
  | 0, _, _ => none
  | lines + 1, d, cs =>
    match skipAll cs with
    | [] => some d
    | r => do
      let (d, r) ← readLine d r
      readDraft lines d r

/-- The table that a document stands for. -/
def ofText? (text : String) : Option (List (String × Toml)) :=
  let cs := match text.toList with
    | '\uFEFF' :: r => r
    | cs => cs
  (readDraft (cs.length + 1) ⟨[], []⟩ cs).map fun d => tomlEntries d.entries

end Courtship.Toml
