import Courtship.Json.Printer
import Courtship.Sql.Script

/-! The JSON forms of statements and of scripted replies. -/

namespace Courtship.Sql

/-! ## Statements -/

def Param.toJson : Param → Json
  | .uuid u => Courtship.toJson u
  | .text s => .string s
  | .label name => .string name
  | .bool b => .bool b
  | .time micros => optionJson (Instant.ofMicros2000? micros)
  | .json j => j
  | .null => .null

/-- The text and the parameters. -/
def Statement.toJson (q : Statement) : Json :=
  .array [.string q.text, .array (q.params.map Param.toJson)]

/-! ## Replies -/

/-- A time is a pair of seconds and nanoseconds, or counted in microseconds since 2000. -/
def timeCell? : Json → Option Cell
  | .array [.int s, .int n] => some (.time ((s - Instant.epoch2000.seconds) * 1000000 + n / 1000))
  | .object [("micros", .int n)] => some (.time n)
  | _ => none

/-- A value of JSON stands for itself, or is given as its text. -/
def jsonCell : Json → Cell
  | .object [("raw", .string text)] => .json text
  | j => .json j.text

/-- A value of a column's type, which is an enumeration if it is no other. -/
def Cell.ofJson? (type : String) : Json → Option Cell
  | .null => some .null
  | j =>
    if type = "timestamptz" then timeCell? j
    else if type = "jsonb" then some (jsonCell j)
    else
      match type, j with
      | "uuid", .string s => (Uuid.ofText? s).map .uuid
      | "text", .string s => some (.text s)
      | "varchar", .string s => some (.text s)
      | "bool", .bool b => some (.bool b)
      | "bool", .int n => some (.bool (n ≠ 0))
      | "int4", .int n => some (.int4 n)
      | "int8", .int n => some (.int8 n)
      | type, .string s => some (.label type s)
      | _, _ => none

/-- The name and the type of a column, with a colon between them. -/
def columnOf? : Json → Option (String × String)
  | .string s =>
    let name := s.toList.takeWhile (· ≠ ':')
    some (String.ofList name, String.ofList (s.toList.drop (name.length + 1)))
  | _ => none

def rowOf? (columns : List (String × String)) (j : Json) : Option Row := do
  let cells ← j.items?
  if cells.length ≠ columns.length then none
  else (columns.zip cells).mapM fun (c, cell) => (Cell.ofJson? c.2 cell).map (c.1, ·)

def Reply.ofJson? (j : Json) : Option Reply :=
  match j.get? "cols", j.get? "affected", j.get? "error" with
  | some columns, _, _ => do
    let columns ← (← columns.items?).mapM columnOf?
    some (.rows (← (← (← j.get? "rows").items?).mapM (rowOf? columns)))
  | none, some (.int n), _ => some (.affected n.toNat)
  | none, none, some (.string code) =>
    some (.error (some code) ((j.getString? "message").getD "scripted"))
  | _, _, _ => none

def Scripted.ofJson? (j : Json) : Option Scripted := do
  some ⟨← Reply.ofJson? j, j.getString? "on"⟩

end Courtship.Sql
