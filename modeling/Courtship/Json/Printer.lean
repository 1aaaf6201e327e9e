import Courtship.Json.Basic
import Courtship.Text.Basic

/-! The text of a JSON value: no white space, and nothing escaped that need not be. -/

namespace Courtship.Json

def escaped (c : Char) : List Char :=
  if c = '"' then ['\\', '"']
  else if c = '\\' then ['\\', '\\']
  else if c = '\n' then ['\\', 'n']
  else if c = '\r' then ['\\', 'r']
  else if c = '\t' then ['\\', 't']
  else if c = '\x08' then ['\\', 'b']
  else if c = '\x0c' then ['\\', 'f']
  else if c.toNat < 32 then '\\' :: 'u' :: hexDigits 4 c.toNat
  else [c]

def quoted (cs : List Char) : List Char := '"' :: cs.flatMap escaped ++ ['"']

def intChars (n : Int) : List Char :=
  if n < 0 then '-' :: Nat.toDigits 10 n.natAbs else Nat.toDigits 10 n.natAbs

mutual

def chars : Json → List Char
  | .null => "null".toList
  | .bool b => if b then "true".toList else "false".toList
  | .int n => intChars n
  | .real text => text.toList
  | .string s => quoted s.toList
  | .array [] => ['[', ']']
  | .array (j :: js) => '[' :: (chars j ++ moreItems js)
  | .object [] => ['{', '}']
  | .object ((name, j) :: ms) => '{' :: (quoted name.toList ++ ':' :: (chars j ++ moreMembers ms))

/-- The items behind the first one, and the closing bracket. -/
def moreItems : List Json → List Char
  | [] => [']']
  | j :: js => ',' :: (chars j ++ moreItems js)

def moreMembers : List (String × Json) → List Char
  | [] => ['}']
  | (name, j) :: ms => ',' :: (quoted name.toList ++ ':' :: (chars j ++ moreMembers ms))

end

def text (j : Json) : String := String.ofList j.chars

end Courtship.Json
