import Courtship.Json.Basic
import Courtship.Text.Basic

/-! Reading JSON text. What stands behind the value may only be white space. -/

namespace Courtship.Json

def isSpace (c : Char) : Bool := c = ' ' || c = '\t' || c = '\n' || c = '\r'

def skipSpace (cs : List Char) : List Char := cs.dropWhile isSpace

/-! ## Strings -/

/-- A character outside the basic plane is escaped as two surrogates, high and then low. -/
def ofSurrogates? (high low : Nat) : Option Char :=
  if 0xD800 ≤ high ∧ high < 0xDC00 ∧ 0xDC00 ≤ low ∧ low < 0xE000 then
    some (Char.ofNat (0x10000 + (high - 0xD800) * 0x400 + (low - 0xDC00)))
  else none

/-- The character that four hexadecimal digits stand for, with four more behind a high surrogate. -/
def readUnicode (cs : List Char) : Option (Char × List Char) := do
  let (unit, cs) ← readHex 4 0 cs
  if 0xD800 ≤ unit ∧ unit < 0xE000 then
    match cs with
    | '\\' :: 'u' :: cs =>
      let (low, cs) ← readHex 4 0 cs
      (ofSurrogates? unit low).map (·, cs)
    | _ => none
  else some (Char.ofNat unit, cs)

/-- The character that is written by what follows a backslash. -/
def readEscape (cs : List Char) : Option (Char × List Char) :=
  match cs with
  | [] => none
  | c :: r =>
    if c = '"' then some ('"', r)
    else if c = '\\' then some ('\\', r)
    else if c = '/' then some ('/', r)
    else if c = 'b' then some ('\x08', r)
    else if c = 'f' then some ('\x0c', r)
    else if c = 'n' then some ('\n', r)
    else if c = 'r' then some ('\r', r)
    else if c = 't' then some ('\t', r)
    else if c = 'u' then readUnicode r
    else none

/-- The characters up to the closing quote, and what follows it. -/
def readString : Nat → List Char → Option (List Char × List Char)
  | 0, _ => none
  | _ + 1, [] => none
  | fuel + 1, c :: cs =>
    if c = '"' then some ([], cs)
    else if c = '\\' then do
      let (e, cs) ← readEscape cs
      let (s, cs) ← readString fuel cs
      some (e :: s, cs)
    else if c.toNat < 32 then none
    else do
      let (s, cs) ← readString fuel cs
      some (c :: s, cs)

/-! ## Numbers -/

/-- A point and digits, or nothing. -/
def readPoint (cs : List Char) : Option (List Char × List Char) :=
  match cs with
  | '.' :: r =>
    let (digits, r) := spanDigits r
    if digits.isEmpty then none else some ('.' :: digits, r)
  | _ => some ([], cs)

/-- An exponent, or nothing. -/
def readExponent (cs : List Char) : Option (List Char × List Char) :=
  let power (head r : List Char) : Option (List Char × List Char) :=
    let (digits, r) := spanDigits r
    if digits.isEmpty then none else some (head ++ digits, r)
  match cs with
  | e :: r =>
    if e = 'e' || e = 'E' then
      match r with
      | '+' :: r => power [e, '+'] r
      | '-' :: r => power [e, '-'] r
      | _ => power [e] r
    else some ([], cs)
  | [] => some ([], [])

def readUnsigned (negative : Bool) (cs : List Char) : Option (Json × List Char) :=
  let (digits, r) := spanDigits cs
  if digits.isEmpty || (digits.head? = some '0' && 1 < digits.length) then none
  else do
    let (point, r) ← readPoint r
    let (exponent, r) ← readExponent r
    let n : Int := ofDigits digits
    if point.isEmpty && exponent.isEmpty && !(negative && n = 0) then
      some (.int (if negative then -n else n), r)
    else
      let sign := if negative then ['-'] else []
      some (.real (String.ofList (sign ++ digits ++ point ++ exponent)), r)

def readNumber (cs : List Char) : Option (Json × List Char) :=
  match cs with
  | '-' :: r => readUnsigned true r
  | _ => readUnsigned false cs

/-- `word`, standing for `j`. -/
def readWord (word : List Char) (j : Json) (cs : List Char) : Option (Json × List Char) :=
  if word.isPrefixOf cs then some (j, cs.drop word.length) else none

/-! ## Values -/

mutual

def readValue : Nat → List Char → Option (Json × List Char)
  | 0, _ => none
  | _ + 1, [] => none
  | fuel + 1, c :: cs =>
    if c = '{' then
      match skipSpace cs with
      | '}' :: r => some (.object [], r)
      | r => (readMembers fuel r).map fun (ms, r) => (.object ms, r)
    else if c = '[' then
      match skipSpace cs with
      | ']' :: r => some (.array [], r)
      | r => (readItems fuel r).map fun (js, r) => (.array js, r)
    else if c = '"' then (readString fuel cs).map fun (s, r) => (.string (String.ofList s), r)
    else if c = 'n' then readWord "null".toList .null (c :: cs)
    else if c = 't' then readWord "true".toList (.bool true) (c :: cs)
    else if c = 'f' then readWord "false".toList (.bool false) (c :: cs)
    else readNumber (c :: cs)

def readItems : Nat → List Char → Option (List Json × List Char)
  | 0, _ => none
  | fuel + 1, cs => do
    let (j, cs) ← readValue fuel (skipSpace cs)
    match skipSpace cs with
    | ',' :: cs =>
      let (js, cs) ← readItems fuel cs
      some (j :: js, cs)
    | ']' :: cs => some ([j], cs)
    | _ => none

def readMembers : Nat → List Char → Option (List (String × Json) × List Char)
  | 0, _ => none
  | fuel + 1, cs => do
    match skipSpace cs with
    | '"' :: cs =>
      let (name, cs) ← readString fuel cs
      match skipSpace cs with
      | ':' :: cs =>
        let (j, cs) ← readValue fuel (skipSpace cs)
        match skipSpace cs with
        | ',' :: cs =>
          let (ms, cs) ← readMembers fuel cs
          some ((String.ofList name, j) :: ms, cs)
        | '}' :: cs => some ([(String.ofList name, j)], cs)
        | _ => none
      | _ => none
    | _ => none

end

/-- Every step of reading uses up a character or leads to one that does. -/
def ofChars? (cs : List Char) : Option Json := do
  let (j, rest) ← readValue (2 * cs.length + 2) (skipSpace cs)
  if (skipSpace rest).isEmpty then some j else none

def ofText? (s : String) : Option Json := ofChars? s.toList

end Courtship.Json
