import Courtship.Text.Basic

/-! The lexical parts of TOML text: blanks, comments, line ends and strings. -/

namespace Courtship.Toml

/-! ## Blanks and comments -/

def isWhite (c : Char) : Bool := c = ' ' || c = '\t'

def skipWhite (cs : List Char) : List Char := cs.dropWhile isWhite

/-- Control characters, other than tabs, stand nowhere but at the end of a line. -/
def isPlain (c : Char) : Bool := c = '\t' || (32 ≤ c.toNat && c.toNat ≠ 127)

/-- What follows a line end. -/
def afterNewline : List Char → Option (List Char)
  | '\n' :: r => some r
  | '\r' :: '\n' :: r => some r
  | _ => none

def skipComment : List Char → List Char
  | '#' :: r => r.dropWhile isPlain
  | cs => cs

/-- What follows blanks, a comment and the end of the line or of the text. -/
def endLine (cs : List Char) : Option (List Char) :=
  match skipComment (skipWhite cs) with
  | [] => some []
  | cs => afterNewline cs

/-- Skips blanks, comments and line ends, at most `lines` of these. -/
def skipLines : Nat → List Char → List Char
  | 0, cs => cs
  | lines + 1, cs =>
    let cs := skipComment (skipWhite cs)
    match afterNewline cs with
    | some r => skipLines lines r
    | none => cs

def skipAll (cs : List Char) : List Char := skipLines cs.length cs

/-! ## Strings -/

/-- The character with this code, unless it is half of a pair. -/
def scalar? (code : Nat) : Option Char :=
  if code < 0xD800 ∨ (0xE000 ≤ code ∧ code < 0x110000) then some (Char.ofNat code) else none

def readCode (width : Nat) (cs : List Char) : Option (Char × List Char) := do
  let (code, cs) ← readHex width 0 cs
  some (← scalar? code, cs)

/-- The character written by what follows a backslash. -/
def readEscape : List Char → Option (Char × List Char)
  | [] => none
  | c :: r =>
    if c = 'b' then some ('\x08', r)
    else if c = 't' then some ('\t', r)
    else if c = 'n' then some ('\n', r)
    else if c = 'f' then some ('\x0c', r)
    else if c = 'r' then some ('\r', r)
    else if c = '"' then some ('"', r)
    else if c = '\\' then some ('\\', r)
    else if c = 'u' then readCode 4 r
    else if c = 'U' then readCode 8 r
    else none

/-- The rest of a basic string on one line. -/
def readBasic : Nat → List Char → Option (List Char × List Char)
  | 0, _ => none
  | _ + 1, [] => none
  | fuel + 1, c :: cs =>
    if c = '"' then some ([], cs)
    else if c = '\\' then do
      let (e, cs) ← readEscape cs
      (readBasic fuel cs).map fun (s, r) => (e :: s, r)
    else if isPlain c then (readBasic fuel cs).map fun (s, r) => (c :: s, r)
    else none

/-- The rest of a literal string on one line. -/
def readLiteral (cs : List Char) : Option (List Char × List Char) :=
  let s := cs.takeWhile fun c => isPlain c && c ≠ '\''
  match cs.drop s.length with
  | '\'' :: r => some (s, r)
  | _ => none

/-- Quotes that close a string of several lines: three, with up to two more before them that
belong to the string. -/
def closing? (quote : Char) (cs : List Char) : Option (List Char × List Char) :=
  let count := (cs.takeWhile (· = quote)).length
  if count < 3 then none
  else
    let inner := min (count - 3) 2
    some (List.replicate inner quote, cs.drop (inner + 3))

/-- Skips blanks and line ends, at most `lines` of these. -/
def skipBreaks : Nat → List Char → List Char
  | 0, cs => cs
  | lines + 1, cs =>
    match afterNewline (skipWhite cs) with
    | some r => skipBreaks lines r
    | none => skipWhite cs

/-- A backslash at the end of a line leaves out all blanks and line ends up to the next
character. -/
def afterContinuation (cs : List Char) : Option (List Char) :=
  (afterNewline (skipWhite cs)).map fun r => skipBreaks (r.length + 1) r

/-- The rest of a string of several lines; only a basic one has escapes. -/
def readLong (quote : Char) (escapes : Bool) : Nat → List Char → Option (List Char × List Char)
  | 0, _ => none
  | _ + 1, [] => none
  | fuel + 1, c :: cs =>
    match closing? quote (c :: cs) with
    | some closed => some closed
    | none =>
      match afterNewline (c :: cs) with
      | some r => (readLong quote escapes fuel r).map fun (s, r) => ('\n' :: s, r)
      | none =>
        if escapes && c = '\\' then
          match afterContinuation cs with
          | some r => readLong quote escapes fuel r
          | none => do
            let (e, cs) ← readEscape cs
            (readLong quote escapes fuel cs).map fun (s, r) => (e :: s, r)
        else if isPlain c then
          (readLong quote escapes fuel cs).map fun (s, r) => (c :: s, r)
        else none

/-- A line end right behind the opening quotes is left out. -/
def openLong (cs : List Char) : List Char := (afterNewline cs).getD cs

/-- A string of any kind. -/
def readString (cs : List Char) : Option (List Char × List Char) :=
  match cs with
  | '"' :: '"' :: '"' :: r => readLong '"' true (r.length + 1) (openLong r)
  | '\'' :: '\'' :: '\'' :: r => readLong '\'' false (r.length + 1) (openLong r)
  | '"' :: r => readBasic (r.length + 1) r
  | '\'' :: r => readLiteral r
  | _ => none

/-! ## Keys -/

def isBare (c : Char) : Bool := c.isAlphanum || c = '_' || c = '-'

/-- A bare key, or one in quotes on one line. -/
def readSimpleKey (cs : List Char) : Option (String × List Char) :=
  match cs with
  | '"' :: r => (readBasic (r.length + 1) r).map fun (s, r) => (String.ofList s, r)
  | '\'' :: r => (readLiteral r).map fun (s, r) => (String.ofList s, r)
  | _ =>
    let key := cs.takeWhile isBare
    if key.isEmpty then none else some (String.ofList key, cs.drop key.length)

/-- Keys with dots between them, and blanks around these. -/
def readKey : Nat → List Char → Option (List String × List Char)
  | 0, _ => none
  | fuel + 1, cs => do
    let (key, cs) ← readSimpleKey (skipWhite cs)
    match skipWhite cs with
    | '.' :: r => (readKey fuel r).map fun (keys, r) => (key :: keys, r)
    | r => some ([key], r)

end Courtship.Toml
