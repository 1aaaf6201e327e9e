import Courtship.Settings.Load
import Courtship.Text.Basic

/-! A file of variables, one assignment a line, for the variables that are not set already. -/

namespace Courtship

/-! ## Values -/

/-- Where in a value the reading stands. What is `quoted` is within double quotes. -/
inductive ValueMode where
  | bare
  | single
  | double
  | escape (quoted : Bool)
  /-- Within the name behind a dollar sign. -/
  | name (quoted : Bool) (read : List Char)
  /-- Within such a name in braces. -/
  | braced (quoted : Bool) (read : List Char)
  /-- Behind a blank that ends the value. -/
  | ended

namespace ValueMode

/-- The mode to which an escape or a name goes back. -/
def outside (quoted : Bool) : ValueMode := if quoted then double else bare

def isGap (c : Char) : Bool := c = ' ' || c = '\t'

/-- The character for the one behind a backslash. -/
def escaped? (c : Char) : Option Char :=
  if ['\\', '\'', '"', '$', ' '].contains c then some c
  else if c = 'n' then some '\n'
  else none

/-- What is left to write at the end of the line. -/
def atEnd (value : List Char → List Char) : ValueMode → Option (List Char)
  | bare | ended | escape false => some []
  | name false read => some (value read)
  | _ => none

/-- Reads a value to its end; `value` is that of a variable. -/
def read (value : List Char → List Char) : ValueMode → List Char → Option (List Char)
  | mode, [] => mode.atEnd value
  | bare, c :: cs =>
    if c = '$' then read value (name false []) cs
    else if c = '\'' then read value single cs
    else if c = '"' then read value double cs
    else if c = '\\' then read value (escape false) cs
    else if isGap c then read value ended cs
    else (read value bare cs).map (c :: ·)
  | single, c :: cs =>
    if c = '\'' then read value bare cs else (read value single cs).map (c :: ·)
  | double, c :: cs =>
    if c = '$' then read value (name true []) cs
    else if c = '"' then read value bare cs
    else if c = '\\' then read value (escape true) cs
    else (read value double cs).map (c :: ·)
  | escape quoted, c :: cs => do
    let e ← escaped? c
    (read value (outside quoted) cs).map (e :: ·)
  | name quoted word, c :: cs =>
    if c.isAlphanum then read value (name quoted (word ++ [c])) cs
    else if c = '\x7b' && word.isEmpty then read value (braced quoted []) cs
    else if c = '$' then (read value (name quoted []) cs).map (value word ++ ·)
    else (read value (outside quoted) cs).map (value word ++ c :: ·)
  | braced quoted word, c :: cs =>
    if c = '\x7d' then (read value (outside quoted) cs).map (value word ++ ·)
    else read value (braced quoted (word ++ [c])) cs
  | ended, c :: cs =>
    if isGap c then read value ended cs
    else if c = '#' then some []
    else none

end ValueMode

/-! ## Lines -/

namespace VariableFile

def isNameStart (c : Char) : Bool := c.isAlpha || c = '_'

def isNameChar (c : Char) : Bool := c.isAlphanum || c = '_' || c = '.'

/-- A name, and what follows it and the white space behind it. -/
def readName (cs : List Char) : Option (List Char × List Char) :=
  match cs with
  | c :: _ =>
    if isNameStart c then some (cs.takeWhile isNameChar, skipBlanks (cs.dropWhile isNameChar))
    else none
  | [] => none

def readEquals : List Char → Option (List Char)
  | '=' :: r => some r
  | _ => none

/-- The name on the left of an equals sign, with or without a word that exports it, and what
stands on the right. -/
def readLeft (cs : List Char) : Option (List Char × List Char) := do
  let (name, r) ← readName cs
  match readEquals r with
  | some r => some (name, r)
  | none =>
    if name = "export".toList then do
      let (name, r) ← readName r
      some (name, ← readEquals r)
    else none

/-- The assignment on a line, if it has one: a line may be empty or a comment. -/
def readLine? (value : List Char → List Char) (line : String) :
    Option (Option (String × String)) :=
  match trimmed line.toList with
  | [] => some none
  | '#' :: _ => some none
  | cs => do
    let (name, right) ← readLeft cs
    let text ← match skipBlanks right with
      | [] => some []
      | '#' :: _ => some []
      | right => ValueMode.read value .bare right
    some (some (String.ofList name, String.ofList text))

/-- Adds the assignments of the lines up to the first that cannot be read. -/
def assignLines (bindings : List (String × String)) : List String → List (String × String)
  | [] => bindings
  | line :: lines =>
    let value (name : List Char) : List Char :=
      ((bindings.find? fun v => v.1 = String.ofList name).map Prod.snd).getD "" |>.toList
    match readLine? value line with
    | none => bindings
    | some none => assignLines bindings lines
    | some (some (name, text)) =>
      if bindings.any fun v => v.1 = name then assignLines bindings lines
      else assignLines (bindings ++ [(name, text)]) lines

end VariableFile

/-- The surroundings with the variables of the file for them, if there is one. -/
def Surroundings.withVariableFile (s : Surroundings) : Surroundings :=
  match s.file? ".env" with
  | some text => { s with bindings := VariableFile.assignLines s.bindings (text.splitOn "\n") }
  | none => s

end Courtship
