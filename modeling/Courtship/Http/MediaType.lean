/-! Content types, and which of them are JSON. -/

namespace Courtship.Http

/-- The characters of a name or an unquoted value. -/
def isTokenChar (c : Char) : Bool := c.isAlphanum || "!#$%&'*+-.^_`|~".toList.contains c

/-- A tab, or what can be seen of ASCII or lies above it, except quotes. -/
def isQuotable (c : Char) : Bool := c = '\t' || (32 ≤ c.toNat && c.toNat ≠ 127 && c ≠ '"')

/-- Behind a quoted value only blanks come before the next parameter. -/
def afterQuoted : List Char → Option (List Char)
  | [] => some []
  | c :: r => if c = ';' then some r else if c = ' ' then afterQuoted r else none

/-- What follows a parameter that `cs` starts with, blanks before it included. -/
def skipParameter (cs : List Char) : Option (List Char) := do
  let cs := cs.dropWhile (· = ' ')
  if cs.isEmpty then some []
  else
    let name := cs.takeWhile isTokenChar
    match name.isEmpty, cs.drop name.length with
    | false, '=' :: '"' :: r =>
      let value := r.takeWhile isQuotable
      match value.isEmpty, r.drop value.length with
      | false, '"' :: r => afterQuoted r
      | _, _ => none
    | false, '=' :: r =>
      match r.dropWhile isTokenChar with
      | [] => some []
      | ';' :: rest => if (r.takeWhile isTokenChar).isEmpty then none else some rest
      | _ => none
    | _, _ => none

/-- Whether `cs` is a list of parameters, of at most `count` of them. -/
def areParameters : Nat → List Char → Bool
  | 0, cs => cs.isEmpty
  | count + 1, cs =>
    cs.isEmpty ||
      match skipParameter cs with
      | some rest => areParameters count rest
      | none => false

/-- The last `+` of a subtype that does not start it parts a suffix from it. -/
def splitSuffix (subtype : List Char) : List Char × List Char :=
  let suffix := (subtype.reverse.takeWhile (· ≠ '+')).reverse
  let stem := subtype.take (subtype.length - suffix.length - 1)
  if stem.isEmpty then (subtype, []) else (stem, suffix)

def namesJson (subtype : List Char) : Bool :=
  let (stem, suffix) := splitSuffix (subtype.map Char.toLower)
  stem = "json".toList || suffix = "json".toList

/-- Whether the content type, of any main type, has JSON as its subtype or suffix. -/
def isJson (contentType : String) : Bool :=
  let main := contentType.toList.takeWhile isTokenChar
  match main.isEmpty, contentType.toList.drop main.length with
  | false, '/' :: r =>
    let subtype := r.takeWhile isTokenChar
    match r.drop subtype.length with
    | [] => namesJson subtype
    | ';' :: parameters =>
      !subtype.isEmpty && areParameters parameters.length parameters && namesJson subtype
    | _ => false
  | _, _ => false

end Courtship.Http
