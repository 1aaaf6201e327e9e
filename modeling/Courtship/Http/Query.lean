import Courtship.Http.Exchange
import Courtship.Text.Basic

/-! Query strings that map names to words of 32 bits. -/

namespace Courtship.Http

/-- A plus sign stands for a blank. -/
def formDecoded (cs : List Char) : List Char :=
  unescaped (fun _ => true) (cs.map fun c => if c = '+' then ' ' else c)

/-- The name and the value of one segment; without an equals sign the value is empty. -/
def pairOf (segment : List Char) : List Char × List Char :=
  (formDecoded (segment.takeWhile (· ≠ '=')), formDecoded ((segment.dropWhile (· ≠ '=')).drop 1))

def word32? (cs : List Char) : Option UInt32 :=
  (readNat? cs).bind fun n => if n < UInt32.size then some (.ofNat n) else none

/-- The pairs in the order given. Empty segments do not count. -/
def readQuery (query : String) : Option (List (String × UInt32)) :=
  ((query.splitOn "&").filter fun s => !s.isEmpty).mapM fun segment =>
    let (name, value) := pairOf segment.toList
    (word32? value).map fun n => (String.ofList name, n)

/-- What is told of a query that cannot be read. -/
def queryError : ErrorBody := ⟨"invalid_query", "Invalid query: a value is not a word", 400⟩

end Courtship.Http
