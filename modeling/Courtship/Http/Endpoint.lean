import Courtship.Text.Basic

/-! Endpoints: what a method and a path lead to. -/

namespace Courtship.Http

/-- Identifiers stand as they are written in the path. -/
inductive Endpoint where
  | health
  | swipe
  | undo
  | matchesOf (id : String)
  | propose
  | respond (id : String)
  | pendingFor (id : String)
  | notificationsFor (id : String)
  | gracefulExit
  | unmatch
  | block
  | unblock
  | blocksOf (id : String)
  deriving DecidableEq

namespace Endpoint

/-- The parts of a path between its slashes, the query left out. Escapes of a slash, a percent sign
and a plus are kept for later. -/
def segments (path : String) : List String :=
  let cs := path.toList.takeWhile fun c => c ≠ '?' && c ≠ '#'
  let cs := unescaped (fun code => code ≠ 0x25 && code ≠ 0x2F && code ≠ 0x2B) cs
  (cs.splitOn '/').map String.ofList

/-- An identifier in a path, with all of its escapes replaced. -/
def parameter (segment : String) : String :=
  String.ofList (unescaped (fun _ => true) segment.toList)

def ofGet? : List String → Option Endpoint
  | ["health"] => some health
  | ["users", id, "matches"] => if id.isEmpty then none else some (matchesOf (parameter id))
  | ["users", id, "friend-requests"] =>
    if id.isEmpty then none else some (pendingFor (parameter id))
  | ["users", id, "notifications"] =>
    if id.isEmpty then none else some (notificationsFor (parameter id))
  | ["users", id, "blocks"] => if id.isEmpty then none else some (blocksOf (parameter id))
  | _ => none

def ofPost? : List String → Option Endpoint
  | ["swipes"] => some swipe
  | ["swipes", "undo"] => some undo
  | ["friend-requests"] => some propose
  | ["friend-requests", id, "respond"] =>
    if id.isEmpty then none else some (respond (parameter id))
  | ["relationships", "graceful-exit"] => some gracefulExit
  | ["relationships", "unmatch"] => some unmatch
  | ["relationships", "block"] => some block
  | ["relationships", "unblock"] => some unblock
  | _ => none

def of? (method path : String) : Option Endpoint :=
  match segments path with
  | "" :: "api" :: "v1" :: rest =>
    if method = "GET" then ofGet? rest else if method = "POST" then ofPost? rest else none
  | _ => none

end Endpoint

end Courtship.Http
