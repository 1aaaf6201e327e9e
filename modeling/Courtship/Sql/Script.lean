import Courtship.Sql.Row
import Courtship.Sql.Statement

/-! A connection to a server whose replies are given in advance, and the record of what was sent. -/

namespace Courtship.Sql

inductive Reply where
  | rows (rows : List Row)
  | affected (count : Nat)
  | error (code : Option String) (message : String)

/-- A reply, and the word that a transaction statement must start with to take it. -/
structure Scripted where
  toReply : Reply
  on : Option String

structure Script where
  replies : List Scripted
  /-- In the order of sending. -/
  sent : List Statement
  /-- How many identifiers were made. -/
  minted : Nat

namespace Script

def new (replies : List Scripted) (minted : Nat) : Script := ⟨replies, [], minted⟩

def record (s : Script) (q : Statement) : Script := { s with sent := s.sent ++ [q] }

def mint (s : Script) : Uuid × Script := (.fresh s.minted, { s with minted := s.minted + 1 })

/-- Sends a statement, which takes the next reply. A server with nothing left to say has found no
rows. -/
def send (s : Script) (q : Statement) : Reply × Script :=
  let s := s.record q
  match s.replies with
  | [] => (.affected 0, s)
  | r :: rest => (r.toReply, { s with replies := rest })

def firstWord (q : Statement) : String := String.ofList (q.text.toList.takeWhile (· ≠ ' '))

/-- Sends a transaction statement, which succeeds unless the next reply is meant for it. -/
def control (s : Script) (q : Statement) : Except SqlError Unit × Script :=
  let s := s.record q
  match s.replies with
  | [] => (.ok (), s)
  | r :: rest =>
    if r.on = some (firstWord q) then
      let s := { s with replies := rest }
      match r.toReply with
      | .error code message => (.error (.database code message), s)
      | _ => (.ok (), s)
    else (.ok (), s)

def rollback (s : Script) : Script := (s.control .rollback).2

/-- Opens a serializable transaction. -/
def start (s : Script) : Except (StorageError × Script) Script :=
  match s.control .begin with
  | (.error e, s) => .error (.sql e, s)
  | (.ok _, s) =>
    match s.control .serializable with
    | (.error e, s) => .error (.sql e, s.rollback)
    | (.ok _, s) => .ok s

/-- A commit that fails is followed by a rollback. -/
def commit (s : Script) : Except StorageError Unit × Script :=
  match s.control .commit with
  | (.error e, s) => (.error (.sql e), s.rollback)
  | (.ok _, s) => (.ok (), s)

end Script

end Courtship.Sql
