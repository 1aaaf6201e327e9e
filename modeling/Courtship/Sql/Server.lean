import Courtship.Settings.Basic
import Courtship.Sql.Migration

/-! Connecting to a database server, and bringing its database up to date. -/

namespace Courtship.Sql

/-- A migration that the database has on record. -/
structure Applied where
  version : Int
  /-- Whether it was applied with the text it has now. -/
  unchanged : Bool
  deriving DecidableEq

structure Server where
  url : String
  /-- The state code with which connections are refused. -/
  refusal : Option String
  applied : List Applied
  /-- A migration that was applied in part. -/
  dirty : Option Int
  /-- A migration that contains this text fails with this state code. -/
  failing : Option (String × String)

/-- What a connection has sent, and the migrations that it put on record. -/
structure Setup where
  sent : List Statement
  recorded : List Migration

namespace Setup

def empty : Setup := ⟨[], []⟩

def send (s : Setup) (qs : List Statement) : Setup := { s with sent := s.sent ++ qs }

end Setup

namespace Server

/-! ## Migrations -/

/-- Whether `part` stands somewhere in a text. -/
def occursIn (part : List Char) : List Char → Bool
  | [] => part.isEmpty
  | c :: cs => part.isPrefixOf (c :: cs) || occursIn part cs

def failure? (server : Server) (m : Migration) : Option SqlError := do
  let (part, code) ← server.failing
  if occursIn part.toList m.text.toList then some (.database (some code) "scripted") else none

/-- The last record of a migration counts. -/
def record? (server : Server) (m : Migration) : Option Applied :=
  server.applied.reverse.find? fun a => a.version = m.version

/-- Runs a migration in a transaction of its own. -/
def apply (server : Server) (m : Migration) (s : Setup) : Except MigrationError Unit × Setup :=
  let s := s.send [.begin, m.statement]
  match server.failure? m with
  | some cause => (.error (.failed m.version cause), s)
  | none =>
    let s := s.send [.commit]
    (.ok (), { s with recorded := s.recorded ++ [m] })

/-- Goes through the migrations in order; one on record must be unchanged. -/
def applyAll (server : Server) : List Migration → Setup → Except MigrationError Unit × Setup
  | [], s => (.ok (), s)
  | m :: ms, s =>
    match server.record? m with
    | some a => if a.unchanged then server.applyAll ms s else (.error (.mismatch m.version), s)
    | none =>
      match server.apply m s with
      | (.ok _, s) => server.applyAll ms s
      | (.error e, s) => (.error e, s)

def unknown? (server : Server) : Option Applied :=
  server.applied.find? fun a => !Migration.all.any fun m => m.version = a.version

/-- Nothing is applied to a database in an unclear state, or ahead of the migrations. -/
def migrate (server : Server) : Except MigrationError Unit × Setup :=
  match server.dirty, server.unknown? with
  | some version, _ => (.error (.dirty version), .empty)
  | none, some a => (.error (.missing a.version), .empty)
  | none, none => server.applyAll Migration.all .empty

/-! ## Connections -/

/-- Refusals for the moment: too many connections, and a server that is starting. They are tried
again until the time is up. -/
def isTransient (code : String) : Bool := code = "53300" || code = "57P03"

def connect (server : Server) (settings : DatabaseSettings) : Except SqlError Unit :=
  if settings.maxConnections = some 0 ∨ settings.acquireTimeoutSecs = some 0 then .error .other
  else
    match server.refusal with
    | some code => if isTransient code then .error .other
      else .error (.database (some code) "scripted")
    | none => .ok ()

/-- Connects to the one of `servers` that has the URL, and migrates its database. -/
def openDatabase (servers : List Server) (url : String) (settings : DatabaseSettings) :
    Except StorageError Unit × Setup :=
  match servers.find? fun s => s.url = url with
  | none => (.error (.sql .configuration), .empty)
  | some server =>
    match server.connect settings with
    | .error e => (.error (.sql e), .empty)
    | .ok _ =>
      match server.migrate with
      | (.error e, s) => (.error (.migration e), s)
      | (.ok _, s) => (.ok (), s)

end Server

end Courtship.Sql
