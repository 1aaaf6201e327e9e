import Courtship.Log.Filter
import Courtship.Settings.VariableFile
import Courtship.Sql.Server
import Courtship.Error

/-! Starting up: loading the settings, opening the storage, and what is logged on the way. -/

namespace Courtship

/-! ## Storages -/

inductive Backend where
  | memory
  | database
  deriving DecidableEq

def Backend.name : Backend → String
  | memory => "memory"
  | database => "postgres"

/-- What came of opening the storage. -/
structure Opening where
  result : Except StorageError Backend
  setup : Sql.Setup
  log : List LogLine

/-- Without a URL the storage is in memory. -/
def openBackend (servers : List Sql.Server) (d : DatabaseSettings) : Opening :=
  match d.url with
  | none =>
    ⟨.ok .memory, .empty, [⟨.warn, "No database URL configured, using in-memory storage"⟩]⟩
  | some url =>
    let connecting : LogLine := ⟨.info, "Connecting to PostgreSQL"⟩
    match Sql.Server.openDatabase servers url d with
    | (.ok _, setup) =>
      let size := (d.maxConnections.getD 10).toNat
      ⟨.ok .database, setup, [connecting,
        ⟨.info, s!"PostgreSQL storage initialized (max: {size} connections)"⟩]⟩
    | (.error e, setup) =>
      ⟨.error e, setup, [connecting, ⟨.error, s!"Failed to connect to PostgreSQL: {e.message}"⟩]⟩

/-! ## Logging -/

/-- The customary variables win over the settings, and of these variables the one for filters wins
unless it has faults. -/
def logFilter (s : Surroundings) (l : LoggingSettings) : LogFilter :=
  match (s.valueOf? "RUST_LOG").bind LogFilter.ofText? with
  | some f => f
  | none => .ofText ((s.valueOf? "LOG_LEVEL").getD l.level)

def isPretty (s : Surroundings) (l : LoggingSettings) : Bool :=
  (s.valueOf? "LOG_FORMAT").getD l.format = "pretty"

/-! ## The whole -/

inductive Outcome where
  | badSettings
  | noStorage (why : StorageError)
  /-- Ready to serve at the address in the settings. -/
  | ready (settings : Settings) (backend : Backend)

namespace Outcome

/-- The status with which a program ends that cannot serve, or is done with it. It cannot if there
is nobody to do the work, or if the address cannot be bound. -/
def exitStatus (canBind : Bool) : Outcome → Nat
  | badSettings | noStorage _ => 1
  | ready settings _ =>
    if settings.server.workers = some 0 then 101 else if canBind then 0 else 1

end Outcome

structure Startup where
  outcome : Outcome
  /-- The lines that the filter lets through. -/
  log : List LogLine
  /-- Whether each of them takes several lines of output. -/
  isPretty : Bool

namespace Startup

def greeting (m : MatchingSettings) : List LogLine :=
  let locks := s!"Lock timeout {m.lockTimeoutMs.toNat}ms"
  let retries := s!"{m.conflictRetries.toNat} conflict retries"
  let undoing := s!"undo window {m.undoWindowSecs.toNat}s"
  [⟨.info, "Starting Lume Bond relationship service..."⟩,
    ⟨.info, s!"{locks}, {retries}, {undoing}"⟩]

def serving (s : ServerSettings) : LogLine :=
  ⟨.info, s!"Starting HTTP server on {s.host}:{s.port.toNat}"⟩

/-- Starts with given settings. -/
def withSettings (s : Surroundings) (servers : List Sql.Server) (c : Settings) : Startup :=
  let opening := openBackend servers c.database
  let (outcome, last) : Outcome × List LogLine := match opening.result with
    | .ok backend => (.ready c backend, [serving c.server])
    | .error e => (.noStorage e, [])
  let log := greeting c.matching ++ opening.log ++ last
  ⟨outcome, log.filter (logFilter s c.logging).lets, Courtship.isPretty s c.logging⟩

def run (s : Surroundings) (servers : List Sql.Server) : Startup :=
  let s := s.withVariableFile
  match s.settings? with
  | none => ⟨.badSettings, [], false⟩
  | some c => withSettings s servers c

end Startup

end Courtship
