import Courtship.Http.Exchange
import Courtship.Json.Printer
import Courtship.Startup
import Courtship.Store.Memory

/-! The program: it starts up, and then answers requests from standard input, one a line, with the
service in memory. A line holds the time of the request, its method, its path and, if it has one,
its body, with a blank between them. -/

namespace Courtship.Main

/-! ## Surroundings -/

def fileNames : List String :=
  [".env", "config/default", "config/default.toml", "config/local", "config/local.toml"]

/-- The variables that set a field of the settings. -/
def fieldVariables : List String :=
  ["SERVER__HOST", "SERVER__PORT", "SERVER__WORKERS", "DATABASE__URL",
    "DATABASE__MAX_CONNECTIONS", "DATABASE__MIN_CONNECTIONS", "DATABASE__ACQUIRE_TIMEOUT_SECS",
    "DATABASE__IDLE_TIMEOUT_SECS", "MATCHING__LOCK_TIMEOUT_MS", "MATCHING__CONFLICT_RETRIES",
    "MATCHING__UNDO_WINDOW_SECS", "RELATIONSHIPS__FRIEND_REQUESTS_PER_DAY",
    "RELATIONSHIPS__MIN_FRIEND_REQUEST_LENGTH", "LOGGING__LEVEL", "LOGGING__FORMAT"]

def variableNames : List String :=
  fieldVariables.map ("LUME__" ++ ·) ++ ["DATABASE_URL", "RUST_LOG", "LOG_LEVEL", "LOG_FORMAT"]

def readFile? (name : String) : IO (Option (String × String)) := do
  try
    return some (name, ← IO.FS.readFile name)
  catch _ =>
    return none

def surroundings : IO Surroundings := do
  let files ← fileNames.filterMapM readFile?
  let bindings ← variableNames.filterMapM fun name => do
    return (← IO.getEnv name).map fun text => (name, text)
  return ⟨files, bindings⟩

/-! ## Requests -/

/-- The time and the request of a line. -/
def request? (line : String) : Option (Instant × Http.Request) :=
  match (String.ofList (trimmed line.toList)).splitOn " " with
  | time :: method :: path :: body => do
    let contentType := if body.isEmpty then none else some "application/json"
    some (← Instant.ofText? time, ⟨method, path, contentType, String.intercalate " " body⟩)
  | _ => none

def responseText (r : Http.Response) : String :=
  match r.body with
  | some body => s!"{r.status} {body.text}"
  | none => s!"{r.status}"

/-- The line of output for a line of input. -/
def answer (s : Service Memory) (line : String) : String × Service Memory :=
  match request? line with
  | none => ("unreadable", s)
  | some (now, r) =>
    match { s with clock := now }.exchange r with
    | (some response, s) => (responseText response, s)
    | (none, s) => ("out of range", s)

partial def serve (input output : IO.FS.Stream) (s : Service Memory) : IO Unit := do
  let line ← input.getLine
  if line.isEmpty then return
  let (text, s) := answer s line
  output.putStrLn text
  output.flush
  serve input output s

def print (s : Startup) (l : LogLine) : IO Unit := do
  let text := s!"{l.level.name} {l.message}"
  IO.println (if s.isPretty then "  " ++ text ++ "\n" else text)

/-- A number that other runs are unlikely to start from. -/
def firstNumber : IO Nat := do
  return (← IO.getRandomBytes 15).foldl (fun n b => 256 * n + b.toNat) 0

/-- Databases are out of this program's reach. -/
def run : IO UInt32 := do
  let s := Startup.run (← surroundings) []
  s.log.forM (print s)
  let status := s.outcome.exitStatus true
  match s.outcome with
  | .ready settings _ =>
    if status = 0 then
      let store := { Memory.empty with minted := ← firstNumber }
      serve (← IO.getStdin) (← IO.getStdout) (.new settings store Instant.epoch2000)
  | _ => IO.eprintln "could not start"
  return .ofNat status

end Courtship.Main

def main : IO UInt32 := Courtship.Main.run
