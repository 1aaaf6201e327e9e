import Courtship.Settings.Basic
import Courtship.Settings.Layer
import Courtship.Toml.Form
import Courtship.Toml.Reader

/-! Loading settings from what surrounds a program: files and variables. -/

namespace Courtship

/-! ## Sections -/

instance : TomlForm ServerSettings where
  ofToml? v := do
    match ← v.slots? ["host", "port", "workers"] with
    | [host, port, workers] =>
      let d : ServerSettings := {}
      some ⟨← host.orElse d.host, ← port.orElse d.port, ← workers.optional⟩
    | _ => none

instance : TomlForm DatabaseSettings where
  ofToml? v := do
    match ← v.slots? ["url", "max_connections", "min_connections", "acquire_timeout_secs",
      "idle_timeout_secs"] with
    | [url, maxConnections, minConnections, acquireTimeoutSecs, idleTimeoutSecs] =>
      some ⟨← url.optional, ← maxConnections.optional, ← minConnections.optional,
        ← acquireTimeoutSecs.optional, ← idleTimeoutSecs.optional⟩
    | _ => none

instance : TomlForm MatchingSettings where
  ofToml? v := do
    match ← v.slots? ["lock_timeout_ms", "conflict_retries", "undo_window_secs"] with
    | [lockTimeoutMs, conflictRetries, undoWindowSecs] =>
      let d : MatchingSettings := {}
      some ⟨← lockTimeoutMs.orElse d.lockTimeoutMs, ← conflictRetries.orElse d.conflictRetries,
        ← undoWindowSecs.orElse d.undoWindowSecs⟩
    | _ => none

instance : TomlForm RelationshipSettings where
  ofToml? v := do
    match ← v.slots? ["friend_requests_per_day", "min_friend_request_length"] with
    | [perDay, minLength] =>
      let d : RelationshipSettings := {}
      some ⟨← perDay.orElse d.friendRequestsPerDay, ← minLength.orElse d.minFriendRequestLength⟩
    | _ => none

instance : TomlForm LoggingSettings where
  ofToml? v := do
    match ← v.slots? ["level", "format"] with
    | [level, format] =>
      let d : LoggingSettings := {}
      some ⟨← level.orElse d.level, ← format.orElse d.format⟩
    | _ => none

instance : TomlForm Settings where
  ofToml? v := do
    match ← v.slots? ["server", "database", "matching", "relationships", "logging"] with
    | [server, database, matching, relationships, logging] =>
      some ⟨← server.orElse {}, ← database.orElse {}, ← matching.orElse {},
        ← relationships.orElse {}, ← logging.orElse {}⟩
    | _ => none

/-! ## Files -/

/-- Files by their paths, and variables by their names. -/
structure Surroundings where
  files : List (String × String)
  bindings : List (String × String)

/-- The names on a path, without those that lead nowhere. A path does not lead out of the directory
it starts in. -/
def pathNames? (path : String) : Option (List String) :=
  ((path.toList.splitOn '/').map String.ofList).foldlM (fun names name =>
    if name = "" || name = "." then some names
    else if name = ".." then if names.isEmpty then none else some names.dropLast
    else some (names ++ [name])) []

namespace Surroundings

def file? (s : Surroundings) (path : String) : Option String := do
  let names ← pathNames? path
  if names.isEmpty || path.endsWith "/" || path.startsWith "/" then none
  else (s.files.find? fun f => pathNames? f.1 = some names).map Prod.snd

/-- Whether the name at the end of a path has the ending for TOML. -/
def isTomlPath (path : String) : Bool :=
  let name := (path.toList.reverse.takeWhile (· ≠ '/')).reverse
  5 < name.length && ".toml".toList.isSuffixOf name

/-- What a document is found to be. -/
inductive Document where
  | missing
  | text (toml : String)

/-- The file at a path, or else the one with an ending added. A file that is there hides the other
even if its own ending says that it is no document. -/
def document (s : Surroundings) (path : String) : Document :=
  match s.file? path with
  | some text => if isTomlPath path then .text text else .missing
  | none => ((s.file? (path ++ ".toml")).map Document.text).getD .missing

/-- A document with faults is refused, even one that may be missing. -/
def layer? (s : Surroundings) (path : String) (required : Bool) : Option Layer :=
  match s.document path with
  | .missing => if required then none else some .empty
  | .text text => (Toml.ofText? text).map Layer.ofTable

def valueOf? (s : Surroundings) (name : String) : Option String :=
  (s.bindings.find? fun v => v.1 = name).map Prod.snd

/-- The variables for settings, in the order of their names. -/
def settingVariables (s : Surroundings) : List (String × String) :=
  (s.bindings.filter fun v => (Layer.variablePath? v.1).isSome).mergeSort fun v w => v.1 ≤ w.1

def variableLayer (s : Surroundings) : Layer := .ofVariables s.settingVariables

def databaseUrlLayer (s : Surroundings) : Layer :=
  ((s.valueOf? "DATABASE_URL").map Layer.ofDatabaseUrl).getD .empty

/-- The settings of the two files of a program, of its variables, and of the one variable that is
customary for databases. -/
def settings? (s : Surroundings) : Option Settings := do
  let defaults ← s.layer? "config/default" false
  let overrides ← s.layer? "config/local" false
  ofToml? (Layer.merged [defaults, overrides, s.variableLayer, s.databaseUrlLayer])

/-- The settings of a single file, and of the variables. -/
def settingsFrom? (s : Surroundings) (path : String) : Option Settings := do
  let file ← s.layer? path true
  ofToml? (Layer.merged [file, s.variableLayer])

end Surroundings

end Courtship
