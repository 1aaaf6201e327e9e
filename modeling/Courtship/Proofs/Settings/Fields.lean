import Courtship.Settings.Load

/-! The settings one by one: where each one stands, what it is when nothing stands there, and how it
is read. Where every section is a table, reading settings is reading each one of them. -/

namespace Courtship

/-! ## Settings -/

inductive Setting where
  | host
  | port
  | workers
  | databaseUrl
  | maxConnections
  | minConnections
  | acquireTimeoutSecs
  | idleTimeoutSecs
  | lockTimeoutMs
  | conflictRetries
  | undoWindowSecs
  | friendRequestsPerDay
  | minFriendRequestLength
  | logLevel
  | logFormat
  deriving DecidableEq

namespace Setting

def sectionName : Setting → String
  | host | port | workers => "server"
  | databaseUrl | maxConnections | minConnections | acquireTimeoutSecs | idleTimeoutSecs =>
    "database"
  | lockTimeoutMs | conflictRetries | undoWindowSecs => "matching"
  | friendRequestsPerDay | minFriendRequestLength => "relationships"
  | logLevel | logFormat => "logging"

def name : Setting → String
  | host => "host"
  | port => "port"
  | workers => "workers"
  | databaseUrl => "url"
  | maxConnections => "max_connections"
  | minConnections => "min_connections"
  | acquireTimeoutSecs => "acquire_timeout_secs"
  | idleTimeoutSecs => "idle_timeout_secs"
  | lockTimeoutMs => "lock_timeout_ms"
  | conflictRetries => "conflict_retries"
  | undoWindowSecs => "undo_window_secs"
  | friendRequestsPerDay => "friend_requests_per_day"
  | minFriendRequestLength => "min_friend_request_length"
  | logLevel => "level"
  | logFormat => "format"

@[reducible] def Value : Setting → Type
  | host | logLevel | logFormat => String
  | databaseUrl => Option String
  | port => UInt16
  | workers | acquireTimeoutSecs | idleTimeoutSecs => Option UInt64
  | maxConnections | minConnections => Option UInt32
  | lockTimeoutMs | undoWindowSecs | minFriendRequestLength => UInt64
  | conflictRetries | friendRequestsPerDay => UInt32

def get (s : Settings) : (f : Setting) → f.Value
  | host => s.server.host
  | port => s.server.port
  | workers => s.server.workers
  | databaseUrl => s.database.url
  | maxConnections => s.database.maxConnections
  | minConnections => s.database.minConnections
  | acquireTimeoutSecs => s.database.acquireTimeoutSecs
  | idleTimeoutSecs => s.database.idleTimeoutSecs
  | lockTimeoutMs => s.matching.lockTimeoutMs
  | conflictRetries => s.matching.conflictRetries
  | undoWindowSecs => s.matching.undoWindowSecs
  | friendRequestsPerDay => s.relationships.friendRequestsPerDay
  | minFriendRequestLength => s.relationships.minFriendRequestLength
  | logLevel => s.logging.level
  | logFormat => s.logging.format

/-- The setting that a value stands for, by the rules for its type. -/
def read? (v : Toml) : (f : Setting) → Option f.Value
  | host | port | lockTimeoutMs | conflictRetries | undoWindowSecs | friendRequestsPerDay
  | minFriendRequestLength | logLevel | logFormat => ofToml? v
  | workers | databaseUrl | maxConnections | minConnections | acquireTimeoutSecs
  | idleTimeoutSecs => (Toml.Slot.given v).optional

/-- The setting that a value stands for, if there is one, and else its default. -/
def of? (f : Setting) (v : Option Toml) : Option f.Value :=
  v.elim (some (f.get {})) fun v => f.read? v

theorem read?_table (f : Setting) (es : List (String × Toml)) : f.read? (.table es) = none := by
  cases f <;> rfl

theorem read?_array (f : Setting) (vs : List Toml) : f.read? (.array vs) = none := by
  cases f <;> rfl

end Setting

/-! ## Reading settings -/

namespace Toml

/-- What stands in a section. -/
def sectionEntries (root : Toml) (name : String) : List (String × Toml) :=
  ((lookup name root.entries).map entries).getD []

/-- A table in which every section that is there is a table. -/
structure IsSectioned (root : Toml) : Prop where
  isTable : ∃ es, root = .table es
  sections : ∀ f : Setting, ∀ v, lookup f.sectionName root.entries = some v → ∃ es, v = .table es

theorem isSectioned_nil : (table []).IsSectioned where
  isTable := ⟨[], rfl⟩
  sections f v h := by simp [entries, lookup] at h

def slot (name : String) (es : List (String × Toml)) : Slot :=
  ((lookup name es).map Slot.given).getD .missing

theorem slots?_table (fields : List String) (es : List (String × Toml)) :
    slots? fields (.table es) = some (fields.map (slot · es)) := rfl

theorem orElse_slot {α : Type} [TomlForm α] (default : α) (name : String)
    (es : List (String × Toml)) :
    (slot name es).orElse default = (lookup name es).elim (some default) ofToml? := by
  cases h : lookup name es <;> simp [slot, h, Slot.orElse]

theorem optional_slot {α : Type} [TomlForm α] (name : String) (es : List (String × Toml)) :
    (slot name es).optional (α := α) =
      (lookup name es).elim (some none) fun v => (Slot.given v).optional := by
  cases h : lookup name es <;> simp [slot, h, Slot.optional]

end Toml

/-- What stands for a setting. -/
def Setting.value? (f : Setting) (root : Toml) : Option Toml :=
  Toml.lookup f.name (root.sectionEntries f.sectionName)

open Toml (lookup)

variable (es : List (String × Toml))

theorem ofToml?_server (s : ServerSettings) : ofToml? (.table es) = some s ↔
    Setting.host.of? (lookup "host" es) = some s.host ∧
      Setting.port.of? (lookup "port" es) = some s.port ∧
      Setting.workers.of? (lookup "workers" es) = some s.workers := by
  simp only [ofToml?, Toml.slots?_table, List.map_cons, List.map_nil, Toml.orElse_slot,
    Toml.optional_slot, Option.bind_eq_bind, Option.bind_some, Option.bind_eq_some_iff]
  constructor
  · rintro ⟨_, host, _, port, _, workers, ⟨⟩⟩
    exact ⟨host, port, workers⟩
  · rintro ⟨host, port, workers⟩
    exact ⟨_, host, _, port, _, workers, rfl⟩

theorem ofToml?_database (s : DatabaseSettings) : ofToml? (.table es) = some s ↔
    Setting.databaseUrl.of? (lookup "url" es) = some s.url ∧
      Setting.maxConnections.of? (lookup "max_connections" es) = some s.maxConnections ∧
      Setting.minConnections.of? (lookup "min_connections" es) = some s.minConnections ∧
      Setting.acquireTimeoutSecs.of? (lookup "acquire_timeout_secs" es) =
        some s.acquireTimeoutSecs ∧
      Setting.idleTimeoutSecs.of? (lookup "idle_timeout_secs" es) = some s.idleTimeoutSecs := by
  simp only [ofToml?, Toml.slots?_table, List.map_cons, List.map_nil,
    Toml.optional_slot, Option.bind_eq_bind, Option.bind_some, Option.bind_eq_some_iff]
  constructor
  · rintro ⟨_, url, _, maxC, _, minC, _, acquire, _, idle, ⟨⟩⟩
    exact ⟨url, maxC, minC, acquire, idle⟩
  · rintro ⟨url, maxC, minC, acquire, idle⟩
    exact ⟨_, url, _, maxC, _, minC, _, acquire, _, idle, rfl⟩

theorem ofToml?_matching (s : MatchingSettings) : ofToml? (.table es) = some s ↔
    Setting.lockTimeoutMs.of? (lookup "lock_timeout_ms" es) = some s.lockTimeoutMs ∧
      Setting.conflictRetries.of? (lookup "conflict_retries" es) = some s.conflictRetries ∧
      Setting.undoWindowSecs.of? (lookup "undo_window_secs" es) = some s.undoWindowSecs := by
  simp only [ofToml?, Toml.slots?_table, List.map_cons, List.map_nil, Toml.orElse_slot,
    Option.bind_eq_bind, Option.bind_some, Option.bind_eq_some_iff]
  constructor
  · rintro ⟨_, timeout, _, retries, _, window, ⟨⟩⟩
    exact ⟨timeout, retries, window⟩
  · rintro ⟨timeout, retries, window⟩
    exact ⟨_, timeout, _, retries, _, window, rfl⟩

theorem ofToml?_relationships (s : RelationshipSettings) : ofToml? (.table es) = some s ↔
    Setting.friendRequestsPerDay.of? (lookup "friend_requests_per_day" es) =
        some s.friendRequestsPerDay ∧
      Setting.minFriendRequestLength.of? (lookup "min_friend_request_length" es) =
        some s.minFriendRequestLength := by
  simp only [ofToml?, Toml.slots?_table, List.map_cons, List.map_nil, Toml.orElse_slot,
    Option.bind_eq_bind, Option.bind_some, Option.bind_eq_some_iff]
  constructor
  · rintro ⟨_, perDay, _, length, ⟨⟩⟩
    exact ⟨perDay, length⟩
  · rintro ⟨perDay, length⟩
    exact ⟨_, perDay, _, length, rfl⟩

theorem ofToml?_logging (s : LoggingSettings) : ofToml? (.table es) = some s ↔
    Setting.logLevel.of? (lookup "level" es) = some s.level ∧
      Setting.logFormat.of? (lookup "format" es) = some s.format := by
  simp only [ofToml?, Toml.slots?_table, List.map_cons, List.map_nil, Toml.orElse_slot,
    Option.bind_eq_bind, Option.bind_some, Option.bind_eq_some_iff]
  constructor
  · rintro ⟨_, level, _, format, ⟨⟩⟩
    exact ⟨level, format⟩
  · rintro ⟨level, format⟩
    exact ⟨_, level, _, format, rfl⟩

variable {es}

theorem Toml.IsSectioned.orElse_slot (h : (Toml.table es).IsSectioned) (f : Setting) {α : Type}
    [TomlForm α] (default : α) (hdefault : ofToml? (.table []) = some default) :
    (Toml.slot f.sectionName es).orElse default =
      ofToml? (.table ((Toml.table es).sectionEntries f.sectionName)) := by
  cases hv : lookup f.sectionName es with
  | none => simp [Toml.orElse_slot, Toml.sectionEntries, Toml.entries, hv, hdefault]
  | some v =>
    obtain ⟨inner, rfl⟩ := h.sections f v hv
    simp [Toml.orElse_slot, Toml.sectionEntries, Toml.entries, hv]

theorem ofToml?_sections (h : (Toml.table es).IsSectioned) (s : Settings) :
    ofToml? (.table es) = some s ↔
      ofToml? (.table ((Toml.table es).sectionEntries "server")) = some s.server ∧
        ofToml? (.table ((Toml.table es).sectionEntries "database")) = some s.database ∧
        ofToml? (.table ((Toml.table es).sectionEntries "matching")) = some s.matching ∧
        ofToml? (.table ((Toml.table es).sectionEntries "relationships")) =
          some s.relationships ∧
        ofToml? (.table ((Toml.table es).sectionEntries "logging")) = some s.logging := by
  have server := h.orElse_slot .host ({} : ServerSettings) rfl
  have database := h.orElse_slot .databaseUrl ({} : DatabaseSettings) rfl
  have matching := h.orElse_slot .lockTimeoutMs ({} : MatchingSettings) rfl
  have relationships :=
    h.orElse_slot .friendRequestsPerDay ({} : RelationshipSettings) rfl
  have logging := h.orElse_slot .logLevel ({} : LoggingSettings) rfl
  simp only [Setting.sectionName] at server database matching relationships logging
  rw [← server, ← database, ← matching, ← relationships, ← logging]
  simp only [ofToml?, Toml.slots?_table, List.map_cons, List.map_nil, Option.bind_eq_bind,
    Option.bind_some, Option.bind_eq_some_iff]
  constructor
  · rintro ⟨_, server, _, database, _, matching, _, relationships, _, logging, ⟨⟩⟩
    exact ⟨server, database, matching, relationships, logging⟩
  · rintro ⟨server, database, matching, relationships, logging⟩
    exact ⟨_, server, _, database, _, matching, _, relationships, _, logging, rfl⟩

/-- Settings are read one by one. -/
theorem ofToml?_settings {root : Toml} (h : root.IsSectioned) (s : Settings) :
    ofToml? root = some s ↔ ∀ f : Setting, f.of? (f.value? root) = some (f.get s) := by
  obtain ⟨es, rfl⟩ := h.isTable
  rw [ofToml?_sections h, ofToml?_server, ofToml?_database, ofToml?_matching,
    ofToml?_relationships, ofToml?_logging]
  constructor
  · rintro ⟨⟨_, _, _⟩, ⟨_, _, _, _, _⟩, ⟨_, _, _⟩, ⟨_, _⟩, _, _⟩ f
    cases f <;> assumption
  · intro h
    exact ⟨⟨h .host, h .port, h .workers⟩,
      ⟨h .databaseUrl, h .maxConnections, h .minConnections, h .acquireTimeoutSecs,
        h .idleTimeoutSecs⟩,
      ⟨h .lockTimeoutMs, h .conflictRetries, h .undoWindowSecs⟩,
      ⟨h .friendRequestsPerDay, h .minFriendRequestLength⟩, h .logLevel, h .logFormat⟩

end Courtship
