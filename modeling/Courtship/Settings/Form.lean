import Courtship.Json.Form
import Courtship.Settings.Basic

/-! The JSON form of settings. A section, and a field with a default, may be left out. -/

namespace Courtship

instance : JsonForm ServerSettings where
  toJson s := .object
    [("host", toJson s.host), ("port", toJson s.port), ("workers", optionJson s.workers)]
  ofJson? j := do
    match ← j.slots? [["host"], ["port"], ["workers"]] with
    | [host, port, workers] =>
      let d : ServerSettings := {}
      some ⟨← host.orElse d.host, ← port.orElse d.port, ← workers.optional⟩
    | _ => none

instance : JsonForm DatabaseSettings where
  toJson s := .object
    [("url", optionJson s.url), ("max_connections", optionJson s.maxConnections),
      ("min_connections", optionJson s.minConnections),
      ("acquire_timeout_secs", optionJson s.acquireTimeoutSecs),
      ("idle_timeout_secs", optionJson s.idleTimeoutSecs)]
  ofJson? j := do
    match ← j.slots? [["url"], ["max_connections"], ["min_connections"],
      ["acquire_timeout_secs"], ["idle_timeout_secs"]] with
    | [url, maxConnections, minConnections, acquireTimeoutSecs, idleTimeoutSecs] =>
      some ⟨← url.optional, ← maxConnections.optional, ← minConnections.optional,
        ← acquireTimeoutSecs.optional, ← idleTimeoutSecs.optional⟩
    | _ => none

instance : JsonForm MatchingSettings where
  toJson s := .object
    [("lock_timeout_ms", toJson s.lockTimeoutMs), ("conflict_retries", toJson s.conflictRetries),
      ("undo_window_secs", toJson s.undoWindowSecs)]
  ofJson? j := do
    match ← j.slots? [["lock_timeout_ms"], ["conflict_retries"], ["undo_window_secs"]] with
    | [lockTimeoutMs, conflictRetries, undoWindowSecs] =>
      let d : MatchingSettings := {}
      some ⟨← lockTimeoutMs.orElse d.lockTimeoutMs, ← conflictRetries.orElse d.conflictRetries,
        ← undoWindowSecs.orElse d.undoWindowSecs⟩
    | _ => none

instance : JsonForm RelationshipSettings where
  toJson s := .object
    [("friend_requests_per_day", toJson s.friendRequestsPerDay),
      ("min_friend_request_length", toJson s.minFriendRequestLength)]
  ofJson? j := do
    match ← j.slots? [["friend_requests_per_day"], ["min_friend_request_length"]] with
    | [perDay, minLength] =>
      let d : RelationshipSettings := {}
      some ⟨← perDay.orElse d.friendRequestsPerDay, ← minLength.orElse d.minFriendRequestLength⟩
    | _ => none

instance : JsonForm LoggingSettings where
  toJson s := .object [("level", toJson s.level), ("format", toJson s.format)]
  ofJson? j := do
    match ← j.slots? [["level"], ["format"]] with
    | [level, format] =>
      let d : LoggingSettings := {}
      some ⟨← level.orElse d.level, ← format.orElse d.format⟩
    | _ => none

instance : JsonForm Settings where
  toJson s := .object
    [("server", toJson s.server), ("database", toJson s.database),
      ("matching", toJson s.matching), ("relationships", toJson s.relationships),
      ("logging", toJson s.logging)]
  ofJson? j := do
    match ← j.slots? [["server"], ["database"], ["matching"], ["relationships"],
      ["logging"]] with
    | [server, database, matching, relationships, logging] =>
      some ⟨← server.orElse {}, ← database.orElse {}, ← matching.orElse {},
        ← relationships.orElse {}, ← logging.orElse {}⟩
    | _ => none

end Courtship
