/-! Settings, in sections, with their defaults. -/

namespace Courtship

structure ServerSettings where
  host : String := "0.0.0.0"
  port : UInt16 := 8080
  workers : Option UInt64 := none
  deriving DecidableEq

/-- Without a URL the storage is in memory. -/
structure DatabaseSettings where
  url : Option String := none
  maxConnections : Option UInt32 := none
  minConnections : Option UInt32 := none
  acquireTimeoutSecs : Option UInt64 := none
  idleTimeoutSecs : Option UInt64 := none
  deriving DecidableEq

structure MatchingSettings where
  /-- How long an operation waits for the locks of its users. -/
  lockTimeoutMs : UInt64 := 5000
  /-- How often a swipe is tried again after a conflict. -/
  conflictRetries : UInt32 := 3
  undoWindowSecs : UInt64 := 30
  deriving DecidableEq

structure RelationshipSettings where
  friendRequestsPerDay : UInt32 := 5
  minFriendRequestLength : UInt64 := 10
  deriving DecidableEq

structure LoggingSettings where
  level : String := "info"
  format : String := "json"
  deriving DecidableEq

structure Settings where
  server : ServerSettings := {}
  database : DatabaseSettings := {}
  matching : MatchingSettings := {}
  relationships : RelationshipSettings := {}
  logging : LoggingSettings := {}
  deriving DecidableEq

end Courtship
