import Courtship.Sql.Statement

/-! The migrations that bring a database to the tables of this library, each with the statements
that it runs as one. -/

namespace Courtship.Sql

structure Migration where
  version : Int
  description : String
  text : String
  deriving DecidableEq

namespace Migration

/-! ## Texts -/

/-- The types, the tables and their indices. -/
def relationships : List String :=
  ["-- Swipes, matches and relationship lifecycle",
    "CREATE TYPE swipe_direction AS ENUM ('LIKE', 'PASS');",
    "CREATE TYPE match_state AS ENUM ('ACTIVE', 'FRIENDS', 'GRACEFUL_EXIT', 'UNMATCHED', " ++
      "'BLOCKED');",
    "CREATE TYPE archive_reason AS ENUM ('FRIEND_ZONE_DECLINED', 'GRACEFUL_EXIT', 'UNMATCH', " ++
      "'BLOCK');",
    "CREATE TYPE friend_request_status AS ENUM ('PENDING', 'ACCEPTED', 'DECLINED');",
    "CREATE TYPE notification_type AS ENUM ( 'FRIEND_REQUEST', 'FRIEND_REQUEST_ACCEPTED', " ++
      "'FRIEND_REQUEST_DECLINED', 'GRACEFUL_EXIT' );",
    "CREATE TABLE likes ( id UUID PRIMARY KEY, from_user UUID NOT NULL, to_user UUID NOT " ++
      "NULL, direction swipe_direction NOT NULL, created_at TIMESTAMPTZ NOT NULL, deleted_at " ++
      "TIMESTAMPTZ, UNIQUE (from_user, to_user), CHECK (from_user <> to_user) );",
    "CREATE INDEX idx_likes_from_user_created ON likes (from_user, created_at DESC) WHERE " ++
      "deleted_at IS NULL;",
    "CREATE TABLE matches ( id TEXT PRIMARY KEY, user_a UUID NOT NULL, user_b UUID NOT NULL, " ++
      "state match_state NOT NULL DEFAULT 'ACTIVE', end_reason archive_reason, ended_by UUID, " ++
      "created_at TIMESTAMPTZ NOT NULL, state_changed_at TIMESTAMPTZ NOT NULL, CHECK (user_a < " ++
      "user_b) );",
    "CREATE INDEX idx_matches_user_a ON matches (user_a);",
    "CREATE INDEX idx_matches_user_b ON matches (user_b);",
    "CREATE TABLE blocks ( blocker UUID NOT NULL, blocked UUID NOT NULL, created_at " ++
      "TIMESTAMPTZ NOT NULL, PRIMARY KEY (blocker, blocked) );",
    "CREATE TABLE friend_requests ( id UUID PRIMARY KEY, match_id TEXT NOT NULL REFERENCES " ++
      "matches (id), from_user UUID NOT NULL, to_user UUID NOT NULL, message TEXT NOT NULL, " ++
      "status friend_request_status NOT NULL DEFAULT 'PENDING', created_at TIMESTAMPTZ NOT " ++
      "NULL, responded_at TIMESTAMPTZ );",
    "CREATE UNIQUE INDEX idx_friend_requests_one_pending ON friend_requests (from_user, " ++
      "to_user, match_id) WHERE status = 'PENDING';",
    "CREATE INDEX idx_friend_requests_sender_created ON friend_requests (from_user, " ++
      "created_at);",
    "CREATE INDEX idx_friend_requests_recipient ON friend_requests (to_user) WHERE status = " ++
      "'PENDING';",
    "CREATE TABLE conversations ( id TEXT PRIMARY KEY, user_a UUID NOT NULL, user_b UUID NOT " ++
      "NULL, created_at TIMESTAMPTZ NOT NULL, archived_at TIMESTAMPTZ, archive_reason " ++
      "archive_reason, accessible_to_user_a BOOLEAN NOT NULL DEFAULT TRUE, accessible_to_user_b " ++
      "BOOLEAN NOT NULL DEFAULT TRUE, CHECK ((archived_at IS NULL) = (archive_reason IS NULL)) " ++
      ");",
    "CREATE TABLE notifications ( id UUID PRIMARY KEY, recipient UUID NOT NULL, type " ++
      "notification_type NOT NULL, payload JSONB NOT NULL, created_at TIMESTAMPTZ NOT NULL, " ++
      "read_at TIMESTAMPTZ, dismissed_at TIMESTAMPTZ );",
    "CREATE INDEX idx_notifications_recipient ON notifications (recipient, created_at DESC);"]

/-- Pending requests expire with their match. -/
def friendRequestExpiry : List String :=
  ["-- Pending requests are closed when their match leaves ACTIVE",
    "ALTER TYPE friend_request_status ADD VALUE IF NOT EXISTS 'EXPIRED';",
    "CREATE INDEX idx_friend_requests_match_pending ON friend_requests (match_id) WHERE " ++
      "status = 'PENDING';"]

def ofStatements (version : Int) (description : String) (statements : List String) : Migration :=
  ⟨version, description, String.intercalate " " statements⟩

/-- In the order of their versions. -/
def all : List Migration :=
  [ofStatements 20260101000000 "relationships" relationships,
    ofStatements 20260301000000 "friend request expiry" friendRequestExpiry]

def statement (m : Migration) : Statement := ⟨m.text, []⟩

end Migration

end Courtship.Sql
