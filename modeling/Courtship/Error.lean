import Courtship.Match
import Courtship.Time.Text

/-! What can go wrong: in the storage, and in an operation on it. -/

namespace Courtship

/-- No answer: an error to report, or a time beyond the range of instants. -/
inductive Failure (ε : Type) where
  | error (e : ε)
  | overflow
  deriving DecidableEq

/-! ## Storage -/

/-- Errors of talking to a database server. -/
inductive SqlError where
  /-- Reported by the server, with its state code. -/
  | database (code : Option String) (message : String)
  | rowNotFound
  | columnNotFound (column : String)
  | columnDecode (column : String)
  | configuration
  | encode
  | other
  deriving DecidableEq

inductive MigrationError where
  | failed (version : Int) (cause : SqlError)
  | missing (version : Int)
  | mismatch (version : Int)
  | dirty (version : Int)
  | execute
  | other
  deriving DecidableEq

inductive StorageError where
  | conflict (what : String)
  | notFound (what : String)
  | corrupt (what : String)
  | sql (e : SqlError)
  | migration (e : MigrationError)
  deriving DecidableEq

namespace SqlError

def message : SqlError → String
  | database _ message => s!"error returned from database: {message}"
  | rowNotFound => "no rows returned by a query that expected to return at least one row"
  | columnNotFound column => s!"no column found for name: {column}"
  | columnDecode column => s!"error occurred while decoding column \"{column}\""
  | configuration => "error with configuration"
  | encode => "error occurred while encoding a value"
  | other => "error communicating with database"

/-- Unique violations, serialization failures and deadlocks: another transaction was in the way. -/
def isConflict : SqlError → Bool
  | database (some code) _ => code = "23505" || code = "40001" || code = "40P01"
  | _ => false

end SqlError

namespace MigrationError

def message : MigrationError → String
  | failed version cause => s!"while executing migration {version}: {cause.message}"
  | missing version =>
    s!"migration {version} was previously applied but is missing in the resolved migrations"
  | mismatch version => s!"migration {version} was previously applied but has been modified"
  | dirty version =>
    s!"migration {version} is partially applied; fix and remove row from `_sqlx_migrations` table"
  | execute => "while executing migrations"
  | other => "migrations failed"

end MigrationError

namespace StorageError

def message : StorageError → String
  | conflict what => s!"Write conflict: {what}"
  | notFound what => s!"Not found: {what}"
  | corrupt what => s!"Corrupt record: {what}"
  | sql e => s!"SQLx error: {e.message}"
  | migration e => s!"Migration error: {e.message}"

def isConflict : StorageError → Bool
  | conflict _ => true
  | sql e => e.isConflict
  | _ => false

end StorageError

/-! ## Locks -/

/-- The lock of `user` did not become free within `waited` nanoseconds. -/
structure LockTimeout where
  user : UserId
  waited : Nat
  deriving DecidableEq

def LockTimeout.message (t : LockTimeout) : String :=
  s!"timed out after {spanText t.waited} waiting for lock on user {t.user.text}"

/-! ## Operations -/

inductive EngineError where
  | invalidTransition (source target : MatchState)
  | alreadyTerminal (state : MatchState)
  | notAuthorized
  | blocked
  | relationshipTerminated (state : MatchState)
  | messageTooShort (min : Nat)
  | requestPending
  | alreadyResponded
  | rateLimited (limit : Nat)
  | noActiveMatch
  | matchNotFound
  | requestNotFound
  | nothingToUndo
  | undoWindowExpired (windowSecs : Nat)
  | invalidRequest (why : String)
  | lockTimeout (waited : Nat)
  | storageConflict (source : StorageError)
  | storage (source : StorageError)
  deriving DecidableEq

namespace EngineError

def ofTransition : TransitionError → EngineError
  | .invalid source target => .invalidTransition source target
  | .alreadyTerminal state => .alreadyTerminal state
  | .notAuthorized => .notAuthorized

def ofLockTimeout (t : LockTimeout) : EngineError := .lockTimeout t.waited

def ofStorage (e : StorageError) : EngineError :=
  if e.isConflict then .storageConflict e else .storage e

/-- Safe to show to a user: nothing of a storage error but its class. -/
def message : EngineError → String
  | invalidTransition source target => (TransitionError.invalid source target).message
  | alreadyTerminal state => (TransitionError.alreadyTerminal state).message
  | notAuthorized => TransitionError.notAuthorized.message
  | blocked => "one of these users has blocked the other"
  | relationshipTerminated _ => "this relationship has ended and cannot be swiped on again"
  | messageTooShort min => s!"message must be at least {min} characters"
  | requestPending => "a friend request is already pending for this match"
  | alreadyResponded => "friend request was already answered"
  | rateLimited limit => s!"daily friend request limit of {limit} reached"
  | noActiveMatch => "an active match is required"
  | matchNotFound => "no relationship found between these users"
  | requestNotFound => "friend request not found"
  | nothingToUndo => "no swipe to undo"
  | undoWindowExpired windowSecs => s!"undo window of {windowSecs}s has expired"
  | invalidRequest why => s!"invalid request: {why}"
  | lockTimeout waited =>
    s!"timed out after {spanText waited} waiting for a concurrent operation on this user"
  | storageConflict _ => "concurrent update detected, please retry"
  | storage _ => "storage unavailable"

def code : EngineError → String
  | invalidTransition .. => "invalid_transition"
  | alreadyTerminal _ => "already_terminal"
  | notAuthorized => "not_authorized"
  | blocked => "blocked"
  | relationshipTerminated _ => "relationship_terminated"
  | messageTooShort _ => "message_too_short"
  | requestPending => "request_pending"
  | alreadyResponded => "already_responded"
  | rateLimited _ => "rate_limited"
  | noActiveMatch => "no_active_match"
  | matchNotFound => "match_not_found"
  | requestNotFound => "request_not_found"
  | nothingToUndo => "nothing_to_undo"
  | undoWindowExpired _ => "undo_window_expired"
  | invalidRequest _ => "invalid_request"
  | lockTimeout _ => "lock_timeout"
  | storageConflict _ => "storage_conflict"
  | storage _ => "storage_error"

/-- The status code that tells of it over HTTP. -/
def status : EngineError → Nat
  | notAuthorized => 403
  | matchNotFound | noActiveMatch | requestNotFound | nothingToUndo => 404
  | invalidTransition .. | alreadyTerminal _ | relationshipTerminated _ | blocked
  | requestPending | alreadyResponded | storageConflict _ => 409
  | messageTooShort _ | invalidRequest _ | undoWindowExpired _ => 422
  | rateLimited _ => 429
  | lockTimeout _ => 503
  | storage _ => 500

/-- Only contention may pass by itself. -/
def isRetryable : EngineError → Bool
  | lockTimeout _ | storageConflict _ => true
  | _ => false

def source? : EngineError → Option StorageError
  | storageConflict e | storage e => some e
  | _ => none

end EngineError

end Courtship
