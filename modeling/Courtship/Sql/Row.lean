import Courtship.Error
import Courtship.Json.Reader
import Courtship.Json.Records

/-! Rows that a server replies with, and reading records from them column by column. -/

namespace Courtship.Sql

inductive Cell where
  | null
  | uuid (u : Uuid)
  | text (s : String)
  /-- A member of the enumeration `type`, by its name. -/
  | label (type name : String)
  | bool (b : Bool)
  | int4 (n : Int)
  | int8 (n : Int)
  /-- In microseconds since 2000. -/
  | time (micros : Int)
  /-- The text of a JSON value. -/
  | json (text : String)

/-- The cells under the names of their columns. -/
abbrev Row := List (String × Cell)

/-- The first column that cannot be read decides. -/
abbrev Reading (α : Type) := Except (Failure SqlError) α

/-! ## Columns -/

/-- Types that a cell can be read as. Only a cell of the fitting type can be. -/
class Column (α : Type) where
  ofCell : Cell → Option (Except Unit α)

/-- A time out of range is no mismatch. -/
def Column.read {α : Type} [Column α] (name : String) (c : Cell) : Reading α :=
  match Column.ofCell c with
  | some (.ok a) => .ok a
  | some (.error _) => .error .overflow
  | none => .error (.error (.columnDecode name))

def fitting {α : Type} (a : Option α) : Option (Except Unit α) := a.map .ok

instance : Column Uuid where
  ofCell
    | .uuid u => fitting (some u)
    | _ => none

instance : Column UserId where
  ofCell
    | .uuid u => fitting (some ⟨u⟩)
    | _ => none

instance : Column String where
  ofCell
    | .text s => fitting (some s)
    | _ => none

instance : Column PairId where
  ofCell
    | .text s => fitting (some ⟨s⟩)
    | _ => none

instance : Column Bool where
  ofCell
    | .bool b => fitting (some b)
    | _ => none

/-- Integers are read from the wide type only. -/
instance : Column Int where
  ofCell
    | .int8 n => fitting (some n)
    | _ => none

instance : Column Instant where
  ofCell
    | .time micros =>
      match Instant.ofMicros2000? micros with
      | some t => some (.ok t)
      | none => some (.error ())
    | _ => none

/-- One of `all`, from the enumeration of this name. -/
def ofLabel {α : Type} (enumeration : String) (all : List α) (name : α → String) :
    Cell → Option (Except Unit α)
  | .label type n => if type = enumeration then fitting (all.find? fun a => name a = n) else none
  | _ => none

instance : Column Direction where
  ofCell := ofLabel "swipe_direction" Direction.all Direction.name

instance : Column MatchState where
  ofCell := ofLabel "match_state" MatchState.all MatchState.name

instance : Column ArchiveReason where
  ofCell := ofLabel "archive_reason" ArchiveReason.all ArchiveReason.name

instance : Column FriendRequestStatus where
  ofCell := ofLabel "friend_request_status" FriendRequestStatus.all FriendRequestStatus.name

instance : Column NotificationType where
  ofCell := ofLabel "notification_type" NotificationType.all NotificationType.name

instance : Column NotificationPayload where
  ofCell
    | .json text => fitting ((Json.ofText? text).bind ofJson?)
    | _ => none

/-! ## Rows -/

/-- The cell under a name; of several, the last one. -/
def cellOf (r : Row) (name : String) : Reading Cell :=
  match r.reverse.find? fun c => c.1 = name with
  | some c => .ok c.2
  | none => .error (.error (.columnNotFound name))

def column {α : Type} [Column α] (r : Row) (name : String) : Reading α := do
  Column.read name (← cellOf r name)

/-- A null is no value, whatever its type. -/
def column? {α : Type} [Column α] (r : Row) (name : String) : Reading (Option α) := do
  match ← cellOf r name with
  | .null => .ok none
  | c => some <$> Column.read name c

/-! ## Records -/

def readLike (r : Row) : Reading Like := do
  let id ← column r "id"
  let fromUser ← column r "from_user"
  let toUser ← column r "to_user"
  let direction ← column r "direction"
  let createdAt ← column r "created_at"
  let deletedAt ← column? r "deleted_at"
  .ok ⟨id, fromUser, toUser, direction, createdAt, deletedAt⟩

def readMatch (r : Row) : Reading Match := do
  let id ← column r "id"
  let userA ← column r "user_a"
  let userB ← column r "user_b"
  let state ← column r "state"
  let endReason ← column? r "end_reason"
  let endedBy ← column? r "ended_by"
  let createdAt ← column r "created_at"
  let stateChangedAt ← column r "state_changed_at"
  .ok ⟨id, userA, userB, state, endReason, endedBy, createdAt, stateChangedAt⟩

def readBlock (r : Row) : Reading Block := do
  let blocker ← column r "blocker"
  let blocked ← column r "blocked"
  let createdAt ← column r "created_at"
  .ok ⟨blocker, blocked, createdAt⟩

def readRequest (r : Row) : Reading FriendRequest := do
  let id ← column r "id"
  let matchId ← column r "match_id"
  let fromUser ← column r "from_user"
  let toUser ← column r "to_user"
  let message ← column r "message"
  let status ← column r "status"
  let createdAt ← column r "created_at"
  let respondedAt ← column? r "responded_at"
  .ok ⟨id, matchId, fromUser, toUser, message, status, createdAt, respondedAt⟩

def readConversation (r : Row) : Reading Conversation := do
  let id ← column r "id"
  let userA ← column r "user_a"
  let userB ← column r "user_b"
  let createdAt ← column r "created_at"
  let archivedAt ← column? r "archived_at"
  let archiveReason ← column? r "archive_reason"
  let accessibleToA ← column r "accessible_to_user_a"
  let accessibleToB ← column r "accessible_to_user_b"
  .ok ⟨id, userA, userB, createdAt, archivedAt, archiveReason, accessibleToA, accessibleToB⟩

/-- The payload is read before everything else. -/
def readNotification (r : Row) : Reading Notification := do
  let payload ← column r "payload"
  let id ← column r "id"
  let recipient ← column r "recipient"
  let type ← column r "type"
  let createdAt ← column r "created_at"
  let readAt ← column? r "read_at"
  let dismissedAt ← column? r "dismissed_at"
  .ok ⟨id, recipient, type, payload, createdAt, readAt, dismissedAt⟩

end Courtship.Sql
