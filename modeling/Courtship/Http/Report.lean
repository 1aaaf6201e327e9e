import Courtship.Error
import Courtship.Json.Records
import Courtship.Operation.Command

/-! Reports for whoever runs the service: the results of commands and questions, and errors with
all that is known of them. The text of an error from outside the library is left out. -/

namespace Courtship

/-! ## Storage errors -/

def SqlError.report : SqlError → Json
  | .database code message =>
    .object [("kind", .string "Database"), ("code", optionJson code), ("message", .string message)]
  | .rowNotFound => .object [("kind", .string "RowNotFound")]
  | .columnNotFound c => .object [("kind", .string "ColumnNotFound"), ("column", .string c)]
  | .columnDecode c => .object [("kind", .string "ColumnDecode"), ("column", .string c)]
  | .configuration => .object [("kind", .string "Configuration")]
  | .encode => .object [("kind", .string "Encode")]
  | .other => .object [("kind", .string "Other")]

def MigrationError.report : MigrationError → Json
  | .failed version _ => .array [.string "ExecuteMigration", .int version]
  | .missing version => .array [.string "VersionMissing", .int version]
  | .mismatch version => .array [.string "VersionMismatch", .int version]
  | .dirty version => .array [.string "Dirty", .int version]
  | .execute => .array [.string "Execute"]
  | .other => .array [.string "Other"]

namespace StorageError

def kind : StorageError → String
  | conflict _ => "Conflict"
  | notFound _ => "NotFound"
  | corrupt _ => "Corrupt"
  | sql _ => "SqlxError"
  | migration _ => "MigrateError"

/-- The text, if it is the library's own. -/
def ownMessage : StorageError → Json
  | sql _ | migration _ => .null
  | e => .string e.message

def summary (e : StorageError) : List (String × Json) :=
  [("error", .string e.kind), ("message", e.ownMessage), ("conflict", .bool e.isConflict)]

def detail : StorageError → List (String × Json)
  | sql e => [("sqlx", e.report)]
  | migration e => [("migrate", e.report)]
  | _ => []

def report (e : StorageError) : Json := .object (e.summary ++ e.detail)

end StorageError

/-! ## Errors of operations -/

namespace EngineError

def summary (e : EngineError) : List (String × Json) :=
  [("error", .string e.code), ("message", .string e.message), ("retryable", .bool e.isRetryable),
    ("status", .ofNat e.status),
    ("source", (e.source?.map StorageError.ownMessage).getD .null)]

/-- An error of the database comes with its details. -/
def report (e : EngineError) : Json :=
  .object (e.summary ++ match e.source? with
    | some (.sql s) => [("storage", (StorageError.sql s).report)]
    | _ => [])

end EngineError

/-! ## Results -/

def Command.report : (c : Command) → c.Answer → Json
  | .swipe .., r => r.toJson
  | .undoLastSwipe _, r => r.toJson
  | .propose .., r => toJson r
  | .respond .., r => toJson r
  | .gracefulExit _, m => toJson m
  | .unmatch _, m => toJson m
  | .block _, m => optionJson m
  | .unblock _, b => .bool b

def Question.report : (q : Question) → q.Answer → Json
  | .matchesFor _, ms => toJson ms
  | .blockedBy _, bs => toJson bs
  | .pendingRequestsFor _, rs => toJson rs
  | .notificationsFor _, ns => toJson ns
  | .conversation .., c => optionJson c
  | .canMessage _, b => .bool b

end Courtship
