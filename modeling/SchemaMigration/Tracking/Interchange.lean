import SchemaMigration.Migration.Interchange
import SchemaMigration.Tracking.Record

/-! # Records as JSON

States and statuses are words; a record has its id, its status and the times and texts that are
present.
-/

namespace SchemaMigration

open Text (Json)

def Time.Instant.toJson (t : Time.Instant) : Json :=
  .string t.toInterchangeText

def MigrationStatus.ofWord (word : String) : Except String MigrationStatus :=
  match ofText? word with
  | some s => .ok s
  | none => .error (Json.unknownWord word (all.map text))

def MigrationState.ofWord (word : String) : Except String MigrationState :=
  match ofText? word with
  | some s => .ok s
  | none => .error (Json.unknownWord word (all.map text))

def MigrationRecord.toJson (r : MigrationRecord) : Json :=
  .present [
    ("id", some r.id.toJson),
    ("status", some (.string r.status.text)),
    ("started_at", some r.startedAt.toJson),
    ("finished_at", r.finishedAt.map Time.Instant.toJson),
    ("checksum", r.checksum.map .string),
    ("failure_reason", r.failureReason.map .string)]

end SchemaMigration
