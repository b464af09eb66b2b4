import SchemaMigration.Engine.Recovery
import SchemaMigration.Engine.Rollback
import SchemaMigration.Engine.Status
import SchemaMigration.Tracking.Interchange

/-! # Reports as JSON

The interchange form of reports. Optional members that are missing are left out.
-/

namespace SchemaMigration

open Text (Json)

/-- An entry of a status report. Only an entry without a migration says so. -/
def StatusEntry.toJson (e : StatusEntry) : Json :=
  .present [
    ("id", some e.id.toJson),
    ("description", e.description.map .string),
    ("state", some (.string e.state.text)),
    ("reversible", some (.bool e.reversible)),
    ("started_at", e.startedAt.map Time.Instant.toJson),
    ("finished_at", e.finishedAt.map Time.Instant.toJson),
    ("failure_reason", e.failureReason.map .string),
    ("drifted", some (.bool e.drifted)),
    ("orphaned", if e.orphaned then some (.bool true) else none)]

def entriesToJson (entries : List StatusEntry) : Json :=
  .array (entries.map StatusEntry.toJson)

def StatusReport.toJson (r : StatusReport) : Json :=
  .object [
    ("entries", entriesToJson r.entries),
    ("orphaned", .array (r.orphaned.map MigrationRecord.toJson))]

def StatusCounts.toJson (c : StatusCounts) : Json :=
  .object [
    ("total", .number c.total),
    ("pending", .number c.pending),
    ("in_progress", .number c.inProgress),
    ("completed", .number c.completed),
    ("failed", .number c.failed)]

def ChecksumMismatch.toJson (d : ChecksumMismatch) : Json :=
  .object [("id", d.id.toJson), ("recorded", .string d.recorded), ("current", .string d.current)]

def RunReport.members (r : RunReport) : List (String × Json) := [
  ("applied", idsToJson r.applied),
  ("planned", idsToJson r.planned),
  ("skipped_dirty", idsToJson r.skippedDirty),
  ("drifted", idsToJson r.drifted),
  ("already_applied", .number r.alreadyApplied),
  ("dry_run", .bool r.dryRun)]

def RollbackReport.members (r : RollbackReport) : List (String × Json) := [
  ("rolled_back", idsToJson r.rolledBack),
  ("planned", idsToJson r.planned),
  ("dry_run", .bool r.dryRun)]

def MarkAllSummary.members (s : MarkAllSummary) : List (String × Json) := [
  ("total", .number s.total),
  ("already_completed", .number s.alreadyCompleted),
  ("newly_marked", .number s.newlyMarked),
  ("failed_marked", .number s.failedMarked),
  ("in_progress_marked", .number s.inProgressMarked),
  ("failed_skipped", .number s.failedSkipped),
  ("in_progress_skipped", .number s.inProgressSkipped)]

end SchemaMigration
