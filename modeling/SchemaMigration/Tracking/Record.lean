import SchemaMigration.Database.TrackingTable
import SchemaMigration.Migration.Id
import SchemaMigration.Tracking.State

/-! # Records of the tracking table

A record is a row whose columns make sense: an id, a status that is known and times that can be read. A
row is decoded (`TrackingRow.decode`) column by column from the left, and the first column that makes no
sense is reported.
-/

namespace SchemaMigration

/-- What the tracking table says about a migration. -/
structure MigrationRecord where
  id : MigrationId
  status : MigrationStatus
  startedAt : Time.Instant
  finishedAt : Option Time.Instant
  checksum : Option String
  failureReason : Option String
  deriving DecidableEq

/-- Why a row is no record. -/
inductive RecordFault where
  | invalidId
  | missingStatus
  | unknownStatus (word : String)
  | missingStart
  | badTimestamp (text : String) (fault : Time.ParseFault)
  deriving Repr, DecidableEq

def RecordFault.message : RecordFault → String
  | invalidId => "invalid id"
  | missingStatus => "missing status"
  | unknownStatus word => MigrationStatus.unknown word
  | missingStart => "missing started_at"
  | badTimestamp text fault => "bad timestamp '" ++ text ++ "': " ++ fault.message

/-- The instant of a stored timestamp, read from its text. -/
def Timestamp.toInstant (t : Timestamp) : Except RecordFault Time.Instant :=
  (Time.Instant.parse t.text).mapError (.badTimestamp t.text)

def TrackingRow.decode (row : TrackingRow) : Except RecordFault MigrationRecord := do
  let some id := MigrationId.ofText? (row.id.getD "") | .error .invalidId
  let some word := row.status | .error .missingStatus
  let some status := MigrationStatus.ofText? word | .error (.unknownStatus word)
  let some start := row.startedAt | .error .missingStart
  let startedAt ← start.toInstant
  let finishedAt ← row.finishedAt.mapM Timestamp.toInstant
  return ⟨id, status, startedAt, finishedAt, row.checksum, row.failureReason⟩

def MigrationRecord.state (r : MigrationRecord) : MigrationState :=
  r.status.toState

/-- The state of a migration, given its record if it has one. -/
def MigrationState.ofRecord (r : Option MigrationRecord) : MigrationState :=
  (r.map MigrationRecord.state).getD .pending

end SchemaMigration
