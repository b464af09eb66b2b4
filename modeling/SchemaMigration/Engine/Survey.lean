import SchemaMigration.Source.Basic
import SchemaMigration.Tracking.Tracker

/-! # Migrations beside their records

A `Runner` joins the migrations of a source with the records of a tracking table. Everything that is said
about a migration and its record is said here, once for runs, reports and checks.
-/

namespace SchemaMigration

/-- A source of migrations and the tracking table that belongs to it. Nothing else may write that
    table while an operation is going on. -/
structure Runner where
  source : Source
  tracker : Tracker

namespace Runner

/-- The migrations of the source, in order. -/
def discover (r : Runner) : Engine (List Migration) :=
  Engine.ofExcept (r.source.list.mapError .discovery)

end Runner

def findMigration (id : String) (migrations : List Migration) : Except EngineError Migration :=
  match migrations.find? fun m => m.id.text == id with
  | some m => .ok m
  | none => .error (.notFound id)

/-- The record of a migration. Of several records with one id, the last one counts. -/
def recordOf? (records : List MigrationRecord) (id : MigrationId) : Option MigrationRecord :=
  records.reverse.find? fun r => r.id = id

def stateOf (records : List MigrationRecord) (id : MigrationId) : MigrationState :=
  .ofRecord (recordOf? records id)

/-- Records without those that are followed by another one with the same id. -/
def lastOfEach : List MigrationRecord → List MigrationRecord
  | [] => []
  | r :: rest => if rest.any (·.id = r.id) then lastOfEach rest else r :: lastOfEach rest

/-- The records without a migration in the source. -/
def orphans (migrations : List Migration) (records : List MigrationRecord) :
    List MigrationRecord :=
  (lastOfEach records).filter fun r => !migrations.any (·.id = r.id)

/-- A completed migration whose definition has changed since it was applied. -/
structure ChecksumMismatch where
  id : MigrationId
  recorded : String
  current : String
  deriving DecidableEq

/-- The mismatch of a migration. There is none without a recorded checksum. -/
def drift? (records : List MigrationRecord) (m : Migration) : Option ChecksumMismatch := do
  let record ← recordOf? records m.id
  if record.status ≠ .completed then none
  let recorded ← record.checksum
  let current := m.checksum
  if recorded = current then none else some ⟨m.id, recorded, current⟩

def idsOf (migrations : List Migration) : List MigrationId :=
  migrations.map Migration.id

end SchemaMigration
