import SchemaMigration.Engine.Survey

/-! # Status reports

Every migration of a source with its state, and the records that belong to no migration of the
source. Reports read the tracking table and never make or change it.
-/

namespace SchemaMigration

/-- A migration with its state, or a record without a migration. -/
structure StatusEntry where
  id : MigrationId
  description : Option String
  state : MigrationState
  reversible : Bool
  startedAt : Option Time.Instant
  finishedAt : Option Time.Instant
  failureReason : Option String
  /-- Completed, and its definition has changed since. -/
  drifted : Bool
  /-- Without a migration in the source. -/
  orphaned : Bool
  deriving DecidableEq

/-- How many migrations are in which state. -/
structure StatusCounts where
  total : Nat
  pending : Nat
  inProgress : Nat
  completed : Nat
  failed : Nat
  deriving Repr, DecidableEq

/-- The migrations of a source with their states, and the records that belong to none of them. -/
structure StatusReport where
  entries : List StatusEntry
  orphaned : List MigrationRecord
  deriving DecidableEq

namespace StatusEntry

def ofMigration (records : List MigrationRecord) (m : Migration) : StatusEntry :=
  let record := recordOf? records m.id
  { id := m.id
    description := m.description
    state := .ofRecord record
    reversible := m.isReversible
    startedAt := record.map MigrationRecord.startedAt
    finishedAt := record.bind MigrationRecord.finishedAt
    failureReason := record.bind MigrationRecord.failureReason
    drifted := (drift? records m).isSome
    orphaned := false }

def ofOrphan (r : MigrationRecord) : StatusEntry :=
  { id := r.id
    description := none
    state := r.state
    reversible := false
    startedAt := some r.startedAt
    finishedAt := r.finishedAt
    failureReason := r.failureReason
    drifted := false
    orphaned := true }

end StatusEntry

namespace StatusReport

def counts (r : StatusReport) : StatusCounts :=
  let count (state : MigrationState) : Nat := r.entries.countP (·.state = state)
  { total := r.entries.length
    pending := count .pending
    inProgress := count .inProgress
    completed := count .completed
    failed := count .failed }

/-- The failed and in-progress migrations, followed by the failed and in-progress records that
    belong to none. -/
def failed (r : StatusReport) : List StatusEntry :=
  r.entries.filter (·.state.isDirty) ++
    (r.orphaned.filter (·.state.isDirty)).map StatusEntry.ofOrphan

/-- Whether anything stands in the way of a run: an entry of `failed`. -/
def isDirty (r : StatusReport) : Bool :=
  r.entries.any (·.state.isDirty) || r.orphaned.any (·.state.isDirty)

end StatusReport

namespace Runner

/-- Joins the migrations of the source with their records. -/
def status (r : Runner) : Engine StatusReport := do
  let migrations ← r.discover
  let records ← r.tracker.listIfCreated
  return ⟨migrations.map (StatusEntry.ofMigration records), orphans migrations records⟩

/-- The completed migrations whose definition has changed since they were applied. -/
def validate (r : Runner) : Engine (List ChecksumMismatch) := do
  let migrations ← r.discover
  let records ← r.tracker.listIfCreated
  let mismatches := migrations.filterMap (drift? records)
  mismatches.forM fun d => Engine.note .warn ("Checksum mismatch for " ++ d.id.text)
  return mismatches

end Runner

end SchemaMigration
