import SchemaMigration.Engine.Survey

/-! # Runs

A run applies the pending migrations of a source in ascending order of their ids. It refuses to begin
while a migration is failed or in progress, unless it is forced (`checkDirty`). Each migration is
recorded as in progress before its action is executed and as completed or failed after; the first failure
ends the run.
-/

namespace SchemaMigration

inductive RunTarget where
  | all
  /-- Up to an id and including it. -/
  | upTo (id : MigrationId)
  /-- A number of migrations at most. -/
  | steps (n : Nat)
  deriving DecidableEq

/-- What a run is asked for. -/
structure RunOptions where
  /-- Go on in spite of failed and in-progress migrations, which are left as they are. -/
  force : Bool := false
  /-- Only tell what would be applied. -/
  dryRun : Bool := false
  target : RunTarget := .all
  /-- Refuse to run when the definition of a completed migration has changed. -/
  strictChecksums : Bool := false
  deriving DecidableEq

/-- What a run did. -/
structure RunReport where
  applied : List MigrationId
  /-- What a dry run would have applied. -/
  planned : List MigrationId
  /-- Failed and in-progress migrations that a forced run passed over. -/
  skippedDirty : List MigrationId
  /-- Completed migrations whose definition has changed. -/
  drifted : List MigrationId
  alreadyApplied : Nat
  dryRun : Bool
  deriving DecidableEq

/-- Whether there was nothing to apply. -/
def RunReport.isNoop (r : RunReport) : Bool :=
  r.applied.isEmpty && r.planned.isEmpty

/-- The migrations among the pending ones that a run with a target selects. -/
def RunTarget.select (pending : List Migration) : RunTarget → List Migration
  | all => pending
  | upTo id => pending.filter fun m => m.id ≤ id
  | steps n => pending.take n

def pendingOf (records : List MigrationRecord) (migrations : List Migration) : List Migration :=
  migrations.filter fun m => stateOf records m.id = .pending

/-- The migrations that are failed or in progress. -/
def dirtyOf (records : List MigrationRecord) (migrations : List Migration) : List Migration :=
  migrations.filter fun m => (stateOf records m.id).isDirty

/-- The warning about a migration that a run passes over or, by `drift?`, finds changed. -/
def warning? (records : List MigrationRecord) (m : Migration) : Option String :=
  let state := stateOf records m.id
  if state.isDirty then
    some ("Skipping " ++ state.text ++ " migration " ++ m.id.text ++ " (forced run)")
  else (drift? records m).map fun d =>
    "Migration " ++ d.id.text ++ " changed since it was applied (checksum " ++ d.recorded ++
      " -> " ++ d.current ++ ")"

namespace Runner

/-- Refuses to go on when there are failed or in-progress records, unless the run is forced. -/
def checkDirty (force : Bool) (records : List MigrationRecord) : Engine Unit := do
  match records.filter fun r => r.state.isDirty with
  | [] => return
  | dirty@(first :: _) =>
    if !force then throw (.dirtyState first.id first.state (dirty.map MigrationRecord.id))
    Engine.note .warn ("Tracking table has " ++ toString dirty.length ++
      " dirty record(s); continuing because of --force")

/-- Refuses a target that the source does not have. -/
def checkTarget (migrations : List Migration) : RunTarget → Engine Unit
  | .upTo id => do
    if !migrations.any (·.id = id) then throw (.notFound id.text)
  | _ => return

/-- Warns about migrations in order. A strict run stops at the first one that has changed. -/
def checkDrift (strict : Bool) (records : List MigrationRecord) (migrations : List Migration) :
    Engine Unit := do
  let mismatch? := if strict then migrations.findSome? (drift? records) else none
  let noted :=
    if strict then migrations.takeWhile fun m => (drift? records m).isNone else migrations
  (noted.filterMap (warning? records)).forM (Engine.note .warn)
  if let some d := mismatch? then throw (.checksumMismatch d.id d.recorded d.current)

/-- Executes the forward action of a migration that is in progress and records the outcome. -/
def applyForward (t : Tracker) (m : Migration) : Engine Unit := do
  match ← Engine.perform m.id .up m.up with
  | .ok () =>
    t.complete m.id m.checksum
    Engine.note .info ("Applied " ++ m.id.text)
  | .error error =>
    t.fail m.id error.message
    Engine.note .error ("Migration " ++ m.id.text ++ " failed: " ++ error.message)
    throw (.execution ⟨m.id, .up, .failed, error.message, []⟩)

/-- Applies migrations one after the other; `applied` holds those of the same run before them. -/
def applyAll (t : Tracker) : (applied : List MigrationId) → List Migration →
    Engine (List MigrationId)
  | applied, [] => return applied
  | applied, m :: rest => do
    t.begin m.id
    tryCatch (applyForward t m) fun e => throw (e.after applied)
    applyAll t (applied ++ [m.id]) rest

/-- Applies pending migrations. -/
def run (r : Runner) (o : RunOptions) : Engine RunReport := do
  let migrations ← r.discover
  let records ← if o.dryRun then r.tracker.listIfCreated else do
    r.tracker.ensure
    r.tracker.list
  checkDirty o.force records
  checkTarget migrations o.target
  checkDrift o.strictChecksums records migrations
  let selected := o.target.select (pendingOf records migrations)
  let report (applied planned : List MigrationId) : RunReport :=
    { applied
      planned
      skippedDirty := idsOf (dirtyOf records migrations)
      drifted := migrations.filterMap fun m => (drift? records m).map ChecksumMismatch.id
      alreadyApplied := migrations.countP fun m => stateOf records m.id = .completed
      dryRun := o.dryRun }
  if o.dryRun then
    selected.forM fun m => Engine.note .info ("Would apply " ++ m.id.text)
    return report [] (idsOf selected)
  let applied ← applyAll r.tracker [] selected
  if applied.isEmpty then Engine.note .info "No pending migrations"
  return report applied []

end Runner

end SchemaMigration
