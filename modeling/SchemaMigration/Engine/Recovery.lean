import SchemaMigration.Engine.Run

/-! # Repairs

Operations that change what is recorded, at the request of an operator: running a failed migration
again, recording migrations as completed without running them, and starting over with an empty
table. Repairs can hide problems, so that all but the first need consent, which is a value here and
asked for elsewhere.
-/

namespace SchemaMigration

/-- Consent to mark migrations as completed. -/
structure Consent where
  /-- The operator said yes when asked. -/
  confirmed : Bool
  /-- The operator asked not to be asked. -/
  force : Bool
  deriving Repr, DecidableEq

namespace Consent

/-- The consent of an operator who said yes. -/
def ofAnswer : Consent := ⟨true, false⟩

/-- The consent of an operator who asked not to be asked. -/
def ofForce : Consent := ⟨false, true⟩

def isGiven (c : Consent) : Bool :=
  c.confirmed || c.force

end Consent

/-- Consent to drop the tracking table: a yes, and the name of the table once more. -/
structure DropConsent where
  confirmed : Bool
  tableName : String
  deriving Repr, DecidableEq

/-- Which of the migrations that are not completed are marked. -/
inductive MarkScope where
  | pendingOnly
  | includeFailed
  | includeInProgress
  | all
  deriving Repr, DecidableEq

namespace MarkScope

/-- The scope that switches ask for. Both of the narrower ones together mean all. -/
def ofSwitches (failed inProgress everything : Bool) : MarkScope :=
  if everything || (failed && inProgress) then all
  else if failed then includeFailed
  else if inProgress then includeInProgress
  else pendingOnly

def text : MarkScope → String
  | pendingOnly => "pending_only"
  | includeFailed => "include_failed"
  | includeInProgress => "include_in_progress"
  | all => "all"

def describe : MarkScope → String
  | pendingOnly => "PendingOnly"
  | includeFailed => "IncludeFailed"
  | includeInProgress => "IncludeInProgress"
  | all => "All"

def ofText? (word : String) : Option MarkScope :=
  [pendingOnly, includeFailed, includeInProgress, all].find? (·.text == word)

def includes (scope : MarkScope) : MigrationState → Bool
  | .pending => true
  | .completed => false
  | .failed => scope = includeFailed || scope = all
  | .inProgress => scope = includeInProgress || scope = all

end MarkScope

/-- What marking all migrations came to. -/
structure MarkAllSummary where
  /-- The migrations of the source, and the failed and in-progress records that belong to none. -/
  total : Nat
  alreadyCompleted : Nat
  /-- Pending migrations that were marked. -/
  newlyMarked : Nat
  failedMarked : Nat
  inProgressMarked : Nat
  failedSkipped : Nat
  inProgressSkipped : Nat
  deriving Repr, DecidableEq

def MarkAllSummary.marked (s : MarkAllSummary) : Nat :=
  s.newlyMarked + s.failedMarked + s.inProgressMarked

/-- A migration that may be marked, with the checksum it gets. Without one, the record keeps the
    checksum it has. -/
structure MarkCandidate where
  id : MigrationId
  checksum : Option String
  state : MigrationState
  deriving DecidableEq

/-- All that may be marked: the migrations of the source, and the failed and in-progress records
    that belong to none. -/
def markCandidates (migrations : List Migration) (records : List MigrationRecord) :
    List MarkCandidate :=
  (migrations.map fun m => ⟨m.id, some m.checksum, stateOf records m.id⟩) ++
    ((orphans migrations records).filter (·.state.isDirty)).map fun r => ⟨r.id, none, r.state⟩

/-- The candidates that a scope `includes`. -/
def MarkScope.select (scope : MarkScope) (candidates : List MarkCandidate) : List MarkCandidate :=
  candidates.filter fun c => scope.includes c.state

/-- What marking the candidates that a scope includes comes to. -/
def MarkAllSummary.of (scope : MarkScope) (candidates : List MarkCandidate) : MarkAllSummary :=
  let count (state : MigrationState) : Nat := candidates.countP (·.state = state)
  let countIf (marked : Bool) (state : MigrationState) : Nat := if marked then count state else 0
  { total := candidates.length
    alreadyCompleted := count .completed
    newlyMarked := count .pending
    failedMarked := countIf (scope.includes .failed) .failed
    inProgressMarked := countIf (scope.includes .inProgress) .inProgress
    failedSkipped := countIf (!scope.includes .failed) .failed
    inProgressSkipped := countIf (!scope.includes .inProgress) .inProgress }

namespace Runner

/-- Runs a failed migration again and records the outcome. -/
def retry (r : Runner) (id : String) : Engine Unit := do
  let migrations ← r.discover
  let m ← Engine.ofExcept (findMigration id migrations)
  r.tracker.ensure
  let state ← r.tracker.state id
  if state ≠ .failed then throw (.invalidState m.id state .retry)
  r.tracker.retry m.id
  Engine.note .info ("Retrying " ++ id)
  applyForward r.tracker m

/-- The id and the checksum to mark a migration with. A record that belongs to no migration keeps
    its checksum. -/
def markTarget (t : Tracker) (migrations : List Migration) (id : String) :
    Engine (MigrationId × Option String) := do
  match findMigration id migrations with
  | .ok m => return (m.id, some m.checksum)
  | .error notFound =>
    let some record ← t.get? id | throw notFound
    Engine.note .warn (id ++ " has no source migration; keeping its recorded checksum")
    return (record.id, none)

/-- Records a migration as completed without running it. Answers whether it was not completed
    before. -/
def markCompleted (r : Runner) (id : String) (consent : Consent) : Engine Bool := do
  if !consent.isGiven then throw (.confirmationRequired .markCompleted)
  let migrations ← r.discover
  r.tracker.ensure
  let (id, checksum) ← markTarget r.tracker migrations id
  if (← r.tracker.state id.text) = .completed then
    Engine.note .info (id.text ++ " is already completed")
    return false
  let previous ← r.tracker.forceComplete id checksum
  Engine.note .info ("Marked " ++ id.text ++ " completed (was " ++ previous.text ++ ")")
  return true

/-- Records the migrations that a scope includes as completed without running them. -/
def markAllCompleted (r : Runner) (scope : MarkScope) (consent : Consent) :
    Engine MarkAllSummary := do
  if !consent.isGiven then throw (.confirmationRequired .markAllCompleted)
  let migrations ← r.discover
  r.tracker.ensure
  let records ← r.tracker.list
  let candidates := markCandidates migrations records
  (scope.select candidates).forM fun c => discard (r.tracker.forceComplete c.id c.checksum)
  let summary := MarkAllSummary.of scope candidates
  Engine.note .info ("Marked " ++ toString summary.marked ++ " of " ++ toString summary.total ++
    " migration(s) completed (" ++ scope.describe ++ ")")
  return summary

/-- Starts over with an empty tracking table. -/
def dropAndRecreate (r : Runner) (consent : DropConsent) : Engine Unit := do
  if !consent.confirmed || consent.tableName ≠ r.tracker.table.text then
    throw (.confirmationRequired .dropAndRecreate)
  r.tracker.reset

end Runner

end SchemaMigration
