import SchemaMigration.Engine.Error

/-! # The tracker

All reading and writing of the tracking table.

A migration without a row is pending. `begin` makes it in progress, from where `complete` and
`fail` lead on; `retry` leads from failed back to in progress. `forceComplete` leads from any state
to completed, and `remove` from any state back to pending. Where a transition is possible from one
state only, the statement itself selects that state, and the count of affected rows tells whether
it was the right one.
-/

namespace SchemaMigration

/-- The keeper of a tracking table. -/
structure Tracker where
  table : TableName
  deriving DecidableEq

namespace Tracker

/-- The record that a row holds, or an error that names the row. -/
def decodeRow (row : TrackingRow) : Except EngineError MigrationRecord :=
  row.decode.mapError fun fault => .corruptRecord (row.id.getD "") fault.message

/-- The records that a query finds. -/
def records (t : Tracker) (query : Query) : Engine (List MigrationRecord) := do
  let rows ← Engine.call (.select t.table query)
  Engine.ofExcept (rows.mapM decodeRow)

def isCreated (t : Tracker) : Engine Bool :=
  Engine.call (.relationExists t.table)

/-- Makes the table, and its schema, where they are missing. -/
def ensure (t : Tracker) : Engine Unit := do
  if let some schema := t.table.schema? then
    Engine.call (.createSchema schema)
  Engine.call (.createTable t.table)

/-- Drops the table with all its rows and makes it again. -/
def reset (t : Tracker) : Engine Unit := do
  Engine.call (.dropTable t.table)
  t.ensure
  Engine.note .warn ("Dropped and recreated tracking table " ++ t.table.text)

def get? (t : Tracker) (id : String) : Engine (Option MigrationRecord) := do
  let rows ← Engine.call (.select t.table (.byId id))
  Engine.ofExcept (rows.head?.mapM decodeRow)

def state (t : Tracker) (id : String) : Engine MigrationState :=
  MigrationState.ofRecord <$> t.get? id

/-- All records in the order of their ids. -/
def list (t : Tracker) : Engine (List MigrationRecord) :=
  t.records .all

/-- All records in the order of their ids, as `list` gives them; none where the table does not exist. -/
def listIfCreated (t : Tracker) : Engine (List MigrationRecord) := do
  if ← t.isCreated then t.list else return []

/-- The records of completed migrations, the most recently finished one first. -/
def completedByRecency (t : Tracker) : Engine (List MigrationRecord) :=
  t.records .completedByRecency

/-- Refuses a transition whose statement found no row in the right state. -/
def expectTransition (t : Tracker) (id : MigrationId) (operation : Transition) (affected : Nat) :
    Engine Unit := do
  if affected = 0 then
    throw (.invalidState id (← t.state id.text) operation)

/-- From pending to in progress. -/
def begin (t : Tracker) (id : MigrationId) : Engine Unit := do
  if let some record ← t.get? id.text then
    throw (.invalidState id record.state .begin)
  let now ← Engine.now
  discard (Engine.call (.change t.table (.insertStarted id.text now)))

/-- From in progress to completed. -/
def complete (t : Tracker) (id : MigrationId) (checksum : String) : Engine Unit := do
  let now ← Engine.now
  let affected ← Engine.call (.change t.table (.complete id.text now checksum))
  t.expectTransition id .complete affected

/-- From in progress to failed. -/
def fail (t : Tracker) (id : MigrationId) (reason : String) : Engine Unit := do
  let now ← Engine.now
  let affected ← Engine.call (.change t.table (.fail id.text now reason))
  t.expectTransition id .fail affected

/-- From failed back to in progress. -/
def retry (t : Tracker) (id : MigrationId) : Engine Unit := do
  let now ← Engine.now
  let affected ← Engine.call (.change t.table (.restart id.text now))
  t.expectTransition id .retry affected

/-- From any state to completed, without executing anything. Without a checksum, a row keeps the
    one it has. Answers the state before. -/
def forceComplete (t : Tracker) (id : MigrationId) (checksum : Option String) :
    Engine MigrationState := do
  let previous ← t.state id.text
  let now ← Engine.now
  match previous with
  | .pending => discard (Engine.call (.change t.table (.insertCompleted id.text now checksum)))
  | _ => discard (Engine.call (.change t.table (.settle id.text now checksum)))
  return previous

def remove (t : Tracker) (id : MigrationId) : Engine Bool := do
  let affected : Nat ← Engine.call (.change t.table (.delete id.text))
  return 0 < affected

end Tracker

end SchemaMigration
