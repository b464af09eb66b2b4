import SchemaMigration.Config.Basic
import SchemaMigration.Script.Basic
import SchemaMigration.Source.Error
import SchemaMigration.Tracking.Record

/-! # Engine errors

Why a run, a rollback or a repair stops. Nothing is tried again; an error about one migration names
it, with its state where that matters.
-/

namespace SchemaMigration

/-- A change of a record that is possible in one state only. -/
inductive Transition where
  | begin
  | complete
  | fail
  | retry
  deriving Repr, DecidableEq

def Transition.text : Transition → String
  | begin => "begin"
  | complete => "complete"
  | fail => "fail"
  | retry => "retry"

/-- An operation that needs consent. -/
inductive GuardedOperation where
  | markCompleted
  | markAllCompleted
  | dropAndRecreate
  deriving Repr, DecidableEq

def GuardedOperation.text : GuardedOperation → String
  | markCompleted => "mark-completed"
  | markAllCompleted => "mark-all-completed"
  | dropAndRecreate => "drop-and-recreate"

/-- An execution of a migration's action that failed. -/
structure ExecutionFailure where
  id : MigrationId
  direction : Direction
  /-- The state the migration is left in. -/
  state : MigrationState
  /-- The wording of the error that the action ended with. -/
  detail : String
  /-- The migrations whose steps of the same run or rollback were finished before. -/
  completed : List MigrationId
  deriving DecidableEq

/-- Why an operation of the engine stops. -/
inductive EngineError where
  | discovery (error : DiscoveryError)
  | execution (failure : ExecutionFailure)
  /-- Migrations that were begun and not completed; the first one with its state. -/
  | dirtyState (id : MigrationId) (state : MigrationState) (dirty : List MigrationId)
  | notFound (id : String)
  | invalidState (id : MigrationId) (state : MigrationState) (operation : Transition)
  /-- A migration that was changed after it was applied, with both checksums. -/
  | checksumMismatch (id : MigrationId) (recorded current : String)
  | irreversible (id : MigrationId)
  | confirmationRequired (operation : GuardedOperation)
  | config (error : ConfigError)
  | corruptRecord (id : String) (detail : String)
  | database (error : DbError)
  deriving DecidableEq

namespace EngineError

def message : EngineError → String
  | discovery error => "[M001] Migration discovery failed: " ++ error.message
  | execution f =>
    "[M002] Migration " ++ f.id.text ++ " failed (" ++ f.direction.text ++ "), now " ++
      f.state.text ++ ": " ++ f.detail
  | dirtyState id state dirty =>
    "[M003] Dirty state: migration " ++ id.text ++ " is " ++ state.text ++ " (" ++
      toString dirty.length ++ " dirty record(s)). Use retry, mark-completed, or --force"
  | notFound id => "[M004] Migration not found: " ++ id
  | invalidState id state operation =>
    "[M005] Cannot " ++ operation.text ++ " migration " ++ id.text ++ ": it is " ++ state.text
  | checksumMismatch id recorded current =>
    "[M006] Checksum mismatch for " ++ id.text ++ ": recorded " ++ recorded ++ ", current " ++
      current
  | irreversible id =>
    "[M007] Migration " ++ id.text ++ " has no reverse action and cannot be rolled back"
  | confirmationRequired operation =>
    "[M008] " ++ operation.text ++ " requires explicit confirmation"
  | config error => "[M009] Invalid configuration: " ++ error.message
  | corruptRecord id detail => "[M010] Corrupt tracking record for " ++ id ++ ": " ++ detail
  | database error => "[M011] Tracking table error: " ++ error.message

/-- The wordings of the causes behind an error, the nearest first. -/
def causes : EngineError → List String
  | discovery error => error.message :: error.causes
  | config error => error.message :: error.causes
  | database error => [error.message]
  | _ => []

/-- An error with the migrations that were finished before a failed execution. -/
def after (completed : List MigrationId) : EngineError → EngineError
  | execution f => execution { f with completed }
  | e => e

end EngineError

/-- A script that may stop with an error. -/
abbrev Engine := ExceptT EngineError Script

namespace Engine

def call (c : Call) : Engine c.Result :=
  ExceptT.mk (.request (.call c) fun answer => .done (answer.mapError .database))

/-- Executes an action of a migration. The outcome is a value: it has to be recorded whatever it
    is. -/
def perform (id : MigrationId) (direction : Direction) (action : Action) :
    Engine (Except DbError Unit) :=
  ExceptT.lift (.ask (.perform id direction action))

def now : Engine Time.Reading :=
  ExceptT.lift (.ask .readClock)

def note (level : Level) (text : String) : Engine Unit :=
  ExceptT.lift (.ask (.note level text))

/-- Goes on with a value or stops with an error that are at hand. -/
def ofExcept {α : Type} (result : Except EngineError α) : Engine α :=
  ExceptT.mk (.done result)

end Engine

end SchemaMigration
