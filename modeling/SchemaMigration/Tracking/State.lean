/-! # States of migrations

A migration that was begun has a status in the tracking table. Its state is that status, and a
migration without a row is pending.
-/

namespace SchemaMigration

/-- The status of a migration that was begun. -/
inductive MigrationStatus where
  /-- Begun, and neither completed nor failed since. -/
  | inProgress
  | completed
  | failed
  deriving Repr, DecidableEq

/-- The state of a migration. -/
inductive MigrationState where
  | pending
  | inProgress
  | completed
  | failed
  deriving Repr, DecidableEq

namespace MigrationStatus

/-- The word for a status, which is also its value in the tracking table. -/
def text : MigrationStatus → String
  | inProgress => "in_progress"
  | completed => "completed"
  | failed => "failed"

def all : List MigrationStatus := [inProgress, completed, failed]

def ofText? (word : String) : Option MigrationStatus :=
  all.find? fun s => s.text == word

/-- The wording for a word that stands for no status. -/
def unknown (word : String) : String :=
  "unknown migration status '" ++ word ++ "'"

def toState : MigrationStatus → MigrationState
  | inProgress => .inProgress
  | completed => .completed
  | failed => .failed

end MigrationStatus

namespace MigrationState

def text : MigrationState → String
  | pending => "pending"
  | inProgress => "in_progress"
  | completed => "completed"
  | failed => "failed"

def all : List MigrationState := [pending, inProgress, completed, failed]

def ofText? (word : String) : Option MigrationState :=
  all.find? fun s => s.text == word

/-- Whether a state blocks a run: the migration was begun and did not complete. -/
def isDirty : MigrationState → Bool
  | inProgress | failed => true
  | pending | completed => false

end MigrationState

end SchemaMigration
