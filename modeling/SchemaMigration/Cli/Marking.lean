import SchemaMigration.Cli.Project
import SchemaMigration.Engine.Recovery

/-! # Commands that mark migrations as completed

Both record migrations as completed without running them, and both ask for consent. All consent is
asked for before anything is changed.
-/

namespace SchemaMigration

def MarkAllSummary.lines (s : MarkAllSummary) : List String :=
  let of (label : String) (marked skipped : Nat) : List String :=
    if marked + skipped = 0 then []
    else [label ++ Nat.repr marked ++ " marked, " ++ Nat.repr skipped ++ " skipped"]
  ["Migrations:        " ++ Nat.repr s.total,
    "Already completed: " ++ Nat.repr s.alreadyCompleted,
    "Newly marked:      " ++ Nat.repr s.newlyMarked] ++
    of "Failed:            " s.failedMarked s.failedSkipped ++
    of "In progress:       " s.inProgressMarked s.inProgressSkipped

namespace Cli

/-- The exit code of a command that the operator did not consent to. -/
def abortedCode : Nat := 1

/-- Asks for consent to mark migrations, unless the operator asked not to be asked. -/
def askConsent (force : Bool) (question : String) : Command Consent := do
  if force then return .ofForce
  if ← Command.confirm question then return .ofAnswer
  Command.line "Aborted"
  throw (.exit abortedCode)

/-- Asks for a `DropConsent`: the name of the table, given as an option or typed. -/
def askDropConsent (table : String) (confirmTable : Option String) : Command DropConsent := do
  match confirmTable with
  | some name => return ⟨true, name⟩
  | none =>
    Command.line ("This deletes all migration history in " ++ table ++ ".")
    let name ← Command.ask ("Type the table name (" ++ table ++ ") to confirm: ")
    return ⟨true, name⟩

def markQuestion (id : String) : String :=
  "Mark " ++ id ++ " as completed without running it? " ++
    "The database may not match the recorded state."

def markAllQuestion (scope : MarkScope) : String :=
  "Mark migrations as completed without running them (scope: " ++ scope.describe ++ ")?"

namespace Project

/-- Records a migration as completed. -/
def markCompleted (p : Project) (id : String) (force : Bool) : Command Unit := do
  let consent ← askConsent force (markQuestion id)
  if ← Command.engine (p.runner.markCompleted id consent) then
    Command.line ("Marked " ++ id ++ " as completed")
  else Command.line (id ++ " is already completed")

/-- Starts over with an empty tracking table, by `Recovery.dropAndRecreate`. -/
def dropAndRecreate (p : Project) (consent : DropConsent) : Command Unit := do
  Command.engine (p.runner.dropAndRecreate consent)
  Command.line ("Dropped and recreated " ++ p.trackingTable)

/-- Records the migrations of a scope as completed, in a new tracking table if asked for. -/
def markAllCompleted (p : Project) (scope : MarkScope) (drop : Bool)
    (confirmTable : Option String) (force : Bool) : Command Unit := do
  let dropConsent? ←
    if drop then some <$> askDropConsent p.trackingTable confirmTable else pure none
  let consent ← askConsent force (markAllQuestion scope)
  if let some dropConsent := dropConsent? then p.dropAndRecreate dropConsent
  let summary ← Command.engine (p.runner.markAllCompleted scope consent)
  Command.lines summary.lines

end Project

end Cli

end SchemaMigration
