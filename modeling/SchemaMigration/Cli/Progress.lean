import SchemaMigration.Cli.Project
import SchemaMigration.Engine.Recovery
import SchemaMigration.Engine.Rollback

/-! # Commands that execute migrations

Applying pending migrations, taking back applied ones, and running a failed one again. Each says
what it did, or what it would do.
-/

namespace SchemaMigration

/-- A line for each migration, with a text in front of the id. -/
def idLines (before : String) (ids : List MigrationId) : List String :=
  ids.map fun id => before ++ id.text

def RunReport.lines (r : RunReport) : List String :=
  idLines "  Skipped (dirty): " r.skippedDirty ++
    idLines "  Changed since applied: " r.drifted ++
    if r.isNoop then
      ["Nothing to migrate (" ++ Nat.repr r.alreadyApplied ++ " already applied)"]
    else if r.dryRun then
      ("Dry run - would apply " ++ Cli.plural r.planned.length "migration" ++ ":") ::
        idLines "  " r.planned
    else
      idLines "  Applied: " r.applied ++
        ["", "Applied " ++ Cli.plural r.applied.length "migration"]

def RollbackReport.lines (strategy : RollbackStrategy) (r : RollbackReport) : List String :=
  if r.isNoop then ["Nothing to roll back"]
  else if r.dryRun then
    ("Dry run - would roll back " ++ Cli.plural r.planned.length "migration" ++
      " (" ++ strategy.text ++ "):") :: idLines "  " r.planned
  else
    idLines "  Rolled back: " r.rolledBack ++
      ["", "Rolled back " ++ Cli.plural r.rolledBack.length "migration"]

namespace Cli

/-- The target of a run with the given end or else the given number of steps. -/
def runTarget (upTo : Option String) (steps : Option Nat) : Except Failure RunTarget :=
  match upTo, steps with
  | some text, _ =>
    match MigrationId.ofText? text with
    | some id => .ok (.upTo id)
    | none => .error (.report ["Invalid migration id '" ++ text ++ "'"])
  | none, some n => .ok (.steps n)
  | none, none => .ok .all

namespace Project

def migrate (p : Project) (force dryRun : Bool) (upTo : Option String) (steps : Option Nat)
    (strictChecksums : Bool) : Command Unit := do
  let target ← liftExcept (runTarget upTo steps)
  let report ← Command.engine (p.runner.run { force, dryRun, target, strictChecksums })
  Command.lines report.lines

def rollback (p : Project) (strategy : RollbackStrategy) (dryRun : Bool) : Command Unit := do
  let report ← Command.engine (p.runner.rollback strategy dryRun)
  Command.lines (report.lines strategy)

def retry (p : Project) (id : String) : Command Unit := do
  Command.engine (p.runner.retry id)
  Command.lines [
    "Retried " ++ id ++ ": completed",
    "Run `strata migrate` to apply the remaining pending migrations."]

end Project

end Cli

end SchemaMigration
