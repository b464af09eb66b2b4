import SchemaMigration.Cli.Inspection
import SchemaMigration.Cli.Marking
import SchemaMigration.Cli.Progress

/-! # The program

`run` is a whole run of the program as a function: from an invocation, the files, the input and the clock
to an exit code, the outputs and the files after it.
-/

namespace SchemaMigration.Cli

def Subcommand.run (p : Project) : Subcommand → Command Unit
  | migrate force dryRun upTo steps strictChecksums =>
    p.migrate force dryRun upTo steps strictChecksums
  | rollback strategy dryRun => p.rollback strategy dryRun
  | status showFailed output => p.status showFailed output
  | retry id => p.retry id
  | markCompleted id force => p.markCompleted id force
  | markAllCompleted includeFailed includeInProgress all drop confirmTable force =>
    p.markAllCompleted (.ofSwitches includeFailed includeInProgress all) drop confirmTable force
  | validate => p.validate

/-- What a run of the program finds. -/
structure Surroundings where
  files : FileTree
  input : List UInt8
  clock : Nat → Time.Reading
  /-- Whether notes are shown at all. -/
  showsNotes : Bool

/-- What a run of the program leaves. -/
structure Outcome where
  code : Nat
  output : String
  errors : String
  /-- The output up to the first question that found the input at its end. -/
  unanswered : Option String
  files : FileTree

/-- The levels of notes that are shown: warnings and errors, and everything if asked for. -/
def shownLevels (verbose : Bool) : List Level :=
  if verbose then [.info, .warn, .error] else [.warn, .error]

namespace Invocation

/-- The session that a command starts in. -/
def session (i : Invocation) (s : Surroundings) (db : Database) : Session where
  input := s.input
  output := ""
  errors := ""
  unanswered := none
  shown := if s.showsNotes then shownLevels i.options.verbose else []
  world := .start db s.clock

/-- Runs the program. The database is saved however the command ends. -/
def run (i : Invocation) (s : Surroundings) : Outcome :=
  match i.options.openProject s.files with
  | .error failure => ⟨failure.code, "", failure.message, none, s.files⟩
  | .ok opened =>
    let (result, session) := (i.command.run opened.project).run (i.session s opened.database)
    let files := opened.files.saveDatabase opened.databasePath session.world.database
    let (code, errors) := match result with
      | .ok () => (0, session.errors)
      | .error failure => (failure.code, session.errors ++ failure.message)
    ⟨code, session.output, errors, session.unanswered, files⟩

end Invocation

end SchemaMigration.Cli
