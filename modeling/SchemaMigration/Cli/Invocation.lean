import SchemaMigration.Cli.Arguments

/-! # Invocations

What the program is asked for by its arguments and its environment. The `GlobalOptions` about the project
may stand in front of the command and behind it; those behind it count more, and all of them count more
than the environment.
-/

namespace SchemaMigration.Cli

/-- Options about the project, which every command has. -/
structure GlobalOptions where
  verbose : Bool
  projectDir : String
  config : Option String
  database : Option String
  migrationsDir : Option String
  trackingTable : Option String
  deriving Repr, DecidableEq

/-- A command with its arguments. -/
inductive Subcommand where
  | migrate (force dryRun : Bool) (upTo : Option String) (steps : Option Nat)
      (strictChecksums : Bool)
  | rollback (strategy : RollbackStrategy) (dryRun : Bool)
  | status (showFailed : Bool) (output : OutputFormat)
  | retry (id : String)
  | markCompleted (id : String) (force : Bool)
  | markAllCompleted (includeFailed includeInProgress all drop : Bool)
      (confirmTable : Option String) (force : Bool)
  | validate
  deriving DecidableEq

structure Invocation where
  options : GlobalOptions
  command : Subcommand
  deriving DecidableEq

inductive CommandName where
  | migrate
  | rollback
  | status
  | retry
  | markCompleted
  | markAllCompleted
  | validate
  deriving Repr, DecidableEq

namespace CommandName

def text : CommandName → String
  | migrate => "migrate"
  | rollback => "rollback"
  | status => "status"
  | retry => "retry"
  | markCompleted => "mark-completed"
  | markAllCompleted => "mark-all-completed"
  | validate => "validate"

def all : List CommandName :=
  [migrate, rollback, status, retry, markCompleted, markAllCompleted, validate]

def ofText? (name : String) : Option CommandName :=
  all.find? (·.text == name)

end CommandName

/-- The command that explains the others. -/
def helpCommand : String := "help"

/-- The words that stand for a command. -/
def commandWords : List String :=
  CommandName.all.map CommandName.text ++ [helpCommand]

/-- A switch with a long name only. -/
def switch (name : String) : OptionSpec :=
  ⟨name, none, .switch⟩

def valued (name : String) (kind : OptionKind) : OptionSpec :=
  ⟨name, none, kind⟩

/-- The options that every command has. -/
def globalOptions : List OptionSpec := [
  ⟨"verbose", some 'v', .switch⟩,
  ⟨"project-dir", some 'p', .text⟩,
  ⟨"config", some 'c', .text⟩,
  valued "database" .text,
  valued "migrations-dir" .text,
  valued "tracking-table" .text,
  ⟨"help", some 'h', .help⟩]

def rootOptions : List OptionSpec :=
  globalOptions ++ [⟨"version", some 'V', .version⟩]

/-- The options of a command, besides those that every command has. -/
def CommandName.options : CommandName → List OptionSpec
  | migrate =>
    [switch "force", switch "dry-run", valued "to" .text, valued "steps" .count,
      switch "strict-checksums"]
  | rollback => [valued "strategy" .strategy, switch "dry-run"]
  | status => [switch "show-failed", ⟨"output", some 'o', .format⟩]
  | retry => []
  | markCompleted => [switch "force"]
  | markAllCompleted =>
    [switch "include-failed", switch "include-in-progress", switch "all", switch "drop",
      valued "confirm-table" .text, switch "force"]
  | validate => []

/-- The name of the argument of a command that has none of its own. -/
def CommandName.unnamed : CommandName → Option String
  | retry | markCompleted => some "id"
  | _ => none

/-- The combinations of arguments that a command refuses, by `Arguments.exclude` and `Arguments.require`. -/
def CommandName.check (a : Arguments) : CommandName → Except Stop Unit
  | migrate => a.exclude "to" "steps"
  | retry | markCompleted => a.require "id"
  | markAllCompleted =>
    if a.has "confirm-table" then a.require "drop" else .ok ()
  | _ => .ok ()

def CommandName.withArguments (a : Arguments) : CommandName → Subcommand
  | migrate =>
    .migrate (a.has "force") (a.has "dry-run") (a.text? "to") (a.count? "steps")
      (a.has "strict-checksums")
  | rollback =>
    let strategy := match a.value? "strategy" with
      | some (.strategy s) => s
      | _ => .last
    .rollback strategy (a.has "dry-run")
  | status =>
    let output := match a.value? "output" with
      | some (.format f) => f
      | _ => .table
    .status (a.has "show-failed") output
  | retry => .retry ((a.text? "id").getD "")
  | markCompleted => .markCompleted ((a.text? "id").getD "") (a.has "force")
  | markAllCompleted =>
    .markAllCompleted (a.has "include-failed") (a.has "include-in-progress") (a.has "all")
      (a.has "drop") (a.text? "confirm-table") (a.has "force")
  | validate => .validate

/-- The variables of the environment that stand for options. -/
def environmentOptions : List (String × String) := [
  ("database", "STRATA_DATABASE"),
  ("migrations-dir", "STRATA_MIGRATIONS_DIR"),
  ("tracking-table", "STRATA_TRACKING_TABLE")]

/-- The value that the environment has for an option. -/
def environmentValue? (environment : List (String × String)) (option : String) : Option String :=
  (environmentOptions.lookup option).bind fun name => environment.lookup name

/-- The options about the project. They may stand in front of a command and behind it, and what is
    missing there is taken from the environment. -/
def GlobalOptions.of (environment : List (String × String)) (before after : Arguments) :
    GlobalOptions :=
  let text (name : String) : Option String :=
    ((after.text? name).or (before.text? name)).or (environmentValue? environment name)
  { verbose := before.has "verbose" || after.has "verbose"
    projectDir := (text "project-dir").getD "."
    config := text "config"
    database := text "database"
    migrationsDir := text "migrations-dir"
    trackingTable := text "tracking-table" }

/-- What is wrong with an argument in front of a command that is no option. -/
def unplacedBeforeCommand : Arguments.Unplaced := fun separated argument =>
  if separated && commandWords.contains argument then .unknownArgument else .unknownCommand

/-- What is wrong with an argument behind a command that has no place. -/
def unplacedAfterCommand : Arguments.Unplaced := fun _ _ => .unknownArgument

/-- Help on the command that the words after the help command name. -/
def explain (words : List String) : Stop :=
  match words with
  | [] => .help
  | [word] => if commandWords.contains word then .help else .mistake .unknownCommand
  | _ => .mistake .unknownCommand

/-- Reads the arguments of a command. -/
def CommandName.read (command : CommandName) (arguments : List String) :
    Except Stop Arguments := do
  let options := command.options ++ globalOptions
  let (a, _) ← Arguments.takeAll [] unplacedAfterCommand arguments false
    (.start options command.unnamed)
  let a ← a.settle
  command.check a
  return a

def missingCommand (environment : List (String × String)) (a : Arguments) : UsageError :=
  let fromEnvironment := environmentOptions.any fun (_, name) =>
    (environment.lookup name).isSome
  if a.values.isEmpty && !fromEnvironment then .nothingGiven else .missingCommand

namespace Invocation

/-- What the program is asked for by arguments and an environment. -/
def parse (environment : List (String × String)) (arguments : List String) :
    Except Stop Invocation := do
  let (before, command?) ←
    Arguments.takeAll commandWords unplacedBeforeCommand arguments false (.start rootOptions none)
  match command? with
  | none =>
    let before ← before.settle
    Arguments.refuse (missingCommand environment before)
  | some (word, rest) =>
    let some command := CommandName.ofText? word | .error (explain rest)
    let after ← command.read rest
    let before ← before.settle
    return ⟨.of environment before after, command.withArguments after⟩

end Invocation

end SchemaMigration.Cli
