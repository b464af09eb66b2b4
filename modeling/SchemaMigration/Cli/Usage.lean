import SchemaMigration.Cli.Invocation
import SchemaMigration.Cli.Table

/-! # Usage

How the program is called, in words, and what is said when it is called in another way.
-/

namespace SchemaMigration.Cli

def versionLine : String := "strata 0.1.0"

def CommandName.purpose : CommandName → String
  | migrate => "Apply pending migrations"
  | rollback => "Reverse applied migrations"
  | status => "Show the state of every migration"
  | retry => "Re-run a failed migration"
  | markCompleted => "Record a migration as completed without running it"
  | markAllCompleted => "Record every migration as completed without running them"
  | validate => "Check applied migrations against their current definitions"

/-- An option as it is written in front of its value. -/
def OptionSpec.usage (o : OptionSpec) : String :=
  let short := match o.short with
    | some c => "-" ++ c.toString ++ ", "
    | none => ""
  short ++ "--" ++ o.name ++ if o.kind.takesValue then " <VALUE>" else ""

/-- A command with what it does and a line for its own arguments, if it has any. -/
def CommandName.usage (c : CommandName) : List String :=
  let arguments := (c.unnamed.map fun name => "<" ++ name.toUpper ++ ">").toList ++
    c.options.map OptionSpec.usage
  ("  " ++ padRight 20 c.text ++ c.purpose) ::
    if arguments.isEmpty then [] else ["      " ++ ", ".intercalate arguments]

def usageLine : String := "Usage: strata [OPTIONS] <COMMAND>"

/-- How the program is called, with all commands and options. -/
def helpText : String :=
  unlines ([usageLine, "", "Commands:"] ++ CommandName.all.flatMap CommandName.usage ++
    ["", "Options:"] ++ rootOptions.map fun o => "  " ++ o.usage)

def UsageError.message : UsageError → String
  | unknownArgument => "unexpected argument"
  | unknownCommand => "unrecognized command"
  | missingCommand => "a command is required"
  | nothingGiven => "nothing to do"
  | invalidValue => "a value is missing or not one of the possible ones"
  | unreadableValue => "a value cannot be read"
  | unexpectedValue => "a value for an option that takes none"
  | conflict => "arguments that cannot be used together"
  | missingArgument => "a required argument is missing"

/-- The exit code when arguments ask for no command. -/
def Stop.code : Stop → Nat
  | help | version => 0
  | mistake _ => 2

/-- What is written to the output when arguments ask for no command. -/
def Stop.output : Stop → String
  | help => helpText
  | version => versionLine ++ "\n"
  | mistake _ => ""

/-- What is written to the error output when arguments ask for no command. -/
def Stop.errors : Stop → String
  | mistake .nothingGiven => helpText
  | mistake e => unlines ["error: " ++ e.message, "", usageLine]
  | _ => ""

end SchemaMigration.Cli
