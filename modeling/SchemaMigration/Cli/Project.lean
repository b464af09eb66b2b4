import SchemaMigration.Cli.Invocation
import SchemaMigration.Cli.Session
import SchemaMigration.Config.Reading
import SchemaMigration.FileTree.DatabaseFile

/-! # Projects

A project directory with its configuration, its database and its migrations. Opening a project resolves
the configuration first (`resolve`), with the options of the invocation in place of what the
configuration file says, so that nothing is opened under a configuration that is not valid.
-/

namespace SchemaMigration.Cli

/-- A configuration error with what was being done when it arose. -/
def failedWhile (doing : String) (e : ConfigError) : Failure :=
  .report (doing :: e.message :: e.causes)

namespace GlobalOptions

/-- The values that options put in place of those of a configuration file. -/
def overrides (o : GlobalOptions) : ConfigOverrides where
  database := o.database
  migrationsDir := o.migrationsDir
  trackingTable := o.trackingTable

/-- The configuration that is written: in the file that the options name, or else in the project
    directory, if anywhere. -/
def writtenConfig (o : GlobalOptions) (t : FileTree) : Except Failure Config :=
  match o.config with
  | some path => (Config.load t path).mapError (failedWhile "Failed to load configuration file")
  | none =>
    (Config.loadOrStandard t o.projectDir).mapError
      (failedWhile "Failed to load project configuration")

/-- The configuration that holds: what is written, with the values of options in place of its own,
    checked by `Config.validate`. -/
def resolve (o : GlobalOptions) (t : FileTree) : Except Failure Config := do
  let config := o.overrides.apply (← o.writtenConfig t)
  config.validate.mapError (failedWhile "Invalid configuration")
  return config

end GlobalOptions

/-- The path of the database, seen from where the project directory is seen. -/
def databasePathIn (projectDir : String) (config : Config) : String :=
  if config.databasePath = memoryPath then memoryPath
  else Path.join projectDir config.databasePath

/-- What commands know about a project. -/
structure Project where
  migrationsPath : String
  runner : Runner

def Project.trackingTable (p : Project) : String :=
  p.runner.tracker.table.text

structure OpenProject where
  project : Project
  databasePath : String
  database : Database
  /-- The files after the database was opened. -/
  files : FileTree

/-- Opens the database of a project under a configuration. -/
def Config.openIn (config : Config) (projectDir : String) (t : FileTree) :
    Except Failure OpenProject := do
  let databasePath := databasePathIn projectDir config
  let (database, files) ← (t.openDatabase databasePath).mapError fun e =>
    .report ["Failed to connect to database", e.message]
  let table ← (TableName.ofText config.trackingTable).mapError
    (failedWhile "Invalid tracking table name")
  let migrationsPath := config.migrationsPath projectDir
  return ⟨⟨migrationsPath, ⟨.directory files migrationsPath, ⟨table⟩⟩⟩, databasePath, database, files⟩

/-- Opens the project that options are about. -/
def GlobalOptions.openProject (o : GlobalOptions) (t : FileTree) : Except Failure OpenProject := do
  let config ← o.resolve t
  Config.openIn config o.projectDir t

end SchemaMigration.Cli
