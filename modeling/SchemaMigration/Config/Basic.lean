import SchemaMigration.Database.Name
import SchemaMigration.FileTree.Basic
import SchemaMigration.Text.Blank

/-! # Configuration

Where the database is, where the migrations are, and which table keeps track of them. A
configuration has to be valid before anything is opened.
-/

namespace SchemaMigration

structure Config where
  /-- The path of the database file, or `:memory:`. -/
  databasePath : String := "strata.duckdb"
  /-- The directory with one directory for each migration. -/
  migrationsDir : String := "migrations"
  trackingTable : String := TableName.standard.text
  deriving Repr, DecidableEq

inductive ConfigFault where
  | emptyDatabasePath
  | emptyMigrationsDir
  | trackingTable (name : String)
  deriving Repr, DecidableEq

def ConfigFault.message : ConfigFault → String
  | emptyDatabasePath => "database.path cannot be empty"
  | emptyMigrationsDir => "migrations_dir cannot be empty"
  | trackingTable name =>
    "tracking table '" ++ name ++
      "' must be an identifier like __schema_migrations or ops.schema_migrations"

/-- Why there is no configuration to work with. -/
inductive ConfigError where
  | notFound (path : String)
  /-- A configuration that was read and is not valid, with what is wrong in words. -/
  | invalid (detail : String)
  | unreadable (path : String) (fault : ReadFault)
  /-- A file that does not hold a configuration, with what is wrong in words. -/
  | malformed (detail : String)
  deriving Repr, DecidableEq

namespace ConfigError

def message : ConfigError → String
  | notFound path => "[E001] Config file not found: " ++ path
  | invalid detail => "[E003] Invalid config: " ++ detail
  | unreadable path fault => "[E016] Failed to read '" ++ path ++ "': " ++ fault.message
  | malformed detail => "[E015] Config parse error: " ++ detail

/-- The wordings of the causes behind an error, the nearest first. -/
def causes : ConfigError → List String
  | unreadable _ fault => [fault.message]
  | malformed detail => [detail]
  | _ => []

end ConfigError

namespace Config

/-- The configuration where none is written. -/
def standard : Config := {}

/-- The first thing that is wrong with a configuration: a blank path, or a name that is no `TableName`. -/
def fault? (c : Config) : Option ConfigFault :=
  if Text.isBlankText c.databasePath then some .emptyDatabasePath
  else if Text.isBlankText c.migrationsDir then some .emptyMigrationsDir
  else if isTableName c.trackingTable then none
  else some (.trackingTable c.trackingTable)

def validate (c : Config) : Except ConfigError Unit :=
  match c.fault? with
  | none => .ok ()
  | some fault => .error (.invalid fault.message)

/-- The directory with the migrations, seen from where the project directory is seen. -/
def migrationsPath (c : Config) (projectDir : String) : String :=
  Path.join projectDir c.migrationsDir

end Config

/-- The table name with the given text, or what is wrong with the text. -/
def TableName.ofText (text : String) : Except ConfigError TableName :=
  match TableName.ofText? text with
  | some name => .ok name
  | none => .error (.invalid (ConfigFault.trackingTable text).message)

/-- Values that take the place of what a configuration file says. -/
structure ConfigOverrides where
  database : Option String := none
  migrationsDir : Option String := none
  trackingTable : Option String := none
  deriving Repr, DecidableEq

def ConfigOverrides.apply (o : ConfigOverrides) (c : Config) : Config where
  databasePath := o.database.getD c.databasePath
  migrationsDir := o.migrationsDir.getD c.migrationsDir
  trackingTable := o.trackingTable.getD c.trackingTable

end SchemaMigration
