import SchemaMigration.FileTree.Basic
import SchemaMigration.Migration.Id

/-! # Discovery errors

Why the migrations of a source cannot be listed. Nothing runs when they cannot.
-/

namespace SchemaMigration

inductive IdFault where
  | inTable
  | asDirectory
  | directoryNotUtf8
  deriving Repr, DecidableEq

def IdFault.message : IdFault → String
  | inTable => "ids must be non-empty and have no surrounding whitespace"
  | asDirectory => "directory names must not have surrounding whitespace"
  | directoryNotUtf8 => "directory name is not valid UTF-8"

/-- Why the migrations of a source cannot be listed. -/
inductive DiscoveryError where
  | rootNotFound (path : String)
  | invalidId (id : String) (fault : IdFault)
  | duplicateId (id : MigrationId)
  | unreadable (path : String) (fault : ReadFault)
  deriving DecidableEq

namespace DiscoveryError

def message : DiscoveryError → String
  | rootNotFound path => "[E004] Migrations directory not found: " ++ path
  | invalidId id fault => "[E005] Invalid migration id '" ++ id ++ "': " ++ fault.message
  | duplicateId id => "[E008] Duplicate migration id: " ++ id.text
  | unreadable path fault => "[E016] Failed to read '" ++ path ++ "': " ++ fault.message

/-- The wordings of the causes behind an error, the nearest first. -/
def causes : DiscoveryError → List String
  | unreadable _ fault => [fault.message]
  | _ => []

end DiscoveryError

end SchemaMigration
