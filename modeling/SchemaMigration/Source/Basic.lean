import SchemaMigration.Source.Directory
import SchemaMigration.Source.Embedded

/-! # Sources of migrations

A source is a registry filled by a program, a bundle of texts or a directory tree. All are listed in
the same order, and nothing else about them matters to runs and rollbacks.
-/

namespace SchemaMigration

inductive Source where
  /-- Migrations in the order of their registration. -/
  | registry (migrations : List Migration)
  | embedded (units : List EmbeddedUnit)
  | directory (tree : FileTree) (root : String)

namespace Source

/-- The migrations of a source in ascending order of their ids. -/
def list : Source → Except DiscoveryError (List Migration)
  | registry migrations => inOrder migrations
  | embedded units => EmbeddedUnit.list units
  | directory tree root => MigrationDirectory.list tree root

/-- The name of a kind of source. -/
def kind : Source → String
  | registry _ => "code"
  | embedded _ => "embedded"
  | directory .. => "directory"

end Source

end SchemaMigration
