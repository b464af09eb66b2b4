import SchemaMigration.Source.Order

/-! # Embedded migrations

Migrations that are bundled with a program as texts. A unit with neither direction is left out.
-/

namespace SchemaMigration

/-- A bundled migration: an id that has yet to be checked, and texts that may be missing. -/
structure EmbeddedUnit where
  id : String
  up : Option String
  down : Option String
  description : Option String
  deriving Repr, DecidableEq

namespace EmbeddedUnit

def hasContent (u : EmbeddedUnit) : Bool :=
  u.up.isSome || u.down.isSome

/-- The migration that a unit with content stands for. A missing forward text is empty. -/
def toMigration (u : EmbeddedUnit) : Except DiscoveryError Migration :=
  match MigrationId.ofText? u.id with
  | some id => .ok ⟨id, u.description, .sql (u.up.getD ""), u.down.map .sql⟩
  | none => .error (.invalidId u.id .inTable)

/-- The migrations of the units for which `hasContent` holds, in order. -/
def list (units : List EmbeddedUnit) : Except DiscoveryError (List Migration) := do
  inOrder (← (units.filter hasContent).mapM toMigration)

end EmbeddedUnit

end SchemaMigration
