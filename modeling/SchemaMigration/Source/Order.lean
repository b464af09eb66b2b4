import SchemaMigration.Migration.Basic
import SchemaMigration.Source.Error

/-! # Migrations in order

A source lists its migrations in the order of their ids, each id once. In whatever order they are found,
the list that `inOrder` makes is the same, and so is the id that is reported when one occurs twice.
-/

namespace SchemaMigration

/-- The first id that stands next to itself. -/
def adjacentDuplicate? : List Migration → Option MigrationId
  | a :: b :: rest => if a.id = b.id then some a.id else adjacentDuplicate? (b :: rest)
  | _ => none

/-- Migrations in ascending order of their ids, unless `adjacentDuplicate?` finds an id twice. -/
def inOrder (ms : List Migration) : Except DiscoveryError (List Migration) :=
  let sorted := ms.mergeSort fun a b => a.id ≤ b.id
  match adjacentDuplicate? sorted with
  | some id => .error (.duplicateId id)
  | none => .ok sorted

end SchemaMigration
