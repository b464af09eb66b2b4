import SchemaMigration.Migration.Id
import SchemaMigration.Text.Json

/-! # Migration ids as JSON

An id is written as a text, and a text is read as an id only if it is one.
-/

namespace SchemaMigration

open Text (Json)

namespace MigrationId

def toJson (id : MigrationId) : Json :=
  .string id.text

def ofJson (v : Json) : Except String MigrationId := do
  let text ← v.asString
  match ofText? text with
  | some id => .ok id
  | none => .error requirement

end MigrationId

def idsToJson (ids : List MigrationId) : Json :=
  .array (ids.map MigrationId.toJson)

end SchemaMigration
