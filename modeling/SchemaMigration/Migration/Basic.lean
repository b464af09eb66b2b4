import SchemaMigration.Database.Error
import SchemaMigration.Migration.Checksum
import SchemaMigration.Migration.Id
import SchemaMigration.Text.Quoted

/-! # Migrations

A migration changes the database in one direction and, where it has a reverse action, takes the change
back in the other. An `Action` is a text of SQL statements or a procedure.
-/

namespace SchemaMigration

/-- The way a migration is carried out. -/
inductive Direction where
  | up
  | down
  deriving Repr, DecidableEq

def Direction.text : Direction → String
  | up => "up"
  | down => "down"

inductive Outcome where
  | done
  | failed (error : DbError)
  /-- The procedure sends SQL statements to the database and ends as they do. -/
  | statements (sql : String)
  deriving Repr, DecidableEq

/-- What a migration does in one direction. The outcomes of a `procedure` are those of its executions,
    one after the other. -/
inductive Action where
  | sql (text : String)
  /-- A procedure with a text that identifies what it does, and the outcomes of its executions in
      order. The last outcome repeats; without any, every execution succeeds. -/
  | procedure (fingerprint : String) (outcomes : List Outcome)
  deriving Repr, DecidableEq

namespace Action

/-- The text that identifies what an action does. -/
def fingerprint : Action → String
  | sql text => text
  | procedure fingerprint _ => fingerprint

/-- The outcome of the execution after `count` earlier ones, among the outcomes of a procedure. -/
def outcomeAfter (count : Nat) (outcomes : List Outcome) : Outcome :=
  (outcomes[count]?.or outcomes.getLast?).getD .done

end Action

structure Migration where
  id : MigrationId
  description : Option String
  up : Action
  down : Option Action
  deriving DecidableEq

namespace Migration

def isReversible (m : Migration) : Bool :=
  m.down.isSome

def action? (m : Migration) : Direction → Option Action
  | .up => some m.up
  | .down => m.down

/-- The checksum of both directions of a migration. -/
def checksum (m : Migration) : String :=
  Checksum.ofDefinitions m.up.fingerprint (m.down.map Action.fingerprint)

/-- A migration for diagnosis: its id, its description and whether it is reversible. -/
def describe (m : Migration) : String :=
  "Migration \x7b id: MigrationId(" ++ Text.quote m.id.text ++ "), description: " ++
    Text.quoteOption m.description ++ ", reversible: " ++ toString m.isReversible ++ " \x7d"

end Migration

end SchemaMigration
