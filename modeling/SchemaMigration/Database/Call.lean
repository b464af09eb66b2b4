import SchemaMigration.Database.Basic

/-! # Calls on the database

The calls that keep the tracking table, each with the statement it sends, and what they do to a database.
A `Call` that fails leaves the database as it was.
-/

namespace SchemaMigration

/-- A call on the database. -/
inductive Call where
  | relationExists (table : TableName)
  | createSchema (schema : String)
  /-- Makes the tracking table unless a relation with its name exists. -/
  | createTable (table : TableName)
  /-- Drops the relation with the table's name if there is one. -/
  | dropTable (table : TableName)
  | select (table : TableName) (query : Query)
  | change (table : TableName) (statement : Change)
  /-- The statements of a migration. -/
  | batch (sql : String)
  deriving DecidableEq

/-- The operation of the database interface that a call goes through. -/
inductive Method where
  | executeWithParams
  | executeBatch
  | queryRows
  | relationExists
  | dropIfExists
  | createSchema
  deriving Repr, DecidableEq

def Method.text : Method → String
  | executeWithParams => "execute_with_params"
  | executeBatch => "execute_batch"
  | queryRows => "query_rows"
  | relationExists => "relation_exists"
  | dropIfExists => "drop_if_exists"
  | createSchema => "create_schema_if_not_exists"

def Method.ofText? (text : String) : Option Method :=
  [executeWithParams, executeBatch, queryRows, relationExists, dropIfExists, createSchema].find?
    (·.text == text)

/-- The statement of a `Query` over a table, with a question mark for each parameter. -/
def Query.sql (table : TableName) (q : Query) : String :=
  let columns := "SELECT id, status, CAST(started_at AS VARCHAR), CAST(finished_at AS VARCHAR), " ++
    "checksum, failure_reason FROM " ++ table.text
  match q with
  | byId _ => columns ++ " WHERE id = ?"
  | all => columns ++ " ORDER BY id"
  | completedByRecency => columns ++ " WHERE status = ? ORDER BY finished_at DESC, id DESC"

def Query.params : Query → List SqlValue
  | byId id => [.text id]
  | all => []
  | completedByRecency => [.text completedStatus]

/-- The statement of a `Change` of a table, with a question mark for each parameter. -/
def Change.sql (table : TableName) : Change → String
  | insertStarted .. =>
    "INSERT INTO " ++ table.text ++ " (id, status, started_at) VALUES (?, ?, CAST(? AS TIMESTAMP))"
  | insertCompleted .. =>
    "INSERT INTO " ++ table.text ++ " (id, status, started_at, finished_at, checksum) " ++
      "VALUES (?, ?, CAST(? AS TIMESTAMP), CAST(? AS TIMESTAMP), ?)"
  | complete .. =>
    "UPDATE " ++ table.text ++ " SET status = ?, finished_at = CAST(? AS TIMESTAMP), " ++
      "checksum = ?, failure_reason = NULL WHERE id = ? AND status = ?"
  | fail .. =>
    "UPDATE " ++ table.text ++ " SET status = ?, finished_at = CAST(? AS TIMESTAMP), " ++
      "failure_reason = ? WHERE id = ? AND status = ?"
  | restart .. =>
    "UPDATE " ++ table.text ++ " SET status = ?, started_at = CAST(? AS TIMESTAMP), " ++
      "finished_at = NULL, failure_reason = NULL WHERE id = ? AND status = ?"
  | settle .. =>
    "UPDATE " ++ table.text ++ " SET status = ?, finished_at = CAST(? AS TIMESTAMP), " ++
      "checksum = COALESCE(CAST(? AS VARCHAR), checksum), failure_reason = NULL WHERE id = ?"
  | delete .. => "DELETE FROM " ++ table.text ++ " WHERE id = ?"

def timeParam (now : Time.Reading) : SqlValue :=
  .text now.toInstant.toMicrosText

def Change.params : Change → List SqlValue
  | insertStarted id now => [.text id, .text inProgressStatus, timeParam now]
  | insertCompleted id now checksum =>
    [.text id, .text completedStatus, timeParam now, timeParam now, .ofOption checksum]
  | complete id now checksum =>
    [.text completedStatus, timeParam now, .text checksum, .text id, .text inProgressStatus]
  | fail id now reason =>
    [.text failedStatus, timeParam now, .text reason, .text id, .text inProgressStatus]
  | restart id now => [.text inProgressStatus, timeParam now, .text id, .text failedStatus]
  | settle id now checksum =>
    [.text completedStatus, timeParam now, .ofOption checksum, .text id]
  | delete id => [.text id]

namespace Call

/-- The operation that a call goes through. -/
def method : Call → Method
  | relationExists _ => .relationExists
  | createSchema _ => .createSchema
  | createTable _ => .executeBatch
  | dropTable _ => .dropIfExists
  | select .. => .queryRows
  | change .. => .executeWithParams
  | batch _ => .executeBatch

/-- The statement or the name that a call is made with. -/
def text : Call → String
  | relationExists table => table.text
  | createSchema schema => schema
  | createTable table =>
    "CREATE TABLE IF NOT EXISTS " ++ table.text ++ " ( id VARCHAR PRIMARY KEY, " ++
      "status VARCHAR NOT NULL, started_at TIMESTAMP NOT NULL, finished_at TIMESTAMP, " ++
      "checksum VARCHAR, failure_reason VARCHAR )"
  | dropTable table => table.text
  | select table query => query.sql table
  | change table statement => statement.sql table
  | batch sql => sql

def params : Call → List SqlValue
  | select _ query => query.params
  | change _ statement => statement.params
  | _ => []

/-- What a call answers when it succeeds. -/
def Result : Call → Type
  | relationExists _ => Bool
  | select .. => List TrackingRow
  | change .. => Nat
  | _ => Unit

end Call

namespace Database

/-- Makes a tracking table without rows unless a relation with its name exists. -/
def createTracking (db : Database) (name : RelationName) (table : TrackingTable) :
    Except String Database :=
  if db.has name then .ok db
  else if db.hasSchema name.schema then .ok (db.add name (.tracking table))
  else .error (missingSchema name.schema)

/-- The rows of a tracking table that a query finds. -/
def select (db : Database) (table : TableName) (query : Query) : Except DbError (List TrackingRow) :=
  match db.find? table.relation with
  | some (.tracking rows) => .ok (query.run rows)
  | some (.plain _) => .error (.classify (otherColumns table.text))
  | none => .error (.classify (missingTable table.text))

/-- Changes a tracking table. The message of a failure ends with the statement. -/
def change (db : Database) (table : TableName) (statement : Change) :
    Except DbError Nat × Database :=
  let failure (text : String) : DbError := .execution (text ++ ": " ++ statement.sql table)
  match db.find? table.relation with
  | some (.tracking rows) =>
    match statement.apply rows with
    | .ok (rows, affected) => (.ok affected, db.replace table.relation (.tracking rows))
    | .error violation => (.error (failure (violation.message table.text)), db)
  | some (.plain _) => (.error (failure (otherColumns table.text)), db)
  | none => (.error (failure (missingTable table.text)), db)

end Database

end SchemaMigration
