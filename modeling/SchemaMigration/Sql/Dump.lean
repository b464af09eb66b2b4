import SchemaMigration.Sql.Execution

/-! # Databases as statements

A database is kept in a file as the statements that make it from an empty one: its schemas, its
tables and their rows. Reading such a text carries the statements out.
-/

namespace SchemaMigration.Sql

/-- Characters as they stand between quotes: a quote is written twice. -/
def escapeMark (mark : Char) (cs : List Char) : List Char :=
  cs.flatMap fun c => if c = mark then [mark, mark] else [c]

def quoted (mark : Char) (s : String) : String :=
  String.ofList (mark :: (escapeMark mark s.toList ++ [mark]))

def typeNames : List String := [
  "VARCHAR", "TINYINT", "SMALLINT", "INTEGER", "BIGINT", "HUGEINT", "UTINYINT", "USMALLINT",
  "UINTEGER", "UBIGINT", "UHUGEINT", "DECIMAL", "DOUBLE", "BOOLEAN", "TIMESTAMP"]

def typeText (type : ColumnType) : String :=
  (typeNames.find? fun name => ColumnType.ofName? name = some type).getD "VARCHAR"

/-- A conversion of a text to a type. -/
def castText (s : String) (type : ColumnType) : String :=
  "CAST(" ++ quoted '\'' s ++ " AS " ++ typeText type ++ ")"

/-- The expression that a value is written as. -/
def datumText (d : Datum) : String :=
  match d with
  | .null => "NULL"
  | .text s => quoted '\'' s
  | .integer n => toString n
  | .decimal n scale => Datum.numeral n (Number.pow10 scale) scale ++ if scale = 0 then "." else ""
  | .double isNegative .infinite => castText (if isNegative then "-infinity" else "infinity") .double
  | .double isNegative (.finite m q) =>
    let digits :=
      if 0 ≤ q then Nat.repr (m * Number.pow2 q.toNat)
      else Datum.numeral m (Number.pow2 (-q).toNat) (-q).toNat
    (if isNegative then "-" else "") ++ digits ++ "e0"
  | .notANumber => castText "nan" .double
  | .boolean b => if b then "TRUE" else "FALSE"
  | .timestamp t => castText t.text .timestamp

def columnText (c : Column) : String :=
  quoted '"' c.name ++ " " ++ typeText c.type ++ (if c.isKey then " UNIQUE" else "") ++
    if c.isRequired then " NOT NULL" else ""

/-- The statements that make a relation and put its rows in. -/
def relationText (name : RelationName) (relation : Relation) : List String :=
  let ⟨columns, rows⟩ := asPlain relation
  let target := quoted '"' name.schema ++ "." ++ quoted '"' name.name
  ("CREATE TABLE " ++ target ++ " (" ++ ", ".intercalate (columns.map columnText) ++ ")") ::
    rows.map fun row =>
      "INSERT INTO " ++ target ++ " VALUES (" ++ ", ".intercalate (row.map datumText) ++ ")"

/-- The statements that make a database, one to a line. -/
def dump (db : Database) : String :=
  let schemas := db.schemas.map fun schema => "CREATE SCHEMA IF NOT EXISTS " ++ quoted '"' schema
  let relations := db.relations.flatMap fun (name, relation) => relationText name relation
  String.join ((schemas ++ relations).map (· ++ ";\n"))

/-- A table with the columns of a tracking table is one. -/
def asTracking : Relation → Relation
  | .plain table =>
    if table.columns = trackingColumns true then .tracking ⟨true, table.rows.map trackingRow⟩
    else if table.columns = trackingColumns false then
      .tracking ⟨false, table.rows.map trackingRow⟩
    else .plain table
  | relation => relation

/-- The database that statements make. A table with the columns of a tracking table is one, by
    `asTracking`. -/
def ofDump? (text : String) : Option Database :=
  match runBatch text .empty with
  | (.ok (), db) =>
    some { db with relations := db.relations.map fun (name, relation) => (name, asTracking relation) }
  | (.error _, _) => none

end SchemaMigration.Sql
