import SchemaMigration.Database.Datum
import SchemaMigration.Database.Error
import SchemaMigration.Database.Name
import SchemaMigration.Database.TrackingTable

/-! # The database

A catalogue of schemas and of the relations in them. A relation is a tracking table or an ordinary
table; operations on one relation leave all the others as they are. `Database.find?` and
`Database.hasSchema` look for names as they are written: relations and schemas whose names differ in
case alone are different ones here, and an unquoted name is not folded.
-/

namespace SchemaMigration

structure Column where
  name : String
  type : ColumnType
  isKey : Bool
  isRequired : Bool
  deriving Repr, DecidableEq

/-- An ordinary table: its columns and its rows in the order of their insertion. -/
structure PlainTable where
  columns : List Column
  rows : List (List Datum)
  deriving Repr, DecidableEq

/-- What a name in a schema stands for. -/
inductive Relation where
  | tracking (table : TrackingTable)
  | plain (table : PlainTable)
  deriving Repr, DecidableEq

/-- Schemas by name, and relations by schema and name. -/
structure Database where
  schemas : List String
  relations : List (RelationName × Relation)
  deriving Repr, DecidableEq

namespace Database

/-- A database that was just made: nothing but the main schema. -/
def empty : Database := ⟨[mainSchema], []⟩

def find? (db : Database) (name : RelationName) : Option Relation :=
  db.relations.lookup name

def has (db : Database) (name : RelationName) : Bool :=
  (db.find? name).isSome

def hasSchema (db : Database) (schema : String) : Bool :=
  db.schemas.contains schema

/-- Makes a schema unless it exists. -/
def createSchema (db : Database) (schema : String) : Database :=
  if db.hasSchema schema then db else { db with schemas := db.schemas ++ [schema] }

/-- Puts a relation under a name that has none. -/
def add (db : Database) (name : RelationName) (relation : Relation) : Database :=
  { db with relations := db.relations ++ [(name, relation)] }

def drop (db : Database) (name : RelationName) : Database :=
  { db with relations := db.relations.filter fun entry => entry.1 ≠ name }

/-- Puts another relation in the place of the one that `find?` finds, if there is one. -/
def replace (db : Database) (name : RelationName) (relation : Relation) : Database :=
  { db with
    relations := db.relations.map fun entry =>
      if entry.1 = name then (name, relation) else entry }

def tracking? (db : Database) (name : RelationName) : Option TrackingTable :=
  match db.find? name with
  | some (.tracking table) => some table
  | _ => none

/-- The database's wording for a relation that does not exist. -/
def missingTable (text : String) : String :=
  "Catalog Error: Table with name " ++ text ++ " does not exist!"

def missingSchema (schema : String) : String :=
  "Catalog Error: Schema with name " ++ schema ++ " does not exist!"

def existingTable (name : String) : String :=
  "Catalog Error: Table with name \"" ++ name ++ "\" already exists!"

/-- The database's wording for a relation that has other columns than the statement asks for. -/
def otherColumns (text : String) : String :=
  "Binder Error: Table \"" ++ text ++ "\" does not have the columns of a tracking table"

end Database

end SchemaMigration
