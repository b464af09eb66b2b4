import SchemaMigration.Text.Quoted

/-! # Values that cross the database interface

Parameters of statements and columns of rows: a text, a 64-bit integer or nothing.
-/

namespace SchemaMigration

/-- A parameter or a column of a row. -/
inductive SqlValue where
  | null
  | text (s : String)
  | int (n : Int)
  deriving Repr, DecidableEq

namespace SqlValue

def text? : SqlValue → Option String
  | text s => some s
  | _ => none

def display : SqlValue → String
  | null => "null"
  | text s => s
  | int n => toString n

/-- A value with its kind, for diagnosis. -/
def describe : SqlValue → String
  | null => "Null"
  | text s => "Text(" ++ Text.quote s ++ ")"
  | int n => "Int(" ++ toString n ++ ")"

/-- A text, or null where there is none. -/
def ofOption : Option String → SqlValue
  | some s => text s
  | none => null

end SqlValue

end SchemaMigration
