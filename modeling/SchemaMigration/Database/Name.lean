/-! # Relation names

Tables and views live in schemas. A name may carry its schema in front of a dot; without one, the
relation is in the schema `main`. A tracking table's name is restricted further, since it is put
into statements as it is.

Two names stand for one relation only if they are equal: a `RelationName` is compared letter by
letter, upper and lower case apart. It is assumed that nobody names a relation or a schema in one
case and looks for it in another, although statements carry the names without quotes. Only the names
of columns are compared without regard to case.
-/

namespace SchemaMigration

/-- The schema of relations that are named without one. -/
def mainSchema : String := "main"

/-- A relation by its schema and its name in there, both in the case they were written in. -/
structure RelationName where
  schema : String
  name : String
  deriving Repr, DecidableEq

/-- The relation that a name with or without a schema stands for: the schema ends at the last
    dot. -/
def RelationName.ofQualified (text : String) : RelationName :=
  let fromEnd := text.toList.reverse
  match fromEnd.dropWhile (· ≠ '.') with
  | _ :: schema => ⟨String.ofList schema.reverse, String.ofList (fromEnd.takeWhile (· ≠ '.')).reverse⟩
  | [] => ⟨mainSchema, text⟩

def isIdentifierStart (c : Char) : Bool :=
  c.isAlpha || c == '_'

def isIdentifierPart (c : Char) : Bool :=
  c.isAlphanum || c == '_'

/-- Whether characters form an identifier: a letter or an underscore, then letters, digits and
    underscores, all of ASCII. -/
def isIdentifier : List Char → Bool
  | [] => false
  | c :: rest => isIdentifierStart c && rest.all isIdentifierPart

/-- The parts of a list of characters between its dots. -/
def splitAtDots : List Char → List (List Char)
  | [] => [[]]
  | c :: rest =>
    if c = '.' then [] :: splitAtDots rest
    else match splitAtDots rest with
      | part :: parts => (c :: part) :: parts
      | [] => [[c]]

/-- Whether a text names a tracking table: one `isIdentifier` between dots, or two. -/
def isTableName (text : String) : Bool :=
  let parts := splitAtDots text.toList
  parts.length ≤ 2 && parts.all isIdentifier

/-- The name of a tracking table, with or without a schema. -/
structure TableName where
  text : String
  isValid : isTableName text = true
  deriving DecidableEq

namespace TableName

def ofText? (text : String) : Option TableName :=
  if h : isTableName text = true then some ⟨text, h⟩ else none

/-- The name of the tracking table where none is configured. -/
def standard : TableName := ⟨"__schema_migrations", by decide⟩

/-- The schema that has to exist before the table: what stands in front of the first dot. -/
def schema? (t : TableName) : Option String :=
  let cs := t.text.toList
  if cs.contains '.' then some (String.ofList (cs.takeWhile (· ≠ '.'))) else none

def relation (t : TableName) : RelationName :=
  RelationName.ofQualified t.text

end TableName

end SchemaMigration
