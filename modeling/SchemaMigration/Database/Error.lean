/-! # Database errors

A failed call on the database, and the sorting (`classify`) of the database's own messages into causes.
Its messages carry no code, so that their wording is all there is to go by.
-/

namespace SchemaMigration

/-- Why a call on the database failed. -/
inductive DbError where
  | connection (text : String)
  | execution (text : String)
  | tableNotFound (text : String)
  | lockPoisoned (text : String)
  deriving Repr, DecidableEq

namespace DbError

def message : DbError → String
  | connection text => "[D001] Database connection failed: " ++ text
  | execution text => "[D002] SQL execution failed: " ++ text
  | tableNotFound text => "[D003] Table or view not found: " ++ text
  | lockPoisoned text => "[D006] Database mutex poisoned: " ++ text

/-- Whether the characters `part` stand somewhere in a list of characters, one after the other. -/
def occursIn (part : List Char) : List Char → Bool
  | [] => part.isEmpty
  | c :: rest => part.isPrefixOf (c :: rest) || occursIn part rest

/-- Whether one text occurs inside another. -/
def occurs (part whole : String) : Bool :=
  occursIn part.toList whole.toList

/-- Sorts a message of the database by the words that `occurs` finds in it: it is about a missing table
    or view, or about anything else. -/
def classify (text : String) : DbError :=
  if occurs "Table with name" text || occurs "View with name" text ||
      occurs "Table or view with name" text ||
      (occurs "Catalog Error" text && occurs "Table" text && occurs "not found" text) then
    tableNotFound text
  else execution text

end DbError

end SchemaMigration
