import SchemaMigration.Database.Basic
import SchemaMigration.Sql.Token

/-! # Statements of SQL

`Statement` is the part of the language that is read from migrations and callers, and a text with
anything else in it is answered as a syntax error:

* `SELECT` over one table, over `range(n) t(c)` or over nothing, with comparisons joined by `AND` and
  an order by columns; there are no joins, groups or nested queries.
* `CREATE TABLE` with columns and their key and `NOT NULL` constraints, or `AS` such a query whose
  items are columns, counts or have names.
* `CREATE SCHEMA`, `DROP TABLE`, `DROP VIEW`, `INSERT` of given rows, `UPDATE` and `DELETE`.

An `Expr` has no arithmetic beyond a sign and no functions beyond `CAST`, `COALESCE`, `COUNT(*)` and
`ERROR`.
-/

namespace SchemaMigration.Sql

inductive Expr where
  | literal (d : Datum)
  /-- The parameter with a position, counted from zero. -/
  | param (index : Nat)
  | column (name : String)
  | cast (e : Expr) (type : ColumnType)
  | negate (e : Expr)
  /-- Fails with a message when it is evaluated. -/
  | error (message : Expr)
  | coalesce (first second : Expr)
  | count
  deriving Repr

structure Comparison where
  left : Expr
  operator : String
  right : Expr
  deriving Repr

/-- A column to sort by. -/
structure SortKey where
  column : String
  isDescending : Bool
  deriving Repr

/-- One of the values that a query asks for, and the name it is given with `AS`. -/
structure SelectItem where
  value : Expr
  given : Option String
  deriving Repr

inductive Selection where
  | everything
  | items (items : List SelectItem)
  deriving Repr

/-- The name of a column that an item makes. -/
def SelectItem.name? (item : SelectItem) : Option String :=
  item.given.or <| match item.value with
    | .column name => some name
    | .count => some "count_star()"
    | _ => none

/-- Whether every item makes a column with a name. -/
def Selection.isNamed : Selection → Bool
  | everything => true
  | items is => is.all (·.name?.isSome)

/-- Where a query takes its rows from. `nothing` is one row without columns. -/
inductive RowSource where
  | nothing
  | table (name : String)
  | range (bound : Nat) (column : String)
  deriving Repr

/-- A query. Its conditions hold together. -/
structure SelectQuery where
  selection : Selection
  source : RowSource
  conditions : List Comparison
  order : List SortKey
  deriving Repr

inductive Statement where
  | select (query : SelectQuery)
  | createTable (ifNotExists : Bool) (table : String) (columns : List Column)
  | createTableAs (ifNotExists : Bool) (table : String) (query : SelectQuery)
  | createSchema (ifNotExists : Bool) (schema : String)
  | dropTable (ifExists : Bool) (table : String)
  | dropView (ifExists : Bool) (view : String)
  | insert (table : String) (columns : Option (List String)) (rows : List (List Expr))
  | update (table : String) (assignments : List (String × Expr)) (conditions : List Comparison)
  | delete (table : String) (conditions : List Comparison)
  deriving Repr

/-- What is left to read and how many parameters have been read. -/
structure Cursor where
  rest : List Token
  params : Nat

abbrev Reader := StateT Cursor Option

namespace Reader

/-- The next token, which stays to be read. -/
def peek : Reader (Option Token) := do
  return (← get).rest.head?

def next : Reader Token := fun cursor =>
  match cursor.rest with
  | [] => none
  | t :: rest => some (t, { cursor with rest })

/-- Whether a token is the given word in any case. -/
def isWord (word : String) : Token → Bool
  | .word text => text.toUpper == word
  | _ => false

/-- Reads the token if it comes next. -/
def accept (p : Token → Bool) : Reader Bool := do
  match ← peek with
  | some t => if p t then do discard next; return true else return false
  | none => return false

/-- Reads a sign if it comes next. -/
def acceptSign (s : String) : Reader Bool := accept (· == .sign s)

/-- Reads a word if it comes next. -/
def acceptWord (word : String) : Reader Bool := accept (isWord word)

/-- Reads a sign, which has to come next. -/
def sign (s : String) : Reader Unit := do
  if !(← acceptSign s) then failure

/-- Reads a word, which has to come next. `acceptWord` leaves another one to be read. -/
def word (word : String) : Reader Unit := do
  if !(← acceptWord word) then failure

/-- Reads several words if the first of them comes next. -/
def acceptWords (first : String) (others : List String) : Reader Bool := do
  if ← acceptWord first then do
    others.forM word
    return true
  else return false

def name : Reader String := do
  match ← next with
  | .word text => return text
  | .quotedName text => return text
  | _ => failure

/-- Reads a name with parts between dots, as one text. -/
def qualifiedName : Reader String := do
  let first ← name
  if ← acceptSign "." then return first ++ "." ++ (← name) else return first

/-- Reads as many parts as stand between commas. -/
def commaList {α : Type} (item : Reader α) : (fuel : Nat) → Reader (List α)
  | 0 => failure
  | fuel + 1 => do
    let first ← item
    if ← acceptSign "," then return first :: (← commaList item fuel) else return [first]

/-- Reads parts between commas, as many as there are tokens left at most. -/
def list {α : Type} (item : Reader α) : Reader (List α) := do
  commaList item (← get).rest.length

/-- Reads the name of a type; sizes in parentheses are passed over. -/
def typeName : Reader ColumnType := do
  let text ← name
  if ← acceptSign "(" then
    discard (list next)
    sign ")"
  match ColumnType.ofName? text.toUpper with
  | some type => return type
  | none => failure

mutual

/-- Reads an expression without the conversions that may follow it. -/
def operand : (fuel : Nat) → Reader Expr
  | 0 => failure
  | fuel + 1 => do
    match ← next with
    | .text s => return .literal (.text s)
    | .numeral digits =>
      match Datum.ofNumeral? digits with
      | some d => return .literal d
      | none => failure
    | .quotedName text => return .column text
    | .sign "?" =>
      let cursor ← get
      set { cursor with params := cursor.params + 1 }
      return .param cursor.params
    | .sign "-" => return .negate (← operand fuel)
    | .sign "(" =>
      let e ← expr fuel
      sign ")"
      return e
    | .word text =>
      match text.toUpper with
      | "NULL" => return .literal .null
      | "TRUE" => return .literal (.boolean true)
      | "FALSE" => return .literal (.boolean false)
      | "CAST" =>
        sign "("
        let e ← expr fuel
        word "AS"
        let type ← typeName
        sign ")"
        return .cast e type
      | "COALESCE" =>
        sign "("
        let first ← expr fuel
        sign ","
        let second ← expr fuel
        sign ")"
        return .coalesce first second
      | "ERROR" =>
        sign "("
        let message ← expr fuel
        sign ")"
        return .error message
      | "COUNT" =>
        sign "("
        sign "*"
        sign ")"
        return .count
      | "TIMESTAMP" =>
        match ← next with
        | .text s => return .cast (.literal (.text s)) .timestamp
        | _ => failure
      | _ =>
        if ← acceptSign "." then return .column (← name) else return .column text
    | .sign _ => failure

def expr : (fuel : Nat) → Reader Expr
  | 0 => failure
  | fuel + 1 => do conversions fuel (← operand fuel)

/-- Reads the conversions that follow an expression. -/
def conversions : (fuel : Nat) → Expr → Reader Expr
  | 0, _ => failure
  | fuel + 1, e => do
    if ← acceptSign "::" then conversions fuel (.cast e (← typeName)) else return e

end

def expression : Reader Expr := do
  expr ((← get).rest.length * 2 + 2)

def comparison : Reader Comparison := do
  let left ← expression
  match ← next with
  | .sign operator =>
    if ["=", "<", ">", "<=", ">=", "<>", "!="].contains operator then
      return ⟨left, operator, ← expression⟩
    else failure
  | _ => failure

/-- Reads comparisons with `AND` between them. -/
def comparisons : (fuel : Nat) → Reader (List Comparison)
  | 0 => failure
  | fuel + 1 => do
    let first ← comparison
    if ← acceptWord "AND" then return first :: (← comparisons fuel) else return [first]

/-- Reads the conditions of a statement, if it has any. -/
def conditions : Reader (List Comparison) := do
  if ← acceptWord "WHERE" then comparisons (← get).rest.length else return []

def sortKey : Reader SortKey := do
  let column ← name
  if ← acceptWord "DESC" then return ⟨column, true⟩
  else
    discard (acceptWord "ASC")
    return ⟨column, false⟩

/-- Reads the constraints of a column, in any order. -/
def constraints (column : Column) : (fuel : Nat) → Reader Column
  | 0 => return column
  | fuel + 1 => do
    if ← acceptWords "PRIMARY" ["KEY"] then
      constraints { column with isKey := true, isRequired := true } fuel
    else if ← acceptWord "UNIQUE" then constraints { column with isKey := true } fuel
    else if ← acceptWords "NOT" ["NULL"] then constraints { column with isRequired := true } fuel
    else return column

def columnDefinition : Reader Column := do
  let column ← name
  let type ← typeName
  constraints ⟨column, type, false, false⟩ 3

def rowValues : Reader (List Expr) := do
  sign "("
  let es ← list expression
  sign ")"
  return es

def assignment : Reader (String × Expr) := do
  let column ← name
  sign "="
  return (column, ← expression)

def selectItem : Reader SelectItem := do
  let value ← expression
  if ← acceptWord "AS" then return ⟨value, some (← name)⟩ else return ⟨value, none⟩

def wholeNumber : Reader Nat := do
  match ← next with
  | .numeral digits =>
    match Datum.ofNumeral? digits with
    | some (.integer n) => return n.toNat
    | _ => failure
  | _ => failure

/-- Reads a table, or `range` with its bound and the names of its one column. -/
def rowSource : Reader RowSource := do
  let text ← qualifiedName
  if text.toUpper == "RANGE" then
    if ← acceptSign "(" then
      let bound ← wholeNumber
      sign ")"
      discard name
      sign "("
      let column ← name
      sign ")"
      return .range bound column
  return .table text

/-- Reads a query after its first word. -/
def selectQuery : Reader SelectQuery := do
  let selection ← if ← acceptSign "*" then pure .everything else .items <$> list selectItem
  let source ← if ← acceptWord "FROM" then rowSource else pure .nothing
  let conditions ← conditions
  let order ← if ← acceptWords "ORDER" ["BY"] then list sortKey else pure []
  return ⟨selection, source, conditions, order⟩

def statement : Reader Statement := do
  let first ← name
  match first.toUpper with
  | "SELECT" => return .select (← selectQuery)
  | "CREATE" =>
    if ← acceptWord "SCHEMA" then
      let ifNotExists ← acceptWords "IF" ["NOT", "EXISTS"]
      return .createSchema ifNotExists (← name)
    else
      word "TABLE"
      let ifNotExists ← acceptWords "IF" ["NOT", "EXISTS"]
      let table ← qualifiedName
      if ← acceptWord "AS" then
        word "SELECT"
        let query ← selectQuery
        if query.selection.isNamed then return .createTableAs ifNotExists table query else failure
      else
        sign "("
        let columns ← list columnDefinition
        sign ")"
        return .createTable ifNotExists table columns
  | "DROP" =>
    if ← acceptWord "VIEW" then
      let ifExists ← acceptWords "IF" ["EXISTS"]
      return .dropView ifExists (← qualifiedName)
    else
      word "TABLE"
      let ifExists ← acceptWords "IF" ["EXISTS"]
      return .dropTable ifExists (← qualifiedName)
  | "INSERT" =>
    word "INTO"
    let table ← qualifiedName
    let columns ← if ← acceptSign "(" then do
        let columns ← list name
        sign ")"
        pure (some columns)
      else pure none
    word "VALUES"
    return .insert table columns (← list rowValues)
  | "UPDATE" =>
    let table ← qualifiedName
    word "SET"
    let assignments ← list assignment
    return .update table assignments (← conditions)
  | "DELETE" =>
    word "FROM"
    let table ← qualifiedName
    return .delete table (← conditions)
  | _ => failure

end Reader

/-- The parts of a list of tokens between semicolons that are not empty. -/
def splitStatements (ts : List Token) : List (List Token) :=
  (ts.splitBy fun a b => a ≠ .sign ";" && b ≠ .sign ";").filter (· ≠ [.sign ";"])

/-- Reads one statement from all of the tokens, and counts its parameters. -/
def Statement.ofTokens? (ts : List Token) : Option (Statement × Nat) := do
  let (statement, cursor) ← Reader.statement ⟨ts, 0⟩
  if cursor.rest.isEmpty then some (statement, cursor.params) else none

/-- Reads statements between semicolons, each with the count of its parameters. -/
def Statement.listOf? (sql : String) : Option (List (Statement × Nat)) := do
  (splitStatements (← tokens sql)).mapM Statement.ofTokens?

end SchemaMigration.Sql
