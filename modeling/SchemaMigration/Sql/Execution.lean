import SchemaMigration.Sql.Statement

/-! # Carrying out statements

What statements do to a database and what they answer. Each statement takes effect on its own and either
as a whole or not at all; in a batch, the statements before one that fails stay in effect. A tracking
table is open to statements like any other table (`asPlain`).
-/

namespace SchemaMigration.Sql

def trackingColumns (isConstrained : Bool) : List Column := [
  ⟨"id", .text, isConstrained, isConstrained⟩,
  ⟨"status", .text, false, isConstrained⟩,
  ⟨"started_at", .timestamp, false, isConstrained⟩,
  ⟨"finished_at", .timestamp, false, false⟩,
  ⟨"checksum", .text, false, false⟩,
  ⟨"failure_reason", .text, false, false⟩]

/-- The values of a row of a tracking table, in the order of the columns. -/
def trackingValues (r : TrackingRow) : List Datum :=
  let text (s : Option String) : Datum := (s.map .text).getD .null
  let time (t : Option Timestamp) : Datum := (t.map .timestamp).getD .null
  [text r.id, text r.status, time r.startedAt, time r.finishedAt, text r.checksum,
    text r.failureReason]

/-- The row of a tracking table with the given values. -/
def trackingRow (values : List Datum) : TrackingRow :=
  let text (i : Nat) : Option String :=
    match values[i]? with
    | some (.text s) => some s
    | _ => none
  let time (i : Nat) : Option Timestamp :=
    match values[i]? with
    | some (.timestamp t) => some t
    | _ => none
  ⟨text 0, text 1, time 2, time 3, text 4, text 5⟩

def asPlain : Relation → PlainTable
  | .plain table => table
  | .tracking table => ⟨trackingColumns table.isConstrained, table.rows.map trackingValues⟩

def withRows (rows : List (List Datum)) : Relation → Relation
  | .plain table => .plain { table with rows }
  | .tracking table => .tracking { table with rows := rows.map trackingRow }

/-- Where the names and parameters of an expression get their values. -/
structure Scope where
  params : List SqlValue
  columns : List Column
  row : List Datum

def Scope.column? (scope : Scope) (name : String) : Option Datum :=
  ((scope.columns.zip scope.row).find? fun (column, _) =>
    column.name.toLower == name.toLower).map Prod.snd

/-- The wording for a column that no table in scope has. -/
def unknownColumn (name : String) : String :=
  "Binder Error: Referenced column \"" ++ name ++ "\" not found in FROM clause!"

/-- The value of an expression, or the wording of what went wrong. -/
def Expr.eval (scope : Scope) : Expr → Except String Datum
  | literal d => .ok d
  | param index =>
    match scope.params[index]? with
    | some v => .ok (.ofValue v)
    | none => .error "Invalid Input Error: a parameter has no value"
  | column name =>
    match scope.column? name with
    | some d => .ok d
    | none => .error (unknownColumn name)
  | cast e type => do
    match (← e.eval scope).cast type with
    | some d => .ok d
    | none => .error "Conversion Error: Could not convert a value to the type that is asked for"
  | negate e => do
    match (← e.eval scope).negate with
    | some d => .ok d
    | none => .error "Binder Error: No function matches the given name and argument types"
  | error message => do
    match ← message.eval scope with
    | .text s => .error ("Invalid Input Error: " ++ s)
    | .null => .ok .null
    | _ => .error "Binder Error: No function matches the given name and argument types"
  | coalesce first second => do
    match ← first.eval scope with
    | .null => second.eval scope
    | d => .ok d
  | count => .error "Binder Error: aggregates are not allowed here"

/-- The type of the values of an expression; of alternatives, that of the first. -/
def Expr.type (params : List SqlValue) (columns : List Column) : Expr → Except String ColumnType
  | literal d => .ok d.type
  | param index => .ok ((params[index]?.map Datum.ofValue).getD .null).type
  | column name =>
    match columns.find? fun c => c.name.toLower == name.toLower with
    | some c => .ok c.type
    | none => .error (unknownColumn name)
  | cast _ type => .ok type
  | negate e => e.type params columns
  | error _ => .ok Datum.null.type
  | coalesce first _ => first.type params columns
  | count => .ok (.ofBits 64 true)

/-- Whether an ordering is one that a comparison sign asks for. -/
def holds (operator : String) (o : Ordering) : Bool :=
  match operator with
  | "=" => o == .eq
  | "<" => o == .lt
  | ">" => o == .gt
  | "<=" => o != .gt
  | ">=" => o != .lt
  | _ => o != .eq

/-- Whether a comparison holds. A comparison with a missing value does not. -/
def Comparison.test (scope : Scope) (c : Comparison) : Except String Bool := do
  let left ← c.left.eval scope
  let right ← c.right.eval scope
  return ((left.compare? right).map (holds c.operator)).getD false

def testAll (scope : Scope) : List Comparison → Except String Bool
  | [] => .ok true
  | c :: rest => do if ← c.test scope then testAll scope rest else .ok false

/-- The order that sort keys put rows into; missing values come last. -/
def precedes (columns : List Column) (a b : List Datum) : List SortKey → Bool
  | [] => true
  | key :: rest =>
    let value (row : List Datum) : Datum :=
      ((Scope.mk [] columns row).column? key.column).getD .null
    match value a, value b with
    | .null, .null => precedes columns a b rest
    | .null, _ => false
    | _, .null => true
    | x, y =>
      match x.compare? y with
      | some .lt => !key.isDescending
      | some .gt => key.isDescending
      | _ => precedes columns a b rest

/-- What a statement answers: the rows it selected and the count of rows it affected. -/
structure Answer where
  rows : List (List Datum)
  affected : Nat

def Answer.none : Answer := ⟨[], 0⟩

/-- The key of a row, with its column, if another row has it too. -/
def duplicateKey? (columns : List Column) (rows : List (List Datum)) (row : List Datum) :
    Option (Column × Datum) :=
  let keys := (columns.zip row).zipIdx.filter fun ((column, _), _) => column.isKey
  (keys.find? fun ((_, d), i) => d ≠ .null && rows.any fun other => other[i]? == some d).map Prod.fst

/-- Checks a row against the constraints of its table and against the rows before it. -/
def checkRow (table : String) (columns : List Column) (rows : List (List Datum))
    (row : List Datum) : Except String Unit := do
  match (columns.zip row).find? fun (column, d) => column.isRequired && d == .null with
  | some (column, _) =>
    .error ("Constraint Error: NOT NULL constraint failed: " ++ table ++ "." ++ column.name)
  | none => pure ()
  match duplicateKey? columns rows row with
  | some (column, d) =>
    let key := match d.cast .text with
      | some (.text s) => s
      | _ => ""
    .error ("Constraint Error: Duplicate key \"" ++ column.name ++ ": " ++ key ++
      "\" violates primary key constraint.")
  | none => pure ()

/-- Adds rows one after the other, each checked against those before it. -/
def addRows (table : String) (columns : List Column) :
    (rows new : List (List Datum)) → Except String (List (List Datum))
  | rows, [] => .ok rows
  | rows, row :: rest => do
    checkRow table columns rows row
    addRows table columns (rows ++ [row]) rest

/-- The row of a table with values for some of the columns. -/
def rowOf (scope : Scope) (table : String) (columns : List Column) (names : List String)
    (es : List Expr) : Except String (List Datum) := do
  if names.length ≠ es.length then
    .error ("Binder Error: table " ++ table ++ " has " ++ toString names.length ++
      " columns but " ++ toString es.length ++ " values were supplied")
  columns.mapM fun column =>
    match (names.zip es).lookup column.name with
    | some e => (Expr.cast e column.type).eval scope
    | none => .ok .null

def relationNamed (db : Database) (table : String) : Except String Relation :=
  match db.find? (.ofQualified table) with
  | some relation => .ok relation
  | none => .error (Database.missingTable table)

/-- The table that a query takes its rows from. -/
def RowSource.read (db : Database) : RowSource → Except String PlainTable
  | nothing => .ok ⟨[], [[]]⟩
  | table name => asPlain <$> relationNamed db name
  | range bound column =>
    .ok ⟨[⟨column, .ofBits 64 true, false, false⟩], (List.range bound).map fun n => [.integer (n : Nat)]⟩

/-- The rows that a query selects. -/
def selectRows (db : Database) (params : List SqlValue) (query : SelectQuery) :
    Except String (List (List Datum)) := do
  let source ← query.source.read db
  let rows ← source.rows.filterM fun row => testAll ⟨params, source.columns, row⟩ query.conditions
  let rows := rows.mergeSort fun a b => precedes source.columns a b query.order
  match query.selection with
  | .everything => return rows
  | .items [⟨.count, _⟩] => return [[.integer rows.length]]
  | .items items =>
    rows.mapM fun row => items.mapM fun i => i.value.eval ⟨params, source.columns, row⟩

/-- The column that an item of a query makes, without constraints. -/
def SelectItem.column (item : SelectItem) (params : List SqlValue) (columns : List Column) :
    Except String Column := do
  return ⟨item.name?.getD "", ← item.value.type params columns, false, false⟩

/-- The columns of the rows that `selectRows` gives. -/
def selectColumns (db : Database) (params : List SqlValue) (query : SelectQuery) :
    Except String (List Column) := do
  let source ← query.source.read db
  match query.selection with
  | .everything => return source.columns.map fun c => { c with isKey := false, isRequired := false }
  | .items items => items.mapM (SelectItem.column · params source.columns)

/-- Makes a table with contents that are only found out if they are needed. -/
def makeTable (db : Database) (ifNotExists : Bool) (table : String)
    (contents : Except String PlainTable) : Except String (Answer × Database) :=
  let name := RelationName.ofQualified table
  if db.has name then
    if ifNotExists then .ok (.none, db) else .error (Database.existingTable name.name)
  else if db.hasSchema name.schema then
    contents.map fun made => (⟨[], made.rows.length⟩, db.add name (.plain made))
  else .error (Database.missingSchema name.schema)

/-- Carries out a statement. -/
def Statement.run (db : Database) (params : List SqlValue) :
    Statement → Except String (Answer × Database)
  | select query => do return (⟨← selectRows db params query, 0⟩, db)
  | createTable ifNotExists table columns => makeTable db ifNotExists table (.ok ⟨columns, []⟩)
  | createTableAs ifNotExists table query => makeTable db ifNotExists table do
    return ⟨← selectColumns db params query, ← selectRows db params query⟩
  | createSchema ifNotExists schema =>
    if db.hasSchema schema && !ifNotExists then
      .error ("Catalog Error: Schema with name \"" ++ schema ++ "\" already exists!")
    else .ok (.none, db.createSchema schema)
  | dropTable ifExists table =>
    let name := RelationName.ofQualified table
    if db.has name then .ok (.none, db.drop name)
    else if ifExists then .ok (.none, db)
    else .error (Database.missingTable table)
  | dropView ifExists view =>
    if db.has (.ofQualified view) then
      .error ("Catalog Error: Existing object " ++ view ++ " is of type Table, trying to drop type View")
    else if ifExists then .ok (.none, db)
    else .error ("Catalog Error: View with name " ++ view ++ " does not exist!")
  | insert table names rows => do
    let relation ← relationNamed db table
    let ⟨columns, old⟩ := asPlain relation
    let names := names.getD (columns.map Column.name)
    let new ← rows.mapM (rowOf ⟨params, [], []⟩ table columns names)
    let all ← addRows table columns old new
    return (⟨[], new.length⟩, db.replace (.ofQualified table) (withRows all relation))
  | update table assignments conditions => do
    let relation ← relationNamed db table
    let ⟨columns, old⟩ := asPlain relation
    let rows ← old.mapM fun row => do
      let scope := ⟨params, columns, row⟩
      if ← testAll scope conditions then
        let changed ← (columns.zip row).mapM fun (column, d) =>
          match assignments.lookup column.name with
          | some e => (Expr.cast e column.type).eval scope
          | none => .ok d
        return (changed, true)
      else return (row, false)
    let all ← addRows table columns [] (rows.map Prod.fst)
    return (⟨[], rows.countP Prod.snd⟩, db.replace (.ofQualified table) (withRows all relation))
  | delete table conditions => do
    let relation ← relationNamed db table
    let ⟨columns, old⟩ := asPlain relation
    let kept ← old.filterM fun row => do return !(← testAll ⟨params, columns, row⟩ conditions)
    return (⟨[], old.length - kept.length⟩,
      db.replace (.ofQualified table) (withRows kept relation))

def runAll (params : List SqlValue) : (answer : Answer) → List (Statement × Nat) → Database →
    Except String Answer × Database
  | answer, [], db => (.ok answer, db)
  | _, (statement, needed) :: rest, db =>
    if needed ≠ params.length then
      (.error "Invalid Input Error: the parameters do not match the statement", db)
    else match statement.run db params with
      | .ok (answer, db) => runAll params answer rest db
      | .error text => (.error text, db)

/-- The wording for a text that is no sequence of statements. -/
def syntaxFault (sql : String) : String :=
  "Parser Error: syntax error in \"" ++ sql ++ "\""

/-- Carries out a text of statements with parameters; without any statement there is nothing to
    answer. -/
def runText (params : List SqlValue) (sql : String) (db : Database) :
    Except String Answer × Database :=
  match Statement.listOf? sql with
  | none => (.error (syntaxFault sql), db)
  | some statements => runAll params .none statements db

def runBatch (sql : String) (db : Database) : Except DbError Unit × Database :=
  let (answer, db) := runText [] sql db
  (answer.mapError DbError.classify |>.map fun _ => (), db)

/-- Carries out a statement with parameters and counts the rows it affected. The message of a
    failure ends with the statement. -/
def execute (sql : String) (params : List SqlValue) (db : Database) :
    Except DbError Nat × Database :=
  let (answer, db) := runText params sql db
  (answer.mapError (fun text => .execution (text ++ ": " ++ sql)) |>.map Answer.affected, db)

/-- Carries out a query with parameters. -/
def query (sql : String) (params : List SqlValue) (db : Database) :
    Except DbError (List (List SqlValue)) × Database :=
  let (answer, db) := runText params sql db
  (answer.mapError DbError.classify |>.map fun a => a.rows.map (·.map Datum.toValue), db)

/-- Drops a table or a view if there is one with the given name. -/
def dropIfExists (name : String) (db : Database) : Except DbError Unit × Database :=
  let (_, db) := execute ("DROP VIEW IF EXISTS " ++ name) [] db
  let (result, db) := execute ("DROP TABLE IF EXISTS " ++ name) [] db
  (result.map fun _ => (), db)

/-- Makes the schema with the given name unless it exists. -/
def createSchemaIfNotExists (name : String) (db : Database) : Except DbError Unit × Database :=
  let (result, db) := execute ("CREATE SCHEMA IF NOT EXISTS " ++ name) [] db
  (result.map fun _ => (), db)

end SchemaMigration.Sql
