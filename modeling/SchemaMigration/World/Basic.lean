import SchemaMigration.Script.Basic
import SchemaMigration.Sql.Execution

/-! # The surroundings of scripts

Scripts are carried out in a `World`: a database, a clock, and a record of everything that happened.
Calls on the database may be made to fail (`ArmedFault`), which is how interruptions at any point are
brought about; a call that is made to fail does not reach the database.
-/

namespace SchemaMigration

/-- A failure that is waiting for a call of an operation. -/
structure ArmedFault where
  method : Method
  /-- How many more calls of the operation it takes until one fails. -/
  remaining : Nat
  error : DbError
  deriving DecidableEq

/-- Something that happened. -/
inductive Event where
  | called (c : Call) (answer : Except DbError c.Result)
  | performed (id : MigrationId) (direction : Direction) (action : Action)
      (outcome : Except DbError Unit)
  | noted (level : Level) (text : String)

/-- What scripts are carried out in. -/
structure World where
  database : Database
  faults : List ArmedFault
  /-- What the clock shows when it is read for the first time, the second time and so on. -/
  clock : Nat → Time.Reading
  /-- How often the clock has been read. -/
  readings : Nat
  /-- The executions of procedures so far. -/
  executions : List (MigrationId × Direction)
  /-- What happened, in order. -/
  events : List Event

namespace ArmedFault

def countDown (method : Method) (f : ArmedFault) : ArmedFault :=
  if f.method = method then { f with remaining := f.remaining - 1 } else f

def isDue (method : Method) (f : ArmedFault) : Bool :=
  f.method = method && f.remaining = 0

/-- The error that strikes a call of an operation, if one does, and the faults that are still
    waiting after the call. Of several faults that are due, the first one strikes. -/
def strike (method : Method) (faults : List ArmedFault) : Option DbError × List ArmedFault :=
  let faults := faults.map (countDown method)
  match faults.find? (isDue method) with
  | some f => (some f.error, faults.eraseP (isDue method))
  | none => (none, faults)

end ArmedFault

namespace Database

/-- What a call answers and does to a database. -/
def answer (db : Database) : (c : Call) → Except DbError c.Result × Database
  | .relationExists table => (.ok (db.has table.relation), db)
  | .createSchema schema => (.ok (), db.createSchema schema)
  | .createTable table =>
    match db.createTracking table.relation .empty with
    | .ok db => (.ok (), db)
    | .error text => (.error (.classify text), db)
  | .dropTable table => (.ok (), db.drop table.relation)
  | .select table query => (db.select table query, db)
  | .change table statement => db.change table statement
  | .batch sql => Sql.runBatch sql db

end Database

namespace World

/-- A world with nothing but a database and a clock. -/
def start (db : Database) (clock : Nat → Time.Reading) : World :=
  ⟨db, [], clock, 0, [], []⟩

def record (w : World) (e : Event) : World :=
  { w with events := w.events ++ [e] }

/-- Makes a call on the database. -/
def call (w : World) (c : Call) : Except DbError c.Result × World :=
  let (error?, faults) := ArmedFault.strike c.method w.faults
  let (answer, database) := match error? with
    | some error => (.error error, w.database)
    | none => w.database.answer c
  (answer, { w with database, faults }.record (.called c answer))

def batch (w : World) (sql : String) : Except DbError Unit × World :=
  w.call (.batch sql)

/-- Executes a procedure: its outcome depends on how often it was executed before. -/
def execute (w : World) (id : MigrationId) (direction : Direction) (outcomes : List Outcome) :
    Except DbError Unit × World :=
  let before := w.executions.countP (· = (id, direction))
  let w := { w with executions := (id, direction) :: w.executions }
  match Action.outcomeAfter before outcomes with
  | .done => (.ok (), w)
  | .failed error => (.error error, w)
  | .statements sql => w.batch sql

/-- Executes an action. Statements that are blank are not sent to the database. -/
def perform (w : World) (id : MigrationId) (direction : Direction) (action : Action) :
    Except DbError Unit × World :=
  let (outcome, w) : Except DbError Unit × World := match action with
    | .sql text => if Text.isBlankText text then (.ok (), w) else w.batch text
    | .procedure _ outcomes => w.execute id direction outcomes
  (outcome, w.record (.performed id direction action outcome))

def respond : (r : Request) → World → r.Response × World
  | .call c, w => w.call c
  | .perform id direction action, w => w.perform id direction action
  | .readClock, w => (w.clock w.readings, { w with readings := w.readings + 1 })
  | .note level text, w => ((), w.record (.noted level text))

/-- Carries out an operation of the engine, whose requests are answered by `respond`. -/
def run {ε α : Type} (w : World) (x : ExceptT ε Script α) : Except ε α × World :=
  Script.run respond x.run w

end World

end SchemaMigration
