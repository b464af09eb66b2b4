import SchemaMigration.Engine.Survey
import SchemaMigration.Text.Quoted

/-! # Rollbacks

A rollback takes back completed migrations, the most recently finished one first. Which ones it takes
back is planned (`planRollback`) before anything is executed, and a plan with a migration that is unknown
or has no reverse action is refused as a whole. A step executes the reverse action and deletes the
record; the first failure ends the rollback.
-/

namespace SchemaMigration

/-- Which completed migrations a rollback takes back. -/
inductive RollbackStrategy where
  /-- The most recently completed one. -/
  | last
  /-- All those with an id after the given one. -/
  | downTo (id : MigrationId)
  /-- A number of the most recently completed ones. -/
  | steps (n : Nat)
  | all
  deriving DecidableEq

namespace RollbackStrategy

/-- Why a text is no strategy. -/
inductive Fault where
  | invalidId (text : String)
  | zeroSteps
  | invalidCount (text : String)
  | unknown (text : String)
  deriving Repr, DecidableEq

def Fault.message : Fault → String
  | invalidId text => "invalid migration id in '" ++ text ++ "'"
  | zeroSteps => "steps must be at least 1"
  | invalidCount text => "invalid step count in '" ++ text ++ "'"
  | unknown text =>
    "unknown rollback strategy '" ++ text ++ "' (expected last, down-to:ID, steps:N or all)"

/-- What is left of a text after the given beginning. -/
def afterStart? (start text : String) : Option String :=
  if start.toList.isPrefixOf text.toList then
    some (String.ofList (text.toList.drop start.toList.length))
  else none

/-- A count in decimal digits, with an optional plus sign, that fits into 64 bits. -/
def count? (text : String) : Option Nat :=
  let digits := match text.toList with
    | '+' :: rest => rest
    | cs => cs
  if !digits.isEmpty && digits.all Char.isDigit && Time.digitsValue digits < Number.pow2 64 then
    some (Time.digitsValue digits)
  else none

def parse (text : String) : Except Fault RollbackStrategy :=
  if text = "last" then .ok last
  else if text = "all" then .ok all
  else if let some id := afterStart? "down-to:" text then
    match MigrationId.ofText? id with
    | some id => .ok (downTo id)
    | none => .error (.invalidId text)
  else if let some n := afterStart? "steps:" text then
    match count? n with
    | some 0 => .error .zeroSteps
    | some n => .ok (steps n)
    | none => .error (.invalidCount text)
  else .error (.unknown text)

def text : RollbackStrategy → String
  | last => "last"
  | downTo id => "down-to:" ++ id.text
  | steps n => "steps:" ++ Nat.repr n
  | all => "all"

def describe : RollbackStrategy → String
  | last => "Last"
  | downTo id => "DownTo(MigrationId(" ++ Text.quote id.text ++ "))"
  | steps n => "Steps(" ++ Nat.repr n ++ ")"
  | all => "All"

/-- The ids that a strategy selects from those of completed migrations, given in the order of
    `Tracker.completedByRecency`. -/
def select (completed : List MigrationId) : RollbackStrategy → List MigrationId
  | last => completed.take 1
  | downTo id => completed.filter fun other => id < other
  | steps n => completed.take n
  | all => completed

end RollbackStrategy

/-- What a rollback did. -/
structure RollbackReport where
  rolledBack : List MigrationId
  /-- What a dry run would have taken back. -/
  planned : List MigrationId
  dryRun : Bool
  deriving DecidableEq

/-- Whether there was nothing to take back. -/
def RollbackReport.isNoop (r : RollbackReport) : Bool :=
  r.rolledBack.isEmpty && r.planned.isEmpty

namespace Runner

/-- The migration with an id, provided that it `isReversible`. -/
def findReversible (migrations : List Migration) (id : MigrationId) :
    Except EngineError Migration := do
  let m ← findMigration id.text migrations
  if m.isReversible then .ok m else .error (.irreversible id)

/-- Refuses a lower end that is neither in the source nor in the tracking table. -/
def checkLowerEnd (t : Tracker) (tableExists : Bool) (migrations : List Migration) :
    RollbackStrategy → Engine Unit
  | .downTo id => do
    let inSource := migrations.any (·.id = id)
    let tracked ← if tableExists then Option.isSome <$> t.get? id.text else pure false
    if !inSource && !tracked then throw (.notFound id.text)
  | _ => return

/-- The migrations that a rollback would take back, in the order of execution. -/
def planRollback (r : Runner) (strategy : RollbackStrategy) : Engine (List Migration) := do
  let migrations ← r.discover
  let tableExists ← r.tracker.isCreated
  checkLowerEnd r.tracker tableExists migrations strategy
  let completed ← if tableExists then r.tracker.completedByRecency else pure []
  let selected := strategy.select (completed.map MigrationRecord.id)
  Engine.ofExcept (selected.mapM (findReversible migrations))

/-- Takes back migrations one after the other; `rolledBack` holds those of the same rollback before
    them. -/
def takeBackAll (t : Tracker) : (rolledBack : List MigrationId) → List Migration →
    Engine (List MigrationId)
  | rolledBack, [] => return rolledBack
  | rolledBack, m :: rest => do
    let some action := m.down | throw (.irreversible m.id)
    match ← Engine.perform m.id .down action with
    | .ok () =>
      discard (t.remove m.id)
      Engine.note .info ("Rolled back " ++ m.id.text)
    | .error error =>
      Engine.note .error ("Rollback of " ++ m.id.text ++ " failed: " ++ error.message)
      throw (.execution ⟨m.id, .down, .completed, error.message, rolledBack⟩)
    takeBackAll t (rolledBack ++ [m.id]) rest

/-- Takes back the migrations that a strategy selects. -/
def rollback (r : Runner) (strategy : RollbackStrategy) (dryRun : Bool) :
    Engine RollbackReport := do
  let plan ← r.planRollback strategy
  if plan.isEmpty then
    Engine.note .info "Nothing to roll back"
    return ⟨[], [], dryRun⟩
  if dryRun then
    plan.forM fun m => Engine.note .info ("Would roll back " ++ m.id.text)
    return ⟨[], idsOf plan, dryRun⟩
  return ⟨← takeBackAll r.tracker [] plan, [], dryRun⟩

end Runner

end SchemaMigration
