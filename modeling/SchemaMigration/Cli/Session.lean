import SchemaMigration.Cli.Prompt
import SchemaMigration.Cli.Table
import SchemaMigration.Engine.Error
import SchemaMigration.World.Basic

/-! # Sessions

A `Command` works in a `Session`: it asks questions on the input, writes to the output and the error
output, and lets the engine work in a world. A command ends well, with an exit code after it has said
itself what is wrong, or with an error that is still to be reported.
-/

namespace SchemaMigration.Cli

/-- How a command ends when it does not end well. -/
inductive Failure where
  /-- All has been said. -/
  | exit (code : Nat)
  /-- An error and the causes behind it, the nearest first. -/
  | report (chain : List String)
  deriving Repr, DecidableEq

/-- What a command works with. -/
structure Session where
  /-- The input that has not been read. -/
  input : List UInt8
  output : String
  errors : String
  /-- The output up to the first question that found the input at its end. -/
  unanswered : Option String
  /-- The levels of notes that are shown on the error output. -/
  shown : List Level
  world : World

/-- A command or a part of one. -/
abbrev Command := ExceptT Failure (StateM Session)

namespace Session

def write (s : Session) (text : String) : Session :=
  { s with output := s.output ++ text }

def writeError (s : Session) (text : String) : Session :=
  { s with errors := s.errors ++ text }

/-- Reads the answer to a question that has been written. -/
def readAnswer (s : Session) : Except ReadFault String × Session :=
  let (answer, rest) := Cli.readAnswer s.input
  let unanswered := if s.input.isEmpty then s.unanswered.or (some s.output) else s.unanswered
  (answer, { s with input := rest, unanswered })

def noteLine (level : Level) (text : String) : String :=
  "[" ++ level.text.toUpper ++ "] " ++ text ++ "\n"

/-- The line for an event, if it is one that is shown. -/
def eventLine (shown : List Level) : Event → String
  | .noted level text => if shown.contains level then noteLine level text else ""
  | _ => ""

/-- Carries out an operation of the engine and shows its notes. -/
def engine {ε α : Type} (s : Session) (x : ExceptT ε Script α) : Except ε α × Session :=
  let (result, world) := s.world.run x
  let new := world.events.drop s.world.events.length
  (result, { s with world }.writeError (String.join (new.map (eventLine s.shown))))

end Session

namespace Command

def line (text : String) : Command Unit :=
  modify (·.write (text ++ "\n"))

def lines (texts : List String) : Command Unit :=
  modify (·.write (unlines texts))

def ask (question : String) : Command String := do
  modify (·.write question)
  match ← modifyGet Session.readAnswer with
  | .ok answer => return answer
  | .error fault => throw (.report (unreadableAnswer fault))

/-- Asks a question that is answered with yes or no. -/
def confirm (question : String) : Command Bool :=
  isYes <$> ask (yesNo question)

end Command

/-- The exit code when the definitions of completed migrations have changed. -/
def driftCode : Nat := 2

/-- The exit code when failed or in-progress migrations stand in the way. -/
def dirtyCode : Nat := 3

/-- The exit code when a migration failed and the operation stopped. -/
def haltedCode : Nat := 4

/-- What is said about migrations that a run or a rollback has finished. -/
def finishedWord : Direction → String
  | .up => "Applied"
  | .down => "Rolled back"

/-- Reports an error of the engine. Errors with an exit code of their own are reported at once. -/
def reportError (s : Session) : EngineError → Failure × Session
  | .dirtyState id state dirty =>
    let message := (EngineError.dirtyState id state dirty).message
    let lines := ("Error: " ++ message) :: (dirty.map fun id => "  dirty: " ++ id.text) ++
      ["Run `strata status --show-failed` for details."]
    (.exit dirtyCode, s.writeError (unlines lines))
  | .execution f =>
    let word := finishedWord f.direction
    let finished := f.completed.map fun id => "  " ++ word ++ ": " ++ id.text
    let count :=
      if f.completed.isEmpty then []
      else [word ++ " " ++ plural f.completed.length "migration" ++ " before the failure"]
    let s := s.write (unlines (finished ++ count))
    (.exit haltedCode, s.writeError (unlines ["Error: " ++ (EngineError.execution f).message]))
  | e => (.report (e.message :: e.causes), s)

def Failure.code : Failure → Nat
  | exit code => code
  | report _ => 1

/-- An error and the causes behind it in one line. -/
def Failure.chainText (chain : List String) : String :=
  ": ".intercalate chain

/-- What is still to be said about a failure. -/
def Failure.message : Failure → String
  | exit _ => ""
  | report chain => unlines ["Error: " ++ chainText chain]

/-- Carries out an operation of the engine as a part of a command. An error is reported by `reportError`. -/
def Command.engine {α : Type} (x : Engine α) : Command α := fun s =>
  match s.engine x with
  | (.ok a, s) => (.ok a, s)
  | (.error e, s) =>
    let (failure, s) := reportError s e
    (.error failure, s)

end SchemaMigration.Cli
