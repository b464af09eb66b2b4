import SchemaMigration.Engine.Rollback

/-! # Arguments

The arguments of one command: options, which have long and short names, and at most one argument without
a name. An option that is given twice is refused. The value of an option is looked at by `settle` when
the next argument is taken in, so that of two mistakes the first one in this order is reported.
-/

namespace SchemaMigration.Cli

inductive OutputFormat where
  | table
  | json
  deriving Repr, DecidableEq

/-- What kind of value an option has. -/
inductive OptionKind where
  /-- No value: the option is given or not. -/
  | switch
  | text
  | count
  | strategy
  | format
  /-- Asks for help instead of anything else. -/
  | help
  /-- Asks for the version instead of anything else. -/
  | version
  deriving Repr, DecidableEq

inductive OptionValue where
  | given
  | text (s : String)
  | count (n : Nat)
  | strategy (s : RollbackStrategy)
  | format (f : OutputFormat)
  deriving DecidableEq

/-- An option with its names. -/
structure OptionSpec where
  name : String
  short : Option Char
  kind : OptionKind
  deriving Repr, DecidableEq

inductive UsageError where
  | unknownArgument
  | unknownCommand
  | missingCommand
  /-- No arguments where some are needed. -/
  | nothingGiven
  /-- A value that is missing or none of those that are possible. -/
  | invalidValue
  /-- A value that cannot be read. -/
  | unreadableValue
  /-- A value for a switch. -/
  | unexpectedValue
  /-- Arguments that exclude each other, or one that is given twice. -/
  | conflict
  | missingArgument
  deriving Repr, DecidableEq

/-- Why arguments ask for no command: they ask for help or the version, or hold a `UsageError`. -/
inductive Stop where
  | help
  | version
  | mistake (e : UsageError)
  deriving Repr, DecidableEq

namespace OptionKind

def takesValue : OptionKind → Bool
  | text | count | strategy | format => true
  | switch | help | version => false

def read (value : String) : OptionKind → Except UsageError OptionValue
  | text => .ok (.text value)
  | count =>
    match RollbackStrategy.count? value with
    | some n => .ok (.count n)
    | none => .error .unreadableValue
  | strategy =>
    match RollbackStrategy.parse value with
    | .ok s => .ok (.strategy s)
    | .error _ => .error .unreadableValue
  | format =>
    if value = "table" then .ok (.format .table)
    else if value = "json" then .ok (.format .json)
    else .error .invalidValue
  | switch | help | version => .ok .given

end OptionKind

/-- The arguments of a command as far as they have been taken in. -/
structure Arguments where
  options : List OptionSpec
  /-- The name of the argument without a name of its own, until it is given. -/
  unnamed : Option String
  values : List (String × OptionValue)
  /-- An argument that has been met and not looked at, with its value if that has been met. -/
  pending : Option (OptionSpec × Option String)

namespace Arguments

/-- Stops because of a mistake. -/
def refuse {α : Type} (e : UsageError) : Except Stop α :=
  .error (.mistake e)

/-- No arguments of a command with the given options. -/
def start (options : List OptionSpec) (unnamed : Option String) : Arguments :=
  ⟨options, unnamed, [], none⟩

def value? (a : Arguments) (name : String) : Option OptionValue :=
  a.values.lookup name

def keep (a : Arguments) (o : OptionSpec) (value : OptionValue) : Except Stop Arguments :=
  if (a.value? o.name).isSome then refuse .conflict
  else .ok { a with values := a.values ++ [(o.name, value)] }

def settle (a : Arguments) : Except Stop Arguments :=
  match a.pending with
  | none => .ok a
  | some (_, none) => refuse .invalidValue
  | some (o, some value) => do
    let value ← (o.kind.read value).mapError .mistake
    { a with pending := none }.keep o value

def takeWhole (a : Arguments) (o : OptionSpec) (value : String) : Except Stop Arguments := do
  let a ← a.settle
  match o.kind with
  | .help => .error .help
  | .version => .error .version
  | kind =>
    let value ← (kind.read value).mapError .mistake
    a.keep o value

/-- Takes in an option whose value is the next argument, which `isAwaiting` tells until then. -/
def await (a : Arguments) (o : OptionSpec) : Except Stop Arguments := do
  return { (← a.settle) with pending := some (o, none) }

/-- Whether the next argument is the value of an option. -/
def isAwaiting (a : Arguments) : Bool :=
  match a.pending with
  | some (_, none) => true
  | _ => false

/-- Takes in the value of the option that has been met. -/
def takeValue (a : Arguments) (value : String) : Arguments :=
  { a with pending := a.pending.map fun (o, _) => (o, some value) }

/-- Splits a text at the first equals sign. -/
def splitAtEquals (cs : List Char) : List Char × Option String :=
  match cs.dropWhile (· ≠ '=') with
  | _ :: value => (cs.takeWhile (· ≠ '='), some (String.ofList value))
  | [] => (cs, none)

/-- Takes in an option by its long name, without the hyphens that `shape` has met. -/
def takeLong (a : Arguments) (cs : List Char) : Except Stop Arguments :=
  let (name, value) := splitAtEquals cs
  match a.options.find? fun o => o.name.toList == name with
  | none => refuse .unknownArgument
  | some o =>
    match o.kind.takesValue, value with
    | true, some value => a.takeWhole o value
    | true, none => a.await o
    | false, some _ => refuse .unexpectedValue
    | false, none => a.takeWhole o ""

/-- Takes in options by their short names; the hyphen is gone. What follows the name of an option
    with a value is its value. -/
def takeShort : List Char → Arguments → Except Stop Arguments
  | [], a => .ok a
  | c :: rest, a =>
    match a.options.find? fun o => o.short == some c with
    | none => refuse .unknownArgument
    | some o =>
      if o.kind.takesValue then
        match rest with
        | [] => a.await o
        | '=' :: value => a.takeWhole o (String.ofList value)
        | value => a.takeWhole o (String.ofList value)
      else do
        let a ← a.takeWhole o ""
        takeShort rest a

def takeUnnamed (a : Arguments) (value : String) : Except Stop (Option Arguments) := do
  match a.unnamed with
  | none => return none
  | some name =>
    let a ← a.settle
    return some { a with unnamed := none, pending := some (⟨name, none, .text⟩, some value) }

inductive Shape where
  | separator
  | long (cs : List Char)
  | short (cs : List Char)
  | plain

/-- The shape of an argument. A single hyphen is plain. -/
def shape (argument : String) : Shape :=
  match argument.toList with
  | ['-', '-'] => .separator
  | '-' :: '-' :: cs => .long cs
  | '-' :: c :: cs => .short (c :: cs)
  | _ => .plain

/-- What follows from an argument that is neither an option nor a value. -/
def Unplaced := (separated : Bool) → (argument : String) → UsageError

/-- Takes in arguments up to the name of a command among `commands`. Behind a separator, no argument is
    an option. Answers the name of the command and the arguments behind it. -/
def takeAll (commands : List String) (unplaced : Unplaced) :
    (arguments : List String) → (separated : Bool) → Arguments →
    Except Stop (Arguments × Option (String × List String))
  | [], _, a => .ok (a, none)
  | argument :: rest, separated, a =>
    let takePlain : Except Stop (Arguments × Option (String × List String)) := do
      match ← a.takeUnnamed argument with
      | some a => takeAll commands unplaced rest separated a
      | none => refuse (unplaced separated argument)
    if separated then takePlain
    else if !a.isAwaiting && commands.contains argument then .ok (a, some (argument, rest))
    else match shape argument with
      | .separator => takeAll commands unplaced rest true a
      | .long cs => do takeAll commands unplaced rest separated (← a.takeLong cs)
      | .short cs => do takeAll commands unplaced rest separated (← takeShort cs a)
      | .plain =>
        if a.isAwaiting then takeAll commands unplaced rest separated (a.takeValue argument)
        else takePlain

def has (a : Arguments) (name : String) : Bool :=
  (a.value? name).isSome

def text? (a : Arguments) (name : String) : Option String :=
  match a.value? name with
  | some (.text s) => some s
  | _ => none

def count? (a : Arguments) (name : String) : Option Nat :=
  match a.value? name with
  | some (.count n) => some n
  | _ => none

/-- Refuses two options that are both given. -/
def exclude (a : Arguments) (name other : String) : Except Stop Unit :=
  if a.has name && a.has other then refuse .conflict else .ok ()

/-- Refuses arguments without one that is needed. -/
def require (a : Arguments) (name : String) : Except Stop Unit :=
  if a.has name then .ok () else refuse .missingArgument

end Arguments

end SchemaMigration.Cli
