import SchemaMigration.Cli.Program
import SchemaMigration.Cli.Usage
import SchemaMigration.Sql.Dump
import Std.Time.DateTime.Timestamp

/-! # Command line

Runs the program on the files of the disk: reads those that an invocation is about, carries the
invocation out, shows what it says and writes the database back.
-/

namespace SchemaMigration.Cli

/-- The entry of the disk at a path, with what lies below it down to a number of levels. -/
def readEntry : (levels : Nat) → (path : String) → IO (Option Node)
  | levels, path => do
    let place := (← IO.currentDir) / path
    if !(← place.pathExists) then return none
    if !(← place.isDir) then return some (.file (← IO.FS.readBinFile place))
    match levels with
    | 0 => return some (.directory [])
    | levels + 1 =>
      let entries ← (← place.readDir).toList.filterMapM fun entry => do
        let node ← readEntry levels (Path.join path entry.fileName)
        return node.map fun n => (entry.fileName.toUTF8, n)
      return some (.directory entries)

/-- A tree with the entry of the disk at a path, unless the tree has one there. -/
def readInto (t : FileTree) (levels : Nat) (path : String) : IO FileTree := do
  if t.has path then return t
  match ← readEntry levels path with
  | some n => return t.put path n
  | none => return t

/-- The configuration files that options are about. -/
def configPaths (o : GlobalOptions) : List String :=
  match o.config with
  | some path => [path]
  | none => Config.fileNames.map (Path.join o.projectDir)

/-- A tree with the database of a file in place of the statements that the file holds. -/
def readDatabase (t : FileTree) (path : String) : FileTree :=
  match t.readText path with
  | .ok text =>
    match Sql.ofDump? text with
    | some db => t.saveDatabase path db
    | none => t
  | .error _ => t

/-- A tree with the entries of the disk at several paths, each with a number of levels. -/
def readAll (t : FileTree) (places : List (Nat × String)) : IO FileTree :=
  places.foldlM (fun t (levels, path) => readInto t levels path) t

/-- The part of the disk that options are about. -/
def readFiles (o : GlobalOptions) : IO FileTree := do
  let empty : FileTree := ⟨.directory [], (← IO.currentDir).toString⟩
  let configs := (configPaths o).map fun path => (0, path)
  let t ← readAll empty configs
  match o.resolve t with
  | .error _ => return t
  | .ok config =>
    let databasePath := databasePathIn o.projectDir config
    let parent := FileTree.parentOf (t.absolute databasePath)
    let migrationsPath := config.migrationsPath o.projectDir
    let t ← readAll empty ([(2, migrationsPath), (0, databasePath), (0, parent)] ++ configs)
    return readDatabase t databasePath

/-- Writes the database that a run left back to the disk. -/
def writeDatabase (o : GlobalOptions) (t : FileTree) : IO Unit := do
  if let .ok config := o.resolve t then
    let path := databasePathIn o.projectDir config
    if let some (.database db) := t.find? path then
      IO.FS.writeFile ((← IO.currentDir) / path) (Sql.dump db)

/-- A clock that shows one microsecond more at every reading. -/
def runningClock : IO (Nat → Time.Reading) := do
  let start ← Std.Time.Timestamp.now
  let micros := start.toNanosecondsSinceUnixEpoch.val / 1000
  return fun reading => .ofMicros (micros + reading)

/-- The bytes of the next line of the input. -/
partial def readLine (input : IO.FS.Stream) (line : List UInt8) : IO (List UInt8) := do
  let next := (← input.read 1).toList
  if next.isEmpty || next = [0x0A] then return line ++ next else readLine input (line ++ next)

def showFrom (shown : Nat) (output : String) : IO Unit := do
  IO.print (String.ofList (output.toList.drop shown))
  (← IO.getStdout).flush

/-- Carries out an invocation. Where a question finds no answer, the output up to it is shown,
    another line of the input is read, and the invocation is carried out from the start. -/
partial def converse (i : Invocation) (s : Surroundings) (shown : Nat) : IO Outcome := do
  let outcome := i.run s
  if let some output := outcome.unanswered then
    showFrom shown output
    let line ← readLine (← IO.getStdin) []
    if !line.isEmpty then
      return ← converse i { s with input := s.input ++ line } output.length
    showFrom output.length outcome.output
  else showFrom shown outcome.output
  return outcome

/-- The variables of the environment that stand for options. -/
def readEnvironment : IO (List (String × String)) :=
  environmentOptions.filterMapM fun (_, name) => do
    return (← IO.getEnv name).map fun value => (name, value)

def program (arguments : List String) : IO UInt32 := do
  match Invocation.parse (← readEnvironment) arguments with
  | .error stop =>
    IO.print stop.output
    IO.eprint stop.errors
    return stop.code.toUInt32
  | .ok i =>
    let files ← readFiles i.options
    let outcome ← converse i ⟨files, [], ← runningClock, true⟩ 0
    IO.eprint outcome.errors
    writeDatabase i.options outcome.files
    return outcome.code.toUInt32

end SchemaMigration.Cli

def main (arguments : List String) : IO UInt32 :=
  SchemaMigration.Cli.program arguments
