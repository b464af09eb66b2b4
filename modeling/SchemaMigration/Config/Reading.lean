import SchemaMigration.Config.Basic
import SchemaMigration.Yaml.Kind

/-! # Reading a configuration

A configuration file holds a mapping with members that may all be missing. Members that are not
known are refused, and so is a member that stands twice. Every scalar counts as the text that it is
written with. Reading stops at the first thing that does not fit.
-/

namespace SchemaMigration.Config

inductive Mismatch where
  | type (found expected : String)
  | value (found expected : String)
  | unknownMember (name : String) (known : List String)
  | duplicateMember (name : String)
  deriving Repr, DecidableEq

/-- Names in words, as alternatives. -/
def alternatives : List String → String
  | [a, b] => "`" ++ a ++ "` or `" ++ b ++ "`"
  | names =>
    (if names.length = 1 then "" else "one of ") ++
      ", ".intercalate (names.map fun name => "`" ++ name ++ "`")

def Mismatch.message : Mismatch → String
  | type found expected => "invalid type: " ++ found ++ ", expected " ++ expected
  | value found expected => "invalid value: " ++ found ++ ", expected " ++ expected
  | unknownMember name known => "unknown field `" ++ name ++ "`, expected " ++ alternatives known
  | duplicateMember name => "duplicate field `" ++ name ++ "`"

/-- Why a text is no configuration. -/
inductive ReadingFault where
  | notYaml (fault : Yaml.Fault)
  /-- Something does not fit, at the path of a member and at a place in the text. -/
  | misfit (path : String) (mismatch : Mismatch) (position : Yaml.Position)
  deriving Repr, DecidableEq

def ReadingFault.message : ReadingFault → String
  | notYaml fault => fault.message
  | misfit path mismatch position =>
    (if path = "" then "" else path ++ ": ") ++ mismatch.message ++ position.suffix

def memberPath (path name : String) : String :=
  if path = "" then name else path ++ "." ++ name

/-- Content that is still to be read, in a document. -/
structure Remaining where
  document : Yaml.Document
  entries : List Yaml.Entry

namespace Remaining

/-- The fault that the content of the document breaks off with. -/
def brokenOff {α : Type} (r : Remaining) : Except ReadingFault α :=
  .error (.notYaml (r.document.fault?.getD ⟨.unexpectedEnd, ⟨0, 0, 0⟩⟩))

/-- The node at the start and what follows it. Where an alias stands in its place, also what remains
    after the alias. -/
def node (r : Remaining) :
    Except ReadingFault (Yaml.Entry × Remaining × Option Remaining) :=
  match r.entries with
  | [] => r.brokenOff
  | e :: rest =>
    let after := { r with entries := rest }
    match e.content with
    | .alias target =>
      match r.document.entries.drop target with
      | found :: behind => .ok (found, { r with entries := behind }, some after)
      | [] => r.brokenOff
    | _ => .ok (e, after, none)

end Remaining

/-- What a part of the content is, as far as it is not what was expected. -/
def mismatchOf (expected : String) : Yaml.Content → Mismatch
  | .scalar s =>
    match s.kind with
    | .ok kind => .type kind.describe expected
    | .error asked => .value (Yaml.Kind.text s.text).describe asked.text
  | .sequenceStart | .sequenceEnd => .type "sequence" expected
  | .mappingStart | .mappingEnd => .type "map" expected
  | .void | .alias _ => .type "unit value" expected

def readText (path expected : String) (r : Remaining) :
    Except ReadingFault (String × Yaml.Position × Remaining) := do
  let (e, behind, afterAlias) ← r.node
  match e.content with
  | .scalar s => return (s.text, e.position, afterAlias.getD behind)
  | content => .error (.misfit path (mismatchOf expected content) e.position)

/-- The name that a member goes by in paths. -/
def nameInPath (r : Remaining) : String :=
  match r.entries.head?.map Yaml.Entry.content with
  | some (.scalar s) => s.text
  | _ => "?"

/-- Reads the members of a mapping that starts at `start`, at most `fuel` of them. -/
def readMembers {α : Type} (known : List String) (path : String) (start : Yaml.Position)
    (readValue : (name path : String) → Remaining → Except ReadingFault (α × Remaining)) :
    (fuel : Nat) → (found : List (String × α)) → Remaining →
    Except ReadingFault (List (String × α) × Remaining)
  | 0, _, r => r.brokenOff
  | fuel + 1, found, r => do
    if let ⟨.mappingEnd, _⟩ :: rest := r.entries then
      return (found, { r with entries := rest })
    let label := nameInPath r
    let (name, position, r) ← readText path "field identifier" r
    if !known.contains name then .error (.misfit path (.unknownMember name known) position)
    if (found.lookup name).isSome then .error (.misfit path (.duplicateMember name) start)
    let (value, r) ← readValue name (memberPath path label) r
    readMembers known path start readValue fuel (found ++ [(name, value)]) r

/-- Reads a mapping with known members. Where nothing is written, there are no members. -/
def readMapping {α : Type} (expected : String) (known : List String) (path : String)
    (readValue : (name path : String) → Remaining → Except ReadingFault (α × Remaining))
    (r : Remaining) : Except ReadingFault (List (String × α) × Remaining) := do
  let (e, behind, afterAlias) ← r.node
  match e.content with
  | .mappingStart =>
    let (members, after) ←
      readMembers known path e.position readValue (behind.entries.length + 1) [] behind
    return (members, afterAlias.getD after)
  | .void => return ([], afterAlias.getD behind)
  | .scalar s =>
    if s.text = "" && s.isPlain then return ([], afterAlias.getD behind)
    else .error (.misfit path (mismatchOf expected e.content) e.position)
  | content => .error (.misfit path (mismatchOf expected content) e.position)

/-- The value of a member of a configuration. -/
inductive Member where
  | text (s : String)
  | database (path : Option String)
  deriving Repr, DecidableEq

def Member.text? : Member → Option String
  | text s => some s
  | database _ => none

/-- The path of the database, if a member says so. -/
def Member.path? : Member → Option String
  | text _ => none
  | database path => path

def readTextValue (path : String) (r : Remaining) : Except ReadingFault (String × Remaining) := do
  let (text, _, r) ← readText path "a string" r
  return (text, r)

/-- Reads the value of a member of a configuration. -/
def readMember (name path : String) (r : Remaining) :
    Except ReadingFault (Member × Remaining) := do
  if name = "database" then
    let (members, r) ←
      readMapping "struct DatabaseConfig" ["path"] path (fun _ => readTextValue) r
    return (.database (members.lookup "path"), r)
  else
    let (text, r) ← readTextValue path r
    return (.text text, r)

/-- The configuration with the given members and standard values for the others. -/
def ofMembers (members : List (String × Member)) : Config :=
  { databasePath := ((members.lookup "database").bind Member.path?).getD standard.databasePath
    migrationsDir :=
      ((members.lookup "migrations_dir").bind Member.text?).getD standard.migrationsDir
    trackingTable :=
      ((members.lookup "tracking_table").bind Member.text?).getD standard.trackingTable }

/-- Reads a configuration from the whole of a text. -/
def read (text : String) : Except ReadingFault Config := do
  let document := Yaml.Document.of text
  let known := ["database", "migrations_dir", "tracking_table"]
  let (members, _) ←
    readMapping "struct Config" known "" readMember ⟨document, document.entries⟩
  if let some fault := document.fault? then .error (.notYaml fault)
  if !document.isOnly then .error (.notYaml ⟨.severalDocuments, ⟨0, 0, 0⟩⟩)
  return ofMembers members

/-- Reads the configuration file at a path and checks what it says. -/
def load (t : FileTree) (path : String) : Except ConfigError Config := do
  if !t.has path then .error (.notFound path)
  let text ← (t.readText path).mapError (.unreadable path)
  let config ← (read text).mapError fun fault => .malformed fault.message
  config.validate
  return config

/-- The names that a configuration file may have in a project directory, in the order in which they
    are tried. -/
def fileNames : List String := ["strata.yml", "strata.yaml"]

/-- The path of the configuration file in a project directory. -/
def fileIn? (t : FileTree) (dir : String) : Option String :=
  (fileNames.map (Path.join dir)).find? t.has

/-- Reads the configuration file of a project directory. -/
def loadFrom (t : FileTree) (dir : String) : Except ConfigError Config :=
  match fileIn? t dir with
  | some path => load t path
  | none => .error (.notFound (Path.join dir "strata.yml"))

/-- Reads the configuration file of a project directory; without one, the standard configuration
    holds. -/
def loadOrStandard (t : FileTree) (dir : String) : Except ConfigError Config :=
  match fileIn? t dir with
  | some path => load t path
  | none => .ok standard

end SchemaMigration.Config
