import SchemaMigration.Source.Order
import SchemaMigration.Text.Utf8

/-! # Migrations in a directory tree

Under a root there is one directory for each migration. Its name is the id, the file `up.sql` holds
the forward statements and `down.sql` the reverse ones. Files next to these directories, hidden
directories and directories with neither of the two files are left out.
-/

namespace SchemaMigration.MigrationDirectory

def upFile : String := "up.sql"

/-- The name of the file with the reverse statements. The forward ones are in `upFile`. -/
def downFile : String := "down.sql"

def readOptional (path : String) (n : Node) (file : String) :
    Except DiscoveryError (Option String) :=
  match n.child? file.toUTF8 with
  | none => .ok none
  | some child =>
    if child.isDirectory then .ok none
    else match child.readText with
      | .ok text => .ok (some text)
      | .error fault => .error (.unreadable (Path.join path file) fault)

/-- The migration that a directory with a given name holds, if it holds one. -/
def loadOne (path name : String) (n : Node) : Except DiscoveryError (Option Migration) := do
  let up ← readOptional path n upFile
  let down ← readOptional path n downFile
  if up.isNone && down.isNone then return none
  match MigrationId.ofText? name with
  | some id => return some ⟨id, none, .sql (up.getD ""), down.map .sql⟩
  | none => .error (.invalidId name .asDirectory)

def isHidden (name : String) : Bool :=
  name.toList.head? == some '.'

/-- The migration that an entry of the root at `path` holds, if it holds one. -/
def loadEntry (path : String) (entry : ByteArray × Node) :
    Except DiscoveryError (Option Migration) :=
  if !entry.2.isDirectory then .ok none
  else match String.fromUTF8? entry.1 with
    | none => .error (.invalidId (Path.join path (Text.decodeLenient entry.1)) .directoryNotUtf8)
    | some name =>
      if isHidden name then .ok none else loadOne (Path.join path name) name entry.2

/-- The migrations among the entries of the root at `path`, in order. -/
def listEntries (path : String) (entries : List (ByteArray × Node)) :
    Except DiscoveryError (List Migration) := do
  let found ← entries.mapM (loadEntry path)
  inOrder (found.filterMap id)

/-- The migrations below a root in a file tree. -/
def list (tree : FileTree) (root : String) : Except DiscoveryError (List Migration) :=
  match (tree.find? root).bind Node.entries? with
  | some entries => listEntries root entries
  | none => .error (.rootNotFound root)

end SchemaMigration.MigrationDirectory
