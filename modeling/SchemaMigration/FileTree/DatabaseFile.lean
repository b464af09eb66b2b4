import SchemaMigration.Database.Error
import SchemaMigration.FileTree.Basic

/-! # Databases in files

A database is opened by the path of its file, which is made when it is missing. The special path
`:memory:` stands for a new database without a file.
-/

namespace SchemaMigration

def memoryPath : String := ":memory:"

namespace FileTree

/-- The database's wording for a file that cannot be opened. -/
def cannotOpen (t : FileTree) (path reason : String) : DbError :=
  .connection ("IO Error: Cannot open file \"" ++ Path.plain (t.absolute path) ++ "\": " ++ reason ++
    ": " ++ path)

def parentOf (path : String) : String :=
  String.ofList ((path.toList.reverse.dropWhile (· ≠ '/')).reverse)

/-- Puts a database into the file at a path, unless the path is `memoryPath`. -/
def saveDatabase (t : FileTree) (path : String) (db : Database) : FileTree :=
  if path = memoryPath then t else t.put path (.database db)

/-- Whether a file stands where a path needs a directory. -/
def isBlocked (t : FileTree) (path : String) : Bool :=
  let names := Path.components (t.absolute path)
  (List.range names.length).any fun n =>
    ((Node.follow (names.take n) [t.root]).map Node.isFile).getD false

/-- Makes a new database in the file at a path. -/
def createDatabase (t : FileTree) (path : String) : Database × FileTree :=
  (.empty, t.saveDatabase path .empty)

/-- Opens the database at a path. An empty file counts as one that is missing. -/
def openDatabase (t : FileTree) (path : String) : Except DbError (Database × FileTree) :=
  if path = memoryPath then .ok (.empty, t)
  else match t.find? path with
    | some (.database db) => .ok (db, t)
    | some (.directory _) => .error (t.cannotOpen path "Is a directory")
    | some (.file content) =>
      if content.isEmpty then .ok (t.createDatabase path)
      else .error (.connection ("IO Error: The file \"" ++ Path.plain (t.absolute path) ++
        "\" exists, but it is not a valid DuckDB database file!: " ++ path))
    | none =>
      if t.isDirectory (parentOf (t.absolute path)) then .ok (t.createDatabase path)
      else if t.isBlocked path then .error (t.cannotOpen path "Not a directory")
      else .error (t.cannotOpen path "No such file or directory")

end FileTree

end SchemaMigration
