import SchemaMigration.Database.Basic
import SchemaMigration.FileTree.Path

/-! # File trees

Directories with files and databases in them. Names of entries are any bytes; a path names an entry
by the bytes of its text. The entries of a directory stand in the order in which they are listed.
-/

namespace SchemaMigration

/-- An entry of a directory: a file with its content, a database that is kept in a file, or a
    directory. -/
inductive Node where
  | file (content : ByteArray)
  | database (db : Database)
  | directory (entries : List (ByteArray × Node))
  deriving Inhabited

/-- The root directory, and the directory that relative paths start from. -/
structure FileTree where
  root : Node
  workingDirectory : String

/-- Why the content of an entry cannot be read as a text. -/
inductive ReadFault where
  | missing
  | isDirectory
  | notUtf8
  deriving Repr, DecidableEq

def ReadFault.message : ReadFault → String
  | missing => "No such file or directory (os error 2)"
  | isDirectory => "Is a directory (os error 21)"
  | notUtf8 => "stream did not contain valid UTF-8"

namespace Node

def entries? : Node → Option (List (ByteArray × Node))
  | directory entries => some entries
  | _ => none

def isDirectory (n : Node) : Bool :=
  n.entries?.isSome

def isFile (n : Node) : Bool :=
  !n.isDirectory

def child? (n : Node) (name : ByteArray) : Option Node :=
  n.entries?.bind (·.lookup name)

/-- The content of a regular file as a text. -/
def readText : Node → Except ReadFault String
  | file content =>
    match String.fromUTF8? content with
    | some text => .ok text
    | none => .error .notUtf8
  | database _ => .error .notUtf8
  | directory _ => .error .isDirectory

/-- Puts an entry under a name in a directory, at the end of the listing if the name is new. -/
def setEntry (name : ByteArray) (n : Node) :
    List (ByteArray × Node) → List (ByteArray × Node)
  | [] => [(name, n)]
  | (other, m) :: rest => if other = name then (name, n) :: rest else (other, m) :: setEntry name n rest

/-- The entry below a directory, changed by a function; directories on the way are made where they
    are missing. A function that answers nothing removes the entry. A file that stands in the way
    is left as it is, and nothing is made on the way to an entry that is removed. -/
def alter (f : Option Node → Option Node) : (names : List ByteArray) → Option Node → Option Node
  | [], n => f n
  | name :: rest, n =>
    match n.getD (directory []) with
    | directory entries =>
      match alter f rest (entries.lookup name) with
      | some child => some (directory (setEntry name child entries))
      | none => n.map fun _ => directory (entries.filter fun entry => entry.1 ≠ name)
    | other => some other

/-- Follows the components of a path from the innermost of nested directories; two dots lead to
    the directory around. The innermost entry comes first. -/
def follow : (names : List String) → (around : List Node) → Option Node
  | [], around => around.head?
  | name :: rest, around =>
    match around with
    | [] => none
    | here :: outer =>
      if !here.isDirectory then none
      else if name = "." then follow rest (here :: outer)
      else if name = ".." then follow rest (if outer.isEmpty then [here] else outer)
      else
        match here.child? name.toUTF8 with
        | some child => follow rest (child :: here :: outer)
        | none => none

end Node

namespace FileTree

def absolute (t : FileTree) (path : String) : String :=
  Path.join t.workingDirectory path

def find? (t : FileTree) (path : String) : Option Node :=
  if path = "" then none
  else match Node.follow (Path.components (t.absolute path)) [t.root] with
  | some n => if Path.mustBeDirectory path && !n.isDirectory then none else some n
  | none => none

def has (t : FileTree) (path : String) : Bool :=
  (t.find? path).isSome

def isDirectory (t : FileTree) (path : String) : Bool :=
  ((t.find? path).map Node.isDirectory).getD false

def readText (t : FileTree) (path : String) : Except ReadFault String :=
  match t.find? path with
  | some n => n.readText
  | none => .error .missing

/-- The names on the way to an absolute path, with pairs of dots resolved by what is written in
    front of them. -/
def namesOf (path : List UInt8) : List ByteArray :=
  let slash : UInt8 := 0x2F
  let dot : UInt8 := 0x2E
  let step (names : List (List UInt8)) (name : List UInt8) : List (List UInt8) :=
    if name = [slash] || name = [dot] then names
    else if name = [dot, dot] then names.drop 1
    else name :: names
  let parts := path.splitBy fun a b => a ≠ slash && b ≠ slash
  (parts.foldl step []).reverse.map List.toByteArray

/-- Changes the entry that the bytes of an absolute path lead to. -/
def alterAt (t : FileTree) (path : List UInt8) (f : Option Node → Option Node) : FileTree :=
  { t with root := (Node.alter f (namesOf path) (some t.root)).getD t.root }

/-- Puts an entry where the bytes of an absolute path lead. -/
def putAt (t : FileTree) (path : List UInt8) (n : Node) : FileTree :=
  t.alterAt path fun _ => some n

/-- Makes a directory where the bytes of an absolute path lead, unless there is one. -/
def makeDirectoryAt (t : FileTree) (path : List UInt8) : FileTree :=
  t.alterAt path fun n => some (n.getD (.directory []))

/-- Removes the entry that the bytes of an absolute path lead to, which `alter` does for a function that
    answers nothing. -/
def removeAt (t : FileTree) (path : List UInt8) : FileTree :=
  t.alterAt path fun _ => none

def put (t : FileTree) (path : String) (n : Node) : FileTree :=
  t.putAt (t.absolute path).toUTF8.toList n

end FileTree

end SchemaMigration
