/-! # Paths

Paths are texts with slashes between their components. Joining keeps the written form of both
paths, since paths are shown in messages as they were put together.
-/

namespace SchemaMigration.Path

def isAbsolute (path : String) : Bool :=
  path.toList.head? == some '/'

/-- The path that `path` stands for when it is taken relative to `base`. -/
def join (base path : String) : String :=
  if isAbsolute path then path
  else
    match base.toList.getLast? with
    | none => path
    | some last => if last = '/' then base ++ path else base ++ "/" ++ path

/-- The components of a path, from first to last. An empty component and a single dot stand for
    the directory reached so far. -/
def components (path : String) : List String :=
  (path.toList.splitBy fun a b => a ≠ '/' && b ≠ '/').filterMap fun part =>
    if part = ['/'] then none else some (String.ofList part)

/-- Whether a path can only stand for a directory, as it ends with a slash or a dot. -/
def mustBeDirectory (path : String) : Bool :=
  path.toList.getLast? == some '/' || (components path).getLast? == some "."

/-- An absolute path without single dots and empty components. -/
def plain (path : String) : String :=
  "/" ++ "/".intercalate ((components path).filter (· ≠ "."))

end SchemaMigration.Path
