import Blueprint.Text.Basic

/-!
# Paths

Paths as they are written.

* `joinPath`: a path below a directory.
* `parentPath`: the directory of a file.
* `extension?`: the extension of a file.
-/

namespace Blueprint.Command

/-- Whether a path is written from the root. -/
def isAbsolute (path : String) : Bool := path.toList.head? = some '/'

/-- A path below a directory. One that is written from the root stays as it is. -/
def joinPath (directory file : String) : String :=
  if directory = "" || isAbsolute file then file
  else if directory.toList.getLast? = some '/' then directory ++ file
  else directory ++ "/" ++ file

/-- What stands before the last slash of a path. -/
def parentPath (path : String) : String :=
  String.ofList ((path.toList.reverse.dropWhile (· ≠ '/')).drop 1).reverse

/-- The names in a path, from the outside in. The name of a directory itself says nothing. -/
def pathNames (path : String) : List (List Char) :=
  (Text.splitOn '/' path.toList).filter fun n => n ≠ [] && n ≠ ['.']

/-- Whether a path can only be one of a directory. -/
def namesDirectory (path : String) : Bool :=
  match (Text.splitOn '/' path.toList).reverse with
  | [_] => path = "."
  | last :: _ => last = [] || last = ['.']
  | [] => false

/-- The extension of a name: what follows its last point, unless that point starts it. -/
def nameExtension? (name : List Char) : Option String :=
  let after := name.reverse.takeWhile (· ≠ '.')
  if name.length ≤ after.length + 1 || name = ['.', '.'] then none
  else some (String.ofList after.reverse)

/-- The extension of a file. -/
def extension? (path : String) : Option String := (pathNames path).getLast?.bind nameExtension?

end Blueprint.Command
