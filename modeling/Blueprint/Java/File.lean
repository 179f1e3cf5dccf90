import Blueprint.Java.Comment

/-!
# Source files

* `File`: a generated file with its path.
* `Setup`: what is stamped on every file.
* `File.ofLines`, `importLines`, `titleLines`: the parts that all files have.
-/

namespace Blueprint.Java

/-- A generated file. -/
structure File where
  path : String
  content : String
  deriving DecidableEq, Repr

/-- What is stamped on every file. -/
structure Setup where
  /-- The package of the packages of controllers, services and models. -/
  package : String := "api"
  extraImports : List String := []
  /-- The name of the blueprint that the files are generated from. -/
  source : String := "api.json"
  deriving DecidableEq, Repr

/-- The path of a class in a directory. -/
def classPath (directory className : String) : String := directory ++ "/" ++ className ++ ".java"

/-- A file of lines, without a line break at its end. -/
def File.ofLines (path : String) (lines : List String) : File := ⟨path, Text.joined "\n" lines⟩

/-- The further imports. -/
def importLines (s : Setup) : List String := s.extraImports.map fun i => "import " ++ i ++ ";"

/-- The lines of a class's comment that describe it. -/
def titleLines (description : String) : List String :=
  if description = "" then [] else commentLines 0 description ++ [" *"]

/-- The line that says where a file comes from. -/
def originLine (s : Setup) : String := " * Generated by apib from " ++ s.source ++ "."

/-- The lines that warn against changes. -/
def warningLines : List String := [" *", " * DO NOT MODIFY THIS FILE DIRECTLY."]

end Blueprint.Java
