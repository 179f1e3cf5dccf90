import Blueprint.Api.Basic
import Blueprint.Java.File
import Blueprint.Java.Lexeme

/-!
# Model classes

A model becomes a class with its fields and their accessors, or a class that extends the one it
wraps.

* `fieldName`, `getterName`, `setterName`: what the class of a model declares for a field.
* `modelFile`: the file of a model.
-/

namespace Blueprint.Java

/-- The name of a field in its class. -/
def fieldName (f : Api.Field) : String := identifier f.name.camel

/-- The name of the method that returns a field. -/
def getterName (f : Api.Field) : String := "get" ++ f.name.pascal

/-- The name of the method that sets a field. -/
def setterName (f : Api.Field) : String := "set" ++ f.name.pascal

/-- The lines that declare a field. -/
def fieldLines (f : Api.Field) : List String :=
  ["", "    private " ++ typeText f.type ++ " " ++ fieldName f ++ ";"]

/-- The lines of the accessors of a field. -/
def accessorLines (f : Api.Field) : List String :=
  let name := fieldName f
  let type := typeText f.type
  ["",
   "    public " ++ type ++ " " ++ getterName f ++ "() \x7b",
   "        return " ++ name ++ ";",
   "    \x7d",
   "",
   "    public void " ++ setterName f ++ "(" ++ type ++ " " ++ name ++ ") \x7b",
   "        this." ++ name ++ " = " ++ name ++ ";",
   "    \x7d"]

/-- The lines before a model's class. -/
def modelHead (s : Setup) (m : Api.Model) : List String :=
  ["package " ++ s.package ++ ".model;",
   "",
   "import java.util.*;"] ++
  importLines s ++
  ["", "/**"] ++ titleLines ((m.description.map withoutOptions).getD "") ++ [originLine s, " **/"]

/-- The class of a model that wraps another. -/
def wrapperLines (m : Api.Model) (wrapped : String) : List String :=
  ["public class " ++ m.className ++ " extends " ++ wrapped ++ " \x7b",
   "",
   "    public " ++ m.className ++ "() \x7b",
   "        super();",
   "    \x7d",
   "\x7d"]

/-- What a class extends. -/
def extendsText (m : Api.Model) : String :=
  match m.parentClass with
  | some p => if p = "" then "" else " extends " ++ p
  | none => ""

/-- The class of a model with fields. -/
def classLines (m : Api.Model) : List String :=
  ["public class " ++ m.className ++ extendsText m ++ " \x7b"] ++
    m.fields.flatMap fieldLines ++ m.fields.flatMap accessorLines ++ ["\x7d"]

/-- The file of a model. -/
def modelFile (s : Setup) (m : Api.Model) : File :=
  .ofLines (classPath "model" m.className)
    (modelHead s m ++ match m.wrapsClass with
      | some wrapped => wrapperLines m wrapped
      | none => classLines m)

end Blueprint.Java
