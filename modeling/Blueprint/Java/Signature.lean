import Blueprint.Api.Basic
import Blueprint.Java.Comment
import Blueprint.Java.Lexeme

/-!
# Signatures

The method of an action in a controller and in the service behind it.

* `Method`: a method with its parameters and its body.
* `Method.ofAction`: the method of an action.
* `declarations`, `signature`, `passed`: its parameter lists in the controller, in the service
  and in the call of the one from the other.
-/

namespace Blueprint.Java

/-- A parameter of a method; `delimiter` precedes it in a list. -/
structure Argument where
  name : String
  type : String
  delimiter : String
  /-- With its annotation, as a controller declares it. -/
  declaration : String
  deriving DecidableEq, Repr

/-- A method. -/
structure Method where
  name : String
  verb : String
  path : String
  description : String
  returnType : String
  annotations : List String
  arguments : List Argument
  body : Option Argument
  deriving DecidableEq, Repr

/-- The attributes of the annotation that binds a query parameter. -/
def queryAttributes (p : Api.Parameter) : List String :=
  ["value = " ++ literal p.name.spelling] ++
    (if p.required then [] else ["required = false"]) ++
    (if p.default = "" then [] else ["defaultValue = " ++ literal p.default])

/-- The annotation of a parameter, with a blank after it. -/
def bindingText (p : Api.Parameter) : String :=
  match p.binding with
  | .path => "@PathVariable(" ++ literal p.name.spelling ++ ") "
  | .query => "@RequestParam(" ++ Text.joined ", " (queryAttributes p) ++ ") "
  | .injected (some a) => "@" ++ a ++ " "
  | .injected none => ""

/-- A parameter of an action. -/
def Argument.ofParameter (p : Api.Parameter) : Argument :=
  let name := identifier p.name.camel
  let type := typeText p.type
  { name, type, delimiter := Api.delimiter p.delimited
    declaration := bindingText p ++ type ++ " " ++ name }

/-- The body of a request. -/
def Argument.ofBody (b : Api.Body) : Argument :=
  let name := b.name ++ "Body"
  let type := typeText b.type
  { name, type, delimiter := Api.delimiter b.delimited
    declaration := "@RequestBody " ++ type ++ " " ++ name }

/-- The method of an action. -/
def Method.ofAction (a : Api.Action) : Method :=
  { name := identifier a.name.camel
    verb := a.method.name
    path := literalBody a.path
    description := a.description
    returnType := typeText a.responseType
    annotations := a.annotations
    arguments := a.parameters.map Argument.ofParameter
    body := a.body.map Argument.ofBody }

/-- The parameters of a method, its body last. -/
def Method.all (m : Method) : List Argument := m.arguments ++ m.body.toList

/-- A list of parameters, each written by `f` after its delimiter. -/
def Method.listWith (f : Argument → String) (m : Method) : String :=
  String.join (m.all.map fun a => a.delimiter ++ f a)

/-- The parameters as a controller declares them. -/
def Method.declarations (m : Method) : String := m.listWith (·.declaration)

/-- The parameters as a service declares them. -/
def Method.signature (m : Method) : String := m.listWith fun a => a.type ++ " " ++ a.name

/-- The parameters as a controller passes them on. -/
def Method.passed (m : Method) : String := m.listWith (·.name)

end Blueprint.Java
