import Blueprint.Dictionary
import Blueprint.Method
import Blueprint.Name

/-!
# The API model

What code is generated from: groups of actions, each becoming a controller and a service, and
models, each becoming a class.

* `Api`, `Api.Group`, `Api.Resource`, `Api.Action`, `Api.Parameter`, `Api.Body`.
* `Api.Model`, `Api.Field`.
* `Api.Action.assignDelimiters`: marks the parameters that a comma precedes.
-/

namespace Blueprint

namespace Api

/-- How a parameter is bound to a request. -/
inductive Binding where
  /-- By a segment of the path. -/
  | path
  /-- By the query. -/
  | query
  /-- By an annotation of its own, if any, which is given without its `@`. -/
  | injected (decoration : Option String)
  deriving DecidableEq, Repr

/-- A parameter of an action. -/
structure Parameter where
  name : Name
  type : String
  description : String := ""
  required : Bool := true
  /-- Empty when there is none. -/
  default : String := ""
  binding : Binding
  /-- Whether a comma precedes it in a list of parameters. -/
  delimited : Bool := false
  deriving DecidableEq, Repr

/-- The body of a request. -/
structure Body where
  name : String
  type : String
  delimited : Bool := false
  deriving DecidableEq, Repr

/-- What precedes an item of a list. -/
def delimiter (delimited : Bool) : String := if delimited then ", " else ""

/-- An HTTP operation, ready to become a method of a controller. -/
structure Action where
  name : Name
  resourceName : String
  method : Method
  description : String
  /-- The path of the URI template. -/
  path : String
  parameters : List Parameter
  responseType : String
  body : Option Body
  responseStatus : Option Nat
  annotations : List String
  deriving DecidableEq, Repr

/-- The parameters with a comma before each but the first, or before each. -/
def delimitFrom (first : Bool) : List Parameter → List Parameter
  | [] => []
  | p :: rest => { p with delimited := !first } :: delimitFrom false rest

/-- Marks what a comma precedes: every parameter but the first, and the body if there are any. -/
def Action.assignDelimiters (a : Action) : Action :=
  { a with
    parameters := delimitFrom true a.parameters
    body := a.body.map fun b => { b with delimited := !a.parameters.isEmpty } }

/-- A resource and its actions. -/
structure Resource where
  name : String
  description : String
  path : String
  actions : List Action
  deriving DecidableEq, Repr

/-- A group of resources, which becomes a controller and the service behind it. -/
structure Group where
  name : Name
  description : String
  controllerClass : String
  serviceClass : String
  serviceField : String
  resources : List Resource
  deriving DecidableEq, Repr

/-- The actions of a group, in order. -/
def Group.actions (g : Group) : List Action := g.resources.flatMap (·.actions)

/-- A field of a model. -/
structure Field where
  name : Name
  type : String
  deriving DecidableEq, Repr

/-- The option that tells whether a model holds the fields of its ancestors. -/
def flattenOption : String := "flattenParentClasses"

/-- The option that names a class which a model wraps. -/
def wrapsOption : String := "wrapsClass"

/-- A data structure, which becomes a class. -/
structure Model where
  name : String
  className : String
  description : Option String
  fields : List Field
  /-- The class it extends; none if it holds the fields of its ancestors itself. -/
  parentClass : Option String
  options : Dictionary String
  deriving DecidableEq, Repr

/-- The class that a model wraps. -/
def Model.wrapsClass (m : Model) : Option String := (m.options.get? wrapsOption).filter (· ≠ "")

/-- Whether a model holds the fields of its ancestors itself. -/
def Model.flattens (m : Model) : Bool := m.options.get? flattenOption = some "true"

end Api

/-- The model of a blueprint that code is generated from. -/
structure Api where
  name : String
  description : String
  metadata : Dictionary String
  groups : List Api.Group
  models : List Api.Model
  deriving DecidableEq, Repr

/-- The number of actions. -/
def Api.actionCount (a : Api) : Nat := a.groups.foldl (fun n g => n + g.actions.length) 0

end Blueprint
