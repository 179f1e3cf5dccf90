import Blueprint.Api.Basic
import Blueprint.Api.Payload
import Blueprint.Api.RouteName
import Blueprint.Settings
import Blueprint.Status
import Blueprint.Uri.Template

/-!
# Groups and actions

The groups of a blueprint as groups of the API model. A group without a name and an action with an
unknown method are skipped with an error; all else is kept, in order.

* `normalizeAction`: the action of a resource.
* `normalizeGroups`: the groups of a document.
-/

namespace Blueprint.Api

open Text

/-- The URI template of an action, which may be its resource's. -/
def effectiveTemplate (r : Ast.Resource) (a : Ast.Action) : String :=
  if a.attributes.uriTemplate = "" then r.uriTemplate else a.attributes.uriTemplate

/-- The parameters of an action, which may be its resource's. -/
def effectiveParameters (r : Ast.Resource) (a : Ast.Action) : List Ast.Parameter :=
  if a.parameters.isEmpty then r.parameters else a.parameters

/-- The type of a parameter that declares none. -/
def undeclaredType : String := "String"

/-- A declared parameter, bound by the query if the template names it there. -/
def normalizeParameter (queryNames : List String) (p : Ast.Parameter) : Parameter :=
  { name := Name.ofString p.name
    type := if isBlank p.type then undeclaredType else mapType (trimmed p.type)
    description := trimmed p.description
    required := p.required
    default := p.default
    binding := if queryNames.contains p.name then .query else .path }

/-- The response type of an action, with a warning when the default stands in. -/
def responseType (x : Context) (default : String) : Noted String := do
  match ← inferType x .response default with
  | some t => return t
  | none =>
    Noted.note (.warn .missingResponseType
      ("Using default response type '" ++ default ++ "' for action " ++ x.uri ++
        ". Did you forget the `+ Attributes (ReturnType)` section?"))
    return default

/-- The request body of an action, if an example shows a request. -/
def requestBody (x : Context) (default : String) : Noted (Option Body) :=
  if (x.payloads .request).isEmpty then return none
  else do
    let type ← resolveType x .request default
    return some { name := toCamel type, type }

/-- The annotations of an action with a status. -/
def statusAnnotations : Option Status → List String
  | some s => if s.isDefault then [] else [s.annotationText]
  | none => []

/-- The name of an action: its own, or one from its route. -/
def actionName (a : Ast.Action) (m : Method) (path : String) : Name :=
  -- the name from a route is split into words again
  if isBlank a.name then Name.ofString (routeName m path) else Name.ofString (trimmed a.name)

/-- An action with a known method. -/
def buildAction (r : Ast.Resource) (a : Ast.Action) (m : Method) (default : String) :
    Noted Action := do
  let uri := effectiveTemplate r a
  let template := Uri.Template.ofString uri
  let x : Context := { resource := r, action := a, method := m.name, uri }
  -- warnings about types come before those about the status
  let response ← responseType x default
  let body ← requestBody x default
  let status ← chooseStatus (successCodes (x.payloads .response)) uri
  let action : Action :=
    { name := actionName a m template.path
      resourceName := r.name
      method := m
      description := trimmed a.description
      path := template.path
      parameters := (effectiveParameters r a).map (normalizeParameter template.queryNames)
      responseType := response
      body
      responseStatus := status.map (·.code)
      annotations := statusAnnotations status }
  return action.assignDelimiters

/-- The error about an action with an unknown method. -/
def unsupportedMethod (r : Ast.Resource) (a : Ast.Action) : Diagnostic :=
  .error .unsupportedMethod
    ("Skipping action '" ++ a.name ++ "' with unsupported method '" ++ a.method ++ "' on " ++
      effectiveTemplate r a)

/-- The action of a resource, unless its method is unknown. -/
def normalizeAction (o : Options) (r : Ast.Resource) (a : Ast.Action) : Noted (Option Action) :=
  match Method.ofString? a.method with
  | none => do
    Noted.note (unsupportedMethod r a)
    return none
  | some m => do return some (← buildAction r a m o.defaultType)

/-- A resource with its actions. -/
def normalizeResource (o : Options) (r : Ast.Resource) : Noted Resource := do
  let actions ← Noted.choose (normalizeAction o r) r.actions
  return { name := r.name
           description := trimmed r.description
           path := (Uri.Template.ofString r.uriTemplate).path
           actions }

/-- The error about a group without a name. -/
def unnamedGroup (g : Ast.Group) : Diagnostic :=
  .error .unnamedGroup
    ("Skipping resource group without a name (" ++ decimal g.resources.length ++ " resources)")

/-- A group under its name. -/
def buildGroup (name description : String) (resources : List Resource) : Group :=
  let n := Name.ofString (trimmed name)
  { name := n
    description := trimmed description
    controllerClass := n.pascal ++ "Controller"
    serviceClass := n.pascal ++ "ApiService"
    serviceField := n.camel ++ "ApiService"
    resources }

/-- A group, unless it has no name. -/
def normalizeGroup (o : Options) (g : Ast.Group) : Noted (Option Group) :=
  if isBlank g.name then do
    Noted.note (unnamedGroup g)
    return none
  else do
    let resources ← Noted.forEach (normalizeResource o) g.resources
    return some (buildGroup g.name g.description resources)

/-- The groups of a document. -/
def normalizeGroups (o : Options) (gs : List Ast.Group) : Noted (List Group) :=
  Noted.choose (normalizeGroup o) gs

end Blueprint.Api
