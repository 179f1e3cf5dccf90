import Blueprint.Api.Basic
import Blueprint.Diagnostic
import Blueprint.Json.Basic

/-!
# The API model as JSON

* `Api.toJson`, and the JSON values of the parts of a model.
* `Diagnostic.toJson`: the JSON value of a diagnostic.
-/

namespace Blueprint

/-- The JSON value of a name. -/
def Name.toJson (n : Name) : Json := .object [
  ("original", .string n.spelling), ("pascal_case", .string n.pascal),
  ("camel_case", .string n.camel), ("snake_case", .string n.snake),
  ("screaming_snake", .string n.screaming)]

namespace Api

/-- The JSON value of a binding. -/
def Binding.toJson : Binding → Json
  | .path => .object [("kind", .string "path")]
  | .query => .object [("kind", .string "query")]
  | .injected a => .object [("kind", .string "injected"), ("annotation", .ofOption a)]

/-- The JSON value of a parameter. -/
def Parameter.toJson (p : Parameter) : Json := .object [
  ("name", p.name.toJson), ("type_name", .string p.type), ("description", .string p.description),
  ("required", .bool p.required), ("default_value", .string p.default),
  ("binding", p.binding.toJson), ("leading_delimiter", .bool p.delimited)]

/-- The JSON value of a request body. -/
def Body.toJson (b : Body) : Json := .object [
  ("name", .string b.name), ("type_name", .string b.type), ("leading_delimiter", .bool b.delimited)]

/-- The JSON value of an action. -/
def Action.toJson (a : Action) : Json := .object [
  ("name", a.name.toJson), ("resource_name", .string a.resourceName),
  ("method", .string a.method.name), ("description", .string a.description),
  ("uri_template", .string a.path), ("parameters", .array (a.parameters.map Parameter.toJson)),
  ("response_type", .string a.responseType),
  ("request_body", (a.body.map Body.toJson).getD .null),
  ("response_status", (a.responseStatus.map Json.ofNat).getD .null),
  ("extra_annotations", .ofStrings a.annotations)]

/-- The JSON value of a resource. -/
def Resource.toJson (r : Resource) : Json := .object [
  ("name", .string r.name), ("description", .string r.description),
  ("uri_template", .string r.path), ("actions", .array (r.actions.map Action.toJson))]

/-- The JSON value of a group. -/
def Group.toJson (g : Group) : Json := .object [
  ("name", g.name.toJson), ("description", .string g.description),
  ("controller_class_name", .string g.controllerClass),
  ("service_class_name", .string g.serviceClass),
  ("service_field_name", .string g.serviceField),
  ("resources", .array (g.resources.map Resource.toJson))]

/-- The JSON value of a field. -/
def Field.toJson (f : Field) : Json := .object [
  ("name", f.name.toJson), ("type_name", .string f.type)]

/-- The JSON value of a dictionary of texts. -/
def dictionaryToJson (d : Dictionary String) : Json := .object (d.map fun (k, v) => (k, .string v))

/-- The JSON value of a model. -/
def Model.toJson (m : Model) : Json := .object [
  ("name", .string m.name), ("class_name", .string m.className),
  ("description", .ofOption m.description), ("fields", .array (m.fields.map Field.toJson)),
  ("parent_class", .ofOption m.parentClass), ("options", dictionaryToJson m.options)]

/-- The JSON value of an API model. -/
def toJson (a : Api) : Json := .object [
  ("name", .string a.name), ("description", .string a.description),
  ("metadata", dictionaryToJson a.metadata), ("groups", .array (a.groups.map Group.toJson)),
  ("models", .array (a.models.map Model.toJson))]

end Api

/-- The name of a severity. -/
def Severity.name : Severity → String
  | warning => "warning"
  | error => "error"

/-- The JSON value of a diagnostic. -/
def Diagnostic.toJson (d : Diagnostic) : Json := .object [
  ("severity", .string d.severity.name), ("kind", .string d.kind.name),
  ("message", .string d.message)]

end Blueprint
