import Blueprint.Ast.Reading

/-!
# Documents

A parsed blueprint: its resource groups with their resources and actions, and the element tree
that holds the data structures.

* `Document`, `Group`, `Resource`, `Action`, `Parameter`, `Example`, `Payload`, `Header`.
* `Document.reader`: documents read from a text.
* `Document.toJson`: the JSON value of a document.
-/

namespace Blueprint.Ast

open Source

/-- A name and a value of the blueprint's metadata. -/
structure Metadata where
  name : String := ""
  value : String := ""
  deriving DecidableEq, Repr

/-- One of the values that a parameter may take. -/
structure Choice where
  value : String := ""
  deriving DecidableEq, Repr

/-- A parameter of a URI template. -/
structure Parameter where
  name : String := ""
  description : String := ""
  type : String := ""
  required : Bool := false
  default : String := ""
  sample : String := ""
  values : List Choice := []
  deriving DecidableEq, Repr

/-- A header of a request or a response. -/
structure Header where
  name : String := ""
  value : String := ""
  deriving DecidableEq, Repr

/-- An example of a request or a response. The name of a response is its status. -/
structure Payload where
  name : String := ""
  description : String := ""
  headers : List Header := []
  body : String := ""
  schema : String := ""
  content : List Element := []

/-- Examples of the requests and the responses of one exchange. -/
structure Example where
  name : String := ""
  description : String := ""
  requests : List Payload := []
  responses : List Payload := []

/-- Attributes of an action. The template is empty where the resource's own is meant. -/
structure Attributes where
  relation : String := ""
  uriTemplate : String := ""
  deriving DecidableEq, Repr

/-- An HTTP operation on a resource. -/
structure Action where
  name : String := ""
  description : String := ""
  method : String := ""
  parameters : List Parameter := []
  attributes : Attributes := {}
  content : List Element := []
  examples : List Example := []

/-- A URI template and the actions on it. Its parameters are those of every action without any. -/
structure Resource where
  name : String := ""
  description : String := ""
  uriTemplate : String := ""
  parameters : List Parameter := []
  actions : List Action := []
  content : List Element := []

/-- A group of resources. -/
structure Group where
  name : String := ""
  description : String := ""
  resources : List Resource := []

/-- A parsed blueprint. -/
structure Document where
  version : Option String := none
  name : String := ""
  description : String := ""
  metadata : List Metadata := []
  groups : List Group := []
  content : List Element := []

/-! ## Fields -/

/-- A text that is empty when missing. -/
def textField {σ : Type} (key : String) (set : String → σ → σ) (get : σ → String) : Source.Field σ :=
  field key .defaulted text set (fun r => .string (get r))

/-- A text that may not be missing. -/
def requiredText {σ : Type} (key : String) (set : String → σ → σ) (get : σ → String) : Source.Field σ :=
  field key .required text set (fun r => .string (get r))

/-- A list that is empty when missing. -/
def listField {σ α : Type} (key : String) (r : Reader α) (toJson : α → Json)
    (set : List α → σ → σ) (get : σ → List α) : Source.Field σ :=
  field key .defaulted (list r) set (fun s => .array ((get s).map toJson))

/-- A list that is left out when empty. -/
def sparseListField {σ α : Type} (key : String) (r : Reader α) (toJson : α → Json)
    (set : List α → σ → σ) (get : σ → List α) : Source.Field σ :=
  { listField key r toJson set get with
    write := fun s => match get s with
      | [] => none
      | items => some (.array (items.map toJson)) }

/-- The element tree below a part of a document. -/
def contentField {σ : Type} (set : List Element → σ → σ) (get : σ → List Element) : Source.Field σ :=
  field "content" .defaulted (list Element.reader) set (fun s => .array (elementsToJson (get s)))

def Metadata.fields : List (Source.Field Metadata) := [
  requiredText "name" (fun s m => { m with name := s }) (·.name),
  textField "value" (fun s m => { m with value := s }) (·.value)]

def Choice.fields : List (Source.Field Choice) := [
  requiredText "value" (fun s c => { c with value := s }) (·.value)]

def Parameter.fields : List (Source.Field Parameter) := [
  requiredText "name" (fun s p => { p with name := s }) (·.name),
  textField "description" (fun s p => { p with description := s }) (·.description),
  textField "type" (fun s p => { p with type := s }) (·.type),
  field "required" .defaulted flag (fun b p => { p with required := b }) (fun p => .bool p.required),
  textField "default" (fun s p => { p with default := s }) (·.default),
  textField "example" (fun s p => { p with sample := s }) (·.sample),
  sparseListField "values" (record {} Choice.fields) (write Choice.fields)
    (fun vs p => { p with values := vs }) (·.values)]

def Header.fields : List (Source.Field Header) := [
  requiredText "name" (fun s h => { h with name := s }) (·.name),
  textField "value" (fun s h => { h with value := s }) (·.value)]

def Payload.fields : List (Source.Field Payload) := [
  textField "name" (fun s p => { p with name := s }) (·.name),
  textField "description" (fun s p => { p with description := s }) (·.description),
  listField "headers" (record {} Header.fields) (write Header.fields)
    (fun hs p => { p with headers := hs }) (·.headers),
  textField "body" (fun s p => { p with body := s }) (·.body),
  textField "schema" (fun s p => { p with schema := s }) (·.schema),
  contentField (fun es p => { p with content := es }) (·.content)]

def Example.fields : List (Source.Field Example) := [
  textField "name" (fun s x => { x with name := s }) (·.name),
  textField "description" (fun s x => { x with description := s }) (·.description),
  listField "requests" (record {} Payload.fields) (write Payload.fields)
    (fun ps x => { x with requests := ps }) (·.requests),
  listField "responses" (record {} Payload.fields) (write Payload.fields)
    (fun ps x => { x with responses := ps }) (·.responses)]

def Attributes.fields : List (Source.Field Attributes) := [
  textField "relation" (fun s a => { a with relation := s }) (·.relation),
  textField "uriTemplate" (fun s a => { a with uriTemplate := s }) (·.uriTemplate)]

def Action.fields : List (Source.Field Action) := [
  textField "name" (fun s a => { a with name := s }) (·.name),
  textField "description" (fun s a => { a with description := s }) (·.description),
  textField "method" (fun s a => { a with method := s }) (·.method),
  listField "parameters" (record {} Parameter.fields) (write Parameter.fields)
    (fun ps a => { a with parameters := ps }) (·.parameters),
  field "attributes" .defaulted (record {} Attributes.fields)
    (fun x a => { a with attributes := x }) (fun a => write Attributes.fields a.attributes),
  contentField (fun es a => { a with content := es }) (·.content),
  listField "examples" (record {} Example.fields) (write Example.fields)
    (fun xs a => { a with examples := xs }) (·.examples)]

def Resource.fields : List (Source.Field Resource) := [
  textField "name" (fun s r => { r with name := s }) (·.name),
  textField "description" (fun s r => { r with description := s }) (·.description),
  textField "uriTemplate" (fun s r => { r with uriTemplate := s }) (·.uriTemplate),
  listField "parameters" (record {} Parameter.fields) (write Parameter.fields)
    (fun ps r => { r with parameters := ps }) (·.parameters),
  listField "actions" (record {} Action.fields) (write Action.fields)
    (fun xs r => { r with actions := xs }) (·.actions),
  contentField (fun es r => { r with content := es }) (·.content)]

def Group.fields : List (Source.Field Group) := [
  textField "name" (fun s g => { g with name := s }) (·.name),
  textField "description" (fun s g => { g with description := s }) (·.description),
  listField "resources" (record {} Resource.fields) (write Resource.fields)
    (fun rs g => { g with resources := rs }) (·.resources)]

def Document.fields : List (Source.Field Document) := [
  { key := "_version", presence := .optional
    read := fun fr n d => do return { d with version := ← optional text fr n }
    write := fun d => d.version.map .string },
  textField "name" (fun s d => { d with name := s }) (·.name),
  textField "description" (fun s d => { d with description := s }) (·.description),
  sparseListField "metadata" (record {} Metadata.fields) (write Metadata.fields)
    (fun ms d => { d with metadata := ms }) (·.metadata),
  listField "resourceGroups" (record {} Group.fields) (write Group.fields)
    (fun gs d => { d with groups := gs }) (·.groups),
  contentField (fun es d => { d with content := es }) (·.content)]

/-! ## Reading and writing -/

def Resource.reader : Reader Resource := record {} Resource.fields

def Action.reader : Reader Action := record {} Action.fields

def Document.reader : Reader Document := record {} Document.fields

/-- The JSON value of a document. -/
def Document.toJson (d : Document) : Json := write Document.fields d

end Blueprint.Ast
