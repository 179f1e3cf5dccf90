import Blueprint.Api.Basic
import Blueprint.Ast.Document
import Blueprint.Diagnostic
import Blueprint.Settings

/-!
# Models

The data structures of a blueprint as models. The element tree is walked in order; the children of
a data structure are candidates, and the first candidate of each name that is not left out becomes
a model. A model extends the model that its element's kind names, or holds the fields of all its
ancestors itself.

* `candidates`: the candidates in the order of the walk.
* `definitions`: the candidates that become models.
* `modelOptions`: the options in the description of an element.
* `ancestry`: the chain of definitions above a model.
* `extractModels`: the models of a document.
-/

namespace Blueprint.Api

open Ast Text

/-! ## Definitions -/

mutual

/-- The children of the data structures below an element. -/
def candidates : Element → List Element
  | ⟨kind, _, _, _, .elements items⟩ =>
    -- below a data structure the walk goes no further
    if kind = Element.dataStructure then items else candidatesOf items
  | _ => []

/-- The children of the data structures below elements. -/
def candidatesOf : List Element → List Element
  | [] => []
  | e :: rest => candidates e ++ candidatesOf rest

end

/-- Whether the options leave out a model of a name. -/
def isSkipped (o : Options) (name : String) : Bool :=
  o.skipModels.contains name || (o.skipNested && name.toList.contains '.')

/-- The error about a candidate without a name. -/
def unnamedModel (e : Element) : Diagnostic :=
  .error .unnamedModel ("Failed to read name from data structure of kind '" ++ e.kind ++ "'")

/-- Definitions by name, in the order of their first appearance. -/
abbrev Definitions := Dictionary Element

/-- Adds a candidate to the definitions. -/
def addCandidate (o : Options) (ds : Definitions) (e : Element) : Noted Definitions :=
  match e.id with
  | none => do
    Noted.note (unnamedModel e)
    return ds
  | some name => if isSkipped o name then return ds else return ds.putNew name e

/-- The definitions among candidates. -/
def definitions (o : Options) (ds : Definitions) : List Element → Noted Definitions
  | [] => return ds
  | e :: rest => do
    let ds ← addCandidate o ds e
    definitions o ds rest

/-! ## Options of a model -/

/-- An option at the start of a text that follows a plus sign: a key of ASCII letters, a colon and
the rest as its value. -/
def optionAfterPlus? (cs : List Char) : Option (String × String) :=
  let cs := trimStart cs
  let key := cs.takeWhile Char.isAlpha
  match key, trimStart (cs.dropWhile Char.isAlpha) with
  | _ :: _, ':' :: value => some (String.ofList key, String.ofList (trim value))
  | _, _ => none

/-- The option of a line, read from the first plus sign that starts one. -/
def lineOption? : List Char → Option (String × String)
  | [] => none
  | c :: rest =>
    if c = '+' then (optionAfterPlus? rest).or (lineOption? rest) else lineOption? rest

/-- The text of a truth value. -/
def flagText (b : Bool) : String := if b then "true" else "false"

/-- The options of an element: the run's choice on flattening, and the lines of the description. -/
def modelOptions (o : Options) (e : Element) : Dictionary String :=
  let found := match e.metaDescription with
    | none => []
    | some d => (lines d.toList).filterMap lineOption?
  found.foldl (fun options (k, v) => options.put k v) [(flattenOption, flagText o.flattenParents)]

/-! ## Fields and ancestors -/

/-- The error about a member without a string key. -/
def unnamedField (owner : Element) : Diagnostic :=
  .error .unnamedField
    ("Skipping field without a string key in data structure '" ++ owner.id.getD owner.kind ++ "'")

/-- The field of a member; a child of another kind has none. -/
def memberField (o : Options) (owner child : Element) : Noted (Option Field) :=
  if child.kind ≠ Element.memberKind then return none
  else match child.memberContent with
    -- a member without a key is passed over in silence
    | none => return none
    | some (key, value) =>
      match key.stringValue with
      | none => do
        Noted.note (unnamedField owner)
        return none
      | some k =>
        return some { name := Name.ofString k, type := (value.map typeName).getD o.defaultType }

/-- The fields of an element's own members. -/
def ownFields (o : Options) (e : Element) : Noted (List Field) :=
  Noted.choose (memberField o e) e.children

/-- The own fields of every definition. -/
def fieldTable (o : Options) (ds : Definitions) : Noted (Dictionary (List Field)) :=
  Noted.forEach (fun (name, e) => do return (name, ← ownFields o e)) ds

/-- The definition that an element extends, if its kind names another one. -/
def parentName? (ds : Definitions) (name : String) (e : Element) : Option String :=
  if e.kind ≠ name ∧ (ds.get? e.kind).isSome then some e.kind else none

/-- The names from `current` upwards, and the name at which they would repeat. Every step visits a
further definition, so their number is fuel enough. -/
def ancestry (ds : Definitions) : Nat → List String → String → List String × Option String
  | 0, visited, _ => (visited, none)
  | fuel + 1, visited, current =>
    match ds.get? current with
    | none => (visited, none)
    | some e =>
      if visited.contains current then (visited, some current)
      else ancestry ds fuel (visited ++ [current]) e.kind

/-- The warning about a model whose ancestors repeat. -/
def cyclicInheritance (name repeated : String) : Diagnostic :=
  .warn .cyclicInheritance
    ("Inheritance cycle detected while flattening model " ++ name ++ " at " ++ repeated)

/-- The fields of a model and its ancestors, those of the furthest ancestor first. -/
def flattenedFields (ds : Definitions) (table : Dictionary (List Field)) (name : String) :
    Noted (List Field) := do
  let (chain, repeated) := ancestry ds (ds.length + 1) [] name
  if let some r := repeated then Noted.note (cyclicInheritance name r)
  return chain.reverse.flatMap fun n => (table.get? n).getD []

/-! ## Models -/

/-- The model of a definition. -/
def buildModel (o : Options) (ds : Definitions) (table : Dictionary (List Field)) (name : String)
    (e : Element) : Noted Model := do
  let model : Model :=
    { name
      className := (Name.ofString name).pascal
      description := e.metaDescription.map trimmed
      fields := []
      parentClass := none
      options := modelOptions o e }
  if model.flattens then
    return { model with fields := ← flattenedFields ds table name }
  else
    return { model with
      fields := (table.get? name).getD []
      parentClass := (parentName? ds name e).map fun p => (Name.ofString p).pascal }

/-- The models of a document. -/
def extractModels (o : Options) (d : Document) : Noted (List Model) := do
  let ds ← definitions o [] (candidatesOf d.content)
  -- the fields of each definition are read once, before any model is built
  let table ← fieldTable o ds
  Noted.forEach (fun (name, e) => buildModel o ds table name e) ds

end Blueprint.Api
