import Blueprint.Source.Record
import Blueprint.TypeName

/-!
# Settings

The configuration of a project, and the options of a run that follow from it.

* `Settings`: input, output, package and the rules of a project.
* `Rule`, `ParameterSpec`: a rule that changes the actions a pattern matches.
* `Options`: what a run depends on.
* `Settings.sample`: the text of a first configuration.
-/

namespace Blueprint

open Source

/-- A parameter that a rule adds to an action. -/
structure ParameterSpec where
  name : Option String := none
  type : Option String := none
  /-- Its annotation, with or without its `@`. -/
  decoration : Option String := none
  deriving DecidableEq, Repr

/-- A rule for the actions whose full name its pattern matches. -/
structure Rule where
  pattern : String := ""
  /-- The annotations that replace those of an action. -/
  annotations : Option (List String) := none
  prepended : List ParameterSpec := []
  appended : List ParameterSpec := []
  deriving DecidableEq, Repr

/-- What is done with models. -/
structure ModelSettings where
  skip : List String := []
  flattenParents : Bool := false
  skipNested : Bool := true
  deriving DecidableEq, Repr

/-- The configuration of a project. -/
structure Settings where
  input : String := "api.json"
  output : String := "src/main/java/api"
  package : String := "api"
  extraImports : List String := []
  defaultType : String := objectType
  models : ModelSettings := {}
  rules : List Rule := []
  deriving DecidableEq, Repr

/-- What a run depends on. -/
structure Options where
  /-- The names of models to leave out. -/
  skipModels : List String := []
  /-- Whether models hold the fields of their ancestors. -/
  flattenParents : Bool := false
  /-- Whether to leave out models with a point in their name. -/
  skipNested : Bool := true
  /-- The type of what has no other type. -/
  defaultType : String := objectType
  rules : List Rule := []
  deriving DecidableEq, Repr

/-- A name put into an ascending list of distinct names. -/
def insertName (s : String) : List String → List String
  | [] => [s]
  | t :: rest => if s = t then t :: rest else if s < t then s :: t :: rest else t :: insertName s rest

/-- The options that a configuration asks for. -/
def Settings.options (s : Settings) : Options :=
  { skipModels := s.models.skip.foldr insertName []
    flattenParents := s.models.flattenParents
    skipNested := s.models.skipNested
    defaultType := s.defaultType
    rules := s.rules }

/-! ## Reading -/

/-- A field of a configuration; it is read only. -/
def setting {σ α : Type} (key : String) (presence : Presence) (r : Reader α) (set : α → σ → σ) :
    Source.Field σ :=
  { field key presence r set (fun _ => .null) with write := fun _ => none }

def ParameterSpec.fields : List (Source.Field ParameterSpec) := [
  setting "name" .optional (optional text) (fun s p => { p with name := s }),
  setting "type" .optional (optional text) (fun s p => { p with type := s }),
  setting "annotation" .optional (optional text) (fun s p => { p with decoration := s })]

def Rule.fields : List (Source.Field Rule) := [
  setting "pattern" .required text (fun s r => { r with pattern := s }),
  setting "method_annotations" .defaulted (optional (list text))
    (fun s r => { r with annotations := s }),
  setting "prepended_parameters" .defaulted (list (record {} ParameterSpec.fields))
    (fun ps r => { r with prepended := ps }),
  setting "appended_parameters" .defaulted (list (record {} ParameterSpec.fields))
    (fun ps r => { r with appended := ps })]

def ModelSettings.fields : List (Source.Field ModelSettings) := [
  setting "skip" .defaulted (list text) (fun s m => { m with skip := s }),
  setting "flatten_parent_classes" .defaulted flag (fun b m => { m with flattenParents := b }),
  setting "skip_nested" .defaulted flag (fun b m => { m with skipNested := b })]

def Settings.fields : List (Source.Field Settings) := [
  setting "input" .defaulted text (fun t s => { s with input := t }),
  setting "output" .defaulted text (fun t s => { s with output := t }),
  setting "package" .defaulted text (fun t s => { s with package := t }),
  setting "extra_imports" .defaulted (list text) (fun ts s => { s with extraImports := ts }),
  setting "default_type" .defaulted text (fun t s => { s with defaultType := t }),
  setting "models" .defaulted (record {} ModelSettings.fields) (fun m s => { s with models := m }),
  setting "resource_modifiers" .defaulted (list (record {} Rule.fields))
    (fun rs s => { s with rules := rs })]

/-- Reads a rule. -/
def Rule.reader : Reader Rule := record {} Rule.fields

/-- Reads a configuration. -/
def Settings.reader : Reader Settings := record {} Settings.fields

/-! ## A first configuration -/

/-- The name of the file that holds the configuration. -/
def Settings.fileName : String := ".apib.yaml"

/-- The text of a first configuration, which says the defaults. -/
def Settings.sample : String :=
  "# apib configuration\n" ++
  "input: api.json          # AST produced by the API Blueprint parser (JSON or YAML)\n" ++
  "output: src/main/java/api\n" ++
  "package: api\n" ++
  "extra_imports: []\n" ++
  "default_type: Object\n" ++
  "\n" ++
  "models:\n" ++
  "  skip: []\n" ++
  "  flatten_parent_classes: false\n" ++
  "  skip_nested: true      # skip models whose name contains a '.'\n" ++
  "\n" ++
  "resource_modifiers: []\n" ++
  "  # - pattern: \"^CouponsController\\\\.\"\n" ++
  "  #   method_annotations:\n" ++
  "  #     - \"@PreAuthorize(\\\"isAuthenticated()\\\")\"\n" ++
  "  #   prepended_parameters:\n" ++
  "  #     - name: principal\n" ++
  "  #       type: Principal\n" ++
  "  #   appended_parameters:\n" ++
  "  #     - name: locale\n" ++
  "  #       type: Locale\n" ++
  "  #       annotation: \"@RequestHeader(\\\"Accept-Language\\\")\"\n"

end Blueprint
