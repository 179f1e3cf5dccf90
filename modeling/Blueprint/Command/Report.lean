import Blueprint.Api.Printing
import Blueprint.Api.Transform
import Blueprint.Command.Arguments
import Blueprint.Command.Failure
import Blueprint.Command.Path
import Blueprint.Java.Controller
import Blueprint.Json.Decode
import Blueprint.Pattern.Reader
import Blueprint.Yaml.Printer
import Blueprint.Yaml.Reader

/-!
# Reports

What a command makes of a configuration and a document, before it changes any file.

* `Api.compileModifiers`, `Api.transform`: rules and documents, with patterns as the commands read
  them.
* `readSettings`, `readDocument`: what the files of a command say.
* `Result.ofDocument?`: the API model of a document and the diagnostics of the run.
* `sources`, `summary`, `inspection`: what the commands answer.
-/

namespace Blueprint

/-! ## Patterns -/

/-- The modifiers of rules. -/
def Api.compileModifiers (rules : List Rule) : Noted (Except InvalidPattern (List Modifier)) :=
  compileModifiersWith Pattern.test? rules

/-- The API model of a document. -/
def Api.transform (o : Options) (d : Ast.Document) : Noted (Except InvalidPattern Api) :=
  transformWith Pattern.test? o d

namespace Command

/-! ## Reading -/

/-- The configuration in a file; without a file it is the default one. -/
def readSettings (path : String) : Option (Except FileError String) → Except Failure Settings
  | none => .ok {}
  | some (.error e) => .error (.configUnreadable path e)
  | some (.ok text) =>
    match Yaml.decode Settings.reader text with
    | .ok s => .ok s
    | .error _ => .error (.configInvalid path)

/-- Whether the name of a document says that it is written in YAML. -/
def isYaml (path : String) : Bool :=
  extension? path = some "yaml" || extension? path = some "yml"

/-- The document in a file. -/
def readDocument (path : String) : Except FileError String → Except Failure Ast.Document
  | .error e => .error (.documentUnreadable path e)
  | .ok text =>
    if isYaml path then
      match Yaml.decode Ast.Document.reader text with
      | .ok d => .ok d
      | .error _ => .error (.documentInvalid "YAML")
    else
      match Json.decode Ast.Document.reader text with
      | .ok d => .ok d
      | .error _ => .error (.documentInvalid "JSON")

/-- An API model and the diagnostics of the run that made it. -/
structure Result where
  api : Api
  notes : List Diagnostic

/-- The API model of a document. -/
def Result.ofDocument? (s : Settings) (d : Ast.Document) : Except Failure Result :=
  let run := Api.transform s.options d
  match run.value with
  | .error e => .error (.patternInvalid e.pattern)
  | .ok api => .ok ⟨api, run.notes⟩

/-! ## Answers -/

/-- The sources to be written. A strict run has none if an item was skipped. -/
def sources (s : Settings) (input : String) (strict : Bool) (r : Result) :
    Except Failure (List Java.File) :=
  let errors := Diagnostic.errors r.notes
  if strict && 0 < errors then .error (.skipped errors input)
  else .ok (Java.generate
    { package := s.package, extraImports := s.extraImports, source := input } r.api)

/-- The lines that sum up an API model. -/
def summary (r : Result) : List String := [
  "Blueprint: " ++ r.api.name,
  "  Controllers: " ++ Text.decimal r.api.groups.length,
  "  Actions: " ++ Text.decimal r.api.actionCount,
  "  Models: " ++ Text.decimal r.api.models.length,
  "  Warnings: " ++ Text.decimal (Diagnostic.warnings r.notes),
  "  Errors: " ++ Text.decimal (Diagnostic.errors r.notes)]

/-- Whether an API model was made without skipping an item. -/
def verdict (r : Result) : Except Failure Unit :=
  let errors := Diagnostic.errors r.notes
  if 0 < errors then .error (.wouldSkip errors) else .ok ()

/-- An API model and its diagnostics as one value, all keys ascending. -/
def inspected (r : Result) : Json :=
  (Json.object [
    ("diagnostics", .array (r.notes.map Diagnostic.toJson)), ("model", r.api.toJson)]).sorted

/-- An API model and its diagnostics, printed. -/
def inspection (f : Format) (r : Result) : String :=
  match f with
  | .yaml => String.ofList (Yaml.render (inspected r))
  | .json => String.ofList (Json.pretty (inspected r)) ++ "\n"

end Command

end Blueprint
