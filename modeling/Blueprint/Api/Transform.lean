import Blueprint.Api.Models
import Blueprint.Api.Modifiers
import Blueprint.Api.Normalize
import Blueprint.Ast.Document

/-!
# From a document to the API model

* `assemble`: the API model of a document under compiled modifiers.
* `transformWith`: the API model of a document, under any notation of patterns. Rules are compiled
  first, so that an invalid pattern stops the run before anything else is remarked on.
-/

namespace Blueprint.Api

/-- The metadata of a document as a dictionary. -/
def metadataOf (d : Ast.Document) : Dictionary String :=
  Dictionary.ofEntries (d.metadata.map fun m => (m.name, m.value))

/-- The API model of a document under compiled modifiers. -/
def assemble (o : Options) (ms : List Modifier) (d : Ast.Document) : Noted Api := do
  let groups ← normalizeGroups o d.groups
  let models ← extractModels o d
  return { name := d.name
           description := Text.trimmed d.description
           metadata := metadataOf d
           groups := applyModifiers ms groups
           models }

/-- The API model of a document, where `compile?` gives the test that a pattern stands for. -/
def transformWith (compile? : String → Option (String → Bool)) (o : Options) (d : Ast.Document) :
    Noted (Except InvalidPattern Api) := do
  match ← compileModifiersWith compile? o.rules with
  | .error e => return .error e
  | .ok ms => return .ok (← assemble o ms d)

end Blueprint.Api
