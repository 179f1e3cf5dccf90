import Blueprint.Api.Basic
import Blueprint.Diagnostic
import Blueprint.Settings
import Blueprint.Text.Quoted

/-!
# Modifiers

Rules that change the actions whose full name, as in `CouponsController.create`, their pattern
matches: parameters are put in front and at the end, and annotations are replaced.

* `Modifier`: a rule in the form in which it is applied.
* `compileModifiersWith`: the modifiers of rules, under any notation of patterns; the first invalid
  pattern stops it.
* `Modifier.apply`, `applyModifiers`: what they change.
-/

namespace Blueprint.Api

open Text

/-- A rule in the form in which it is applied. -/
structure Modifier where
  /-- Whether it applies to the action of a full name. -/
  applies : String → Bool
  annotations : Option (List String)
  prepended : List Parameter
  appended : List Parameter

/-- A rule whose pattern is invalid. -/
structure InvalidPattern where
  pattern : String
  deriving DecidableEq, Repr

/-! ## Compiling -/

/-- A text that may be missing, for a message. -/
def quotedOption : Option String → String
  | none => "None"
  | some s => "Some(" ++ quoted s ++ ")"

/-- The error about a parameter without a name or a type. -/
def invalidParameter (pattern : String) (p : ParameterSpec) : Diagnostic :=
  .error .invalidModifierParameter
    ("Ignoring parameter of resource modifier '" ++ pattern ++
      "': both name and type are required (got ParameterSpec \x7b name: " ++ quotedOption p.name ++
      ", type_name: " ++ quotedOption p.type ++ ", annotation: " ++ quotedOption p.decoration ++
      " \x7d)")

/-- A text that is there and not blank, without the blanks around it. -/
def present? (s : Option String) : Option String := (s.map trimmed).filter (· ≠ "")

/-- A name that is an identifier already; it stays as it is in camel case. -/
def injectedName (s : String) : Name := { Name.ofString s with camel := s }

/-- An annotation without its `@`. -/
def withoutAt (s : String) : String :=
  match s.toList with
  | '@' :: rest => String.ofList rest
  | _ => s

/-- The parameter that a rule adds; one without a name or a type is dropped with an error. -/
def injectedParameter (pattern : String) (p : ParameterSpec) : Noted (Option Parameter) :=
  match present? p.name, present? p.type with
  | some name, some type =>
    return some { name := injectedName name, type
                  binding := .injected (p.decoration.map withoutAt) }
  | _, _ => do
    Noted.note (invalidParameter pattern p)
    return none

/-- The modifier of a rule with a valid pattern. -/
def buildModifier (r : Rule) (applies : String → Bool) : Noted Modifier := do
  let prepended ← Noted.choose (injectedParameter r.pattern) r.prepended
  let appended ← Noted.choose (injectedParameter r.pattern) r.appended
  return { applies, annotations := r.annotations, prepended, appended }

/-- The modifiers of rules, where `compile?` gives the test that a pattern stands for. -/
def compileModifiersWith (compile? : String → Option (String → Bool)) :
    List Rule → Noted (Except InvalidPattern (List Modifier))
  | [] => return .ok []
  | r :: rest =>
    match compile? r.pattern with
    | none => return .error ⟨r.pattern⟩
    | some applies => do
      let m ← buildModifier r applies
      match ← compileModifiersWith compile? rest with
      | .error e => return .error e
      | .ok ms => return .ok (m :: ms)

/-! ## Applying -/

/-- The full name of an action. -/
def fullName (controller : String) (a : Action) : String := controller ++ "." ++ a.name.camel

/-- The action as a modifier changes it. -/
def Modifier.alter (m : Modifier) (a : Action) : Action :=
  { Action.assignDelimiters
      { a with parameters := m.prepended ++ a.parameters ++ m.appended } with
    annotations := m.annotations.getD a.annotations }

/-- The action after a modifier. -/
def Modifier.apply (controller : String) (a : Action) (m : Modifier) : Action :=
  if m.applies (fullName controller a) then m.alter a else a

/-- The action after modifiers, in order. -/
def applyAll (controller : String) (ms : List Modifier) (a : Action) : Action :=
  ms.foldl (fun a m => m.apply controller a) a

/-- The groups after modifiers. -/
def applyModifiers (ms : List Modifier) (gs : List Group) : List Group :=
  gs.map fun g =>
    { g with resources := g.resources.map fun r =>
        { r with actions := r.actions.map (applyAll g.controllerClass ms) } }

end Blueprint.Api
