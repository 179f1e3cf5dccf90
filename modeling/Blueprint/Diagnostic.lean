/-!
# Diagnostics

What a run has to remark on a blueprint. A remark never stops the run: a warning says that a
fallback was used, an error that an item was skipped.

* `Diagnostic`: severity, kind and message.
* `Noted`: a value together with the diagnostics recorded on the way, in order.
* `Noted.forEach`, `Noted.choose`: a step for each item of a list.
-/

namespace Blueprint

/-- How serious a diagnostic is. -/
inductive Severity where
  /-- The run went on with a fallback. -/
  | warning
  /-- An item was skipped. -/
  | error
  deriving DecidableEq, Repr

/-- What a diagnostic is about. -/
inductive Diagnostic.Kind where
  | exampleTypeMismatch
  | missingResponseType
  | multipleSuccessStatuses
  | unknownStatusCode
  | cyclicInheritance
  | unnamedGroup
  | unnamedModel
  | unnamedField
  | unsupportedMethod
  | invalidModifierParameter
  deriving DecidableEq, Repr

/-- The name of a kind. -/
def Diagnostic.Kind.name : Kind → String
  | exampleTypeMismatch => "example_type_mismatch"
  | missingResponseType => "missing_response_type"
  | multipleSuccessStatuses => "multiple_success_statuses"
  | unknownStatusCode => "unknown_status_code"
  | cyclicInheritance => "cyclic_inheritance"
  | unnamedGroup => "unnamed_group"
  | unnamedModel => "unnamed_model"
  | unnamedField => "unnamed_field"
  | unsupportedMethod => "unsupported_method"
  | invalidModifierParameter => "invalid_modifier_parameter"

/-- A remark of a run. -/
structure Diagnostic where
  severity : Severity
  kind : Diagnostic.Kind
  message : String
  deriving DecidableEq, Repr

namespace Diagnostic

/-- A warning. -/
def warn (kind : Kind) (message : String) : Diagnostic := ⟨.warning, kind, message⟩

/-- An error. -/
def error (kind : Kind) (message : String) : Diagnostic := ⟨.error, kind, message⟩

/-- How many diagnostics are of a kind. -/
def count (kind : Kind) (ds : List Diagnostic) : Nat := ds.countP (·.kind = kind)

/-- How many diagnostics are warnings. -/
def warnings (ds : List Diagnostic) : Nat := ds.countP (·.severity = .warning)

/-- How many diagnostics are errors. -/
def errors (ds : List Diagnostic) : Nat := ds.countP (·.severity = .error)

/-- Whether an item was skipped. -/
def hasErrors (ds : List Diagnostic) : Bool := ds.any (·.severity = .error)

end Diagnostic

/-- A value and the diagnostics recorded on the way to it. -/
structure Noted (α : Type) where
  value : α
  notes : List Diagnostic

namespace Noted

variable {α β : Type}

/-- A value without remarks. -/
def pure (a : α) : Noted α := ⟨a, []⟩

/-- A remark. -/
def note (d : Diagnostic) : Noted Unit := ⟨(), [d]⟩

/-- A step after another. -/
def bind (x : Noted α) (f : α → Noted β) : Noted β :=
  let y := f x.value
  ⟨y.value, x.notes ++ y.notes⟩

instance : Monad Noted where
  pure := pure
  bind := bind

/-- A step for each item. -/
def forEach (f : α → Noted β) (items : List α) : Noted (List β) :=
  let results := items.map f
  ⟨results.map (·.value), results.flatMap (·.notes)⟩

/-- A step for each item; those without a result are left out. -/
def choose (f : α → Noted (Option β)) (items : List α) : Noted (List β) :=
  let results := items.map f
  ⟨results.filterMap (·.value), results.flatMap (·.notes)⟩

end Noted

end Blueprint
