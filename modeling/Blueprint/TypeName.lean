import Blueprint.Ast.Element
import Blueprint.Text.Casing

/-!
# Type names

The type that an element is shown as. A kind is mapped by a small table and written in Pascal case
otherwise; an element whose children are structures takes their types as arguments, as in
`List<Coupon>` and `Map<String, Coupon>`.

* `mapType`: the type of a kind.
* `typeName`: the type of an element.
-/

namespace Blueprint

open Ast Text

/-- The type of what has no other type. -/
def objectType : String := "Object"

/-- Characters that the name of a kind may have: ASCII letters and digits, and blanks. -/
def isKindChar (c : Char) : Bool := isAsciiAlphanumeric c || Unicode.isWhiteSpace c

/-- The type of a kind. A kind with characters of other sorts is a type already. -/
def mapType (kind : String) : String :=
  if isBlank kind then objectType
  else if !kind.toList.all isKindChar then kind
  else if kind = "number" then "Integer"
  else if kind = "array" then "List"
  else if kind = "int" ∨ kind = "double" ∨ kind = "boolean" ∨ kind = "float" then kind
  else toPascal kind

/-- Whether children are type arguments. A single child with a value or a member is none. -/
def areArguments : List Element → Bool
  | [] => false
  | [only] => match only.content with
    | .absent => true
    | .elements _ => true
    | _ => false
  | _ => true

mutual

/-- The type of an element. -/
def typeName : Element → String
  | ⟨kind, _, _, _, .elements items⟩ =>
    if areArguments items then mapType kind ++ "<" ++ joined ", " (typeNames items) ++ ">"
    else mapType kind
  | ⟨kind, _, _, _, _⟩ => mapType kind

/-- The types of elements. -/
def typeNames : List Element → List String
  | [] => []
  | e :: rest => typeName e :: typeNames rest

end

end Blueprint
