import Blueprint.Ast.Document
import Blueprint.Diagnostic
import Blueprint.TypeName

/-!
# Types of payloads

The type of an action's requests or responses is the first type that an example shows, or else the
one that the action itself shows; a structure of the resource under that name takes its place.

* `contentType?`: the type that a list of elements shows.
* `inferType`: the type of a kind of payload, with a warning for each example that shows another.
* `resolveType`: the same with a default.
-/

namespace Blueprint.Api

open Ast

/-- The halves of an exchange. -/
inductive PayloadKind where
  | request | response
  deriving DecidableEq, Repr

/-- The word for a kind of payload. -/
def PayloadKind.label : PayloadKind → String
  | request => "request"
  | response => "response"

/-- An action in its place. -/
structure Context where
  resource : Ast.Resource
  action : Ast.Action
  /-- The name of its method. -/
  method : String
  /-- Its URI template, which may be the resource's. -/
  uri : String

/-- The payloads of a kind in the first example. -/
def Context.payloads (x : Context) (kind : PayloadKind) : List Payload :=
  match x.action.examples with
  | [] => []
  | e :: _ => match kind with
    | .request => e.requests
    | .response => e.responses

/-- The type of an element that wraps a single structure. -/
def wrappedType? (e : Element) : Option String :=
  if e.isDataStructure then
    match e.children with
    | [only] => some (typeName only)
    | _ => none
  else none

/-- The type of the first element that wraps a single structure. -/
def contentType? (es : List Element) : Option String := es.findSome? wrappedType?

/-- The warning about an example that shows another type than expected. -/
def mismatchWarning (x : Context) (kind : PayloadKind) (position : Nat) (expected got : String) :
    Diagnostic :=
  .warn .exampleTypeMismatch
    ("Action " ++ kind.label ++ " example #" ++ Text.decimal position ++
      " content typename doesn't match previous entry. Expected '" ++ expected ++ "' but got '" ++
      got ++ "'. Request: " ++ x.method ++ " " ++ x.uri)

/-- The first type that payloads show, other than the default. Later payloads that show another
are remarked on; `found` is the type found so far and `position` counts from one. -/
def exampleType (x : Context) (kind : PayloadKind) (default : String) :
    Option String → Nat → List Payload → Noted (Option String)
  | found, _, [] => .pure found
  | found, position, p :: rest =>
    match (contentType? p.content).filter (· ≠ default) with
    -- to show the default is to show nothing
    | none => exampleType x kind default found (position + 1) rest
    | some got =>
      match found with
      | none => exampleType x kind default (some got) (position + 1) rest
      | some expected => do
        if got ≠ expected then Noted.note (mismatchWarning x kind position expected got)
        exampleType x kind default (some expected) (position + 1) rest

/-- The type of the structure that a resource declares under a name. -/
def overridingType? (r : Ast.Resource) (name : String) : Option String := do
  let entry ← r.content.find? (·.literalName = some name)
  (contentType? [entry]).or (contentType? entry.children)

/-- The type of a kind of payload, if anything shows one. -/
def inferType (x : Context) (kind : PayloadKind) (default : String) : Noted (Option String) := do
  let shown ← exampleType x kind default none 1 (x.payloads kind)
  match shown.or (contentType? x.action.content) with
  | none => return none
  | some name => return some ((overridingType? x.resource name).getD name)

/-- The type of a kind of payload. -/
def resolveType (x : Context) (kind : PayloadKind) (default : String) : Noted String := do
  return (← inferType x kind default).getD default

end Blueprint.Api
