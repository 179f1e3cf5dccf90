import Blueprint.Method
import Blueprint.Text.Casing

/-!
# Names from routes

An action without a name is named after its method and its path: a verb and the segments of the
path that are no variables. When the path ends with a variable the last of them is singular, as in
`getCoupon` for `GET /coupons/{id}`.

* `routeName`: the name of an action.
* `singular`: the singular of a word.
-/

namespace Blueprint.Api

open Text

/-- The singular of a word, by its ending. -/
def singular (w : List Char) : List Char :=
  if (dropEnd? "ies".toList w).isSome ∧ 3 < w.length then w.take (w.length - 3) ++ ['y']
  else if ["ses", "xes", "zes"].any (fun e => (dropEnd? e.toList w).isSome) then
    w.take (w.length - 2)
  else if (dropEnd? ['s'] w).isSome ∧ (dropEnd? ['s', 's'] w).isNone ∧ 1 < w.length then
    w.take (w.length - 1)
  else w

/-- Whether a segment of a path is a variable. -/
def isVariable (segment : List Char) : Bool := segment.head? = some '\x7b'

/-- The segments of a path. -/
def segments (path : List Char) : List (List Char) := (splitOn '/' path).filter (· ≠ [])

/-- Whether a path ends with a variable. -/
def endsWithVariable (path : List Char) : Bool :=
  match (segments path).getLast? with
  | some s => isVariable s
  | none => false

/-- The verb of a method. The verb of `GET` tells a single resource from a collection. -/
def verb (m : Method) (single : Bool) : String :=
  match m with
  | .get => if single then "get" else "list"
  | .post => "create"
  | .put => "update"
  | .delete => "delete"
  | .patch => "patch"
  | .options => "options"
  | .head => "head"
  | .trace => "trace"

/-- The segments of a name, in Pascal case; `single` makes the last one singular. -/
def nameSegments (single : Bool) : List (List Char) → List Char
  | [] => []
  | [s] => pascal (words (if single then singular s else s))
  | s :: t :: rest => pascal (words s) ++ nameSegments single (t :: rest)

/-- The name of an action with a method and a path. -/
def routeName (m : Method) (path : String) : String :=
  let single := endsWithVariable path.toList
  verb m single ++
    String.ofList (nameSegments single ((segments path.toList).filter (fun s => !isVariable s)))

end Blueprint.Api
