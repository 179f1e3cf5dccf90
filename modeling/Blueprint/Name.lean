import Blueprint.Text.Casing

/-!
# Names

A name of a blueprint in every casing that generated code needs. The casings are taken from the
name with each run of separators collapsed; a name without any letter or digit is `unnamed`.

* `Name.ofString`: the casings of a name.
-/

namespace Blueprint

open Text Unicode

/-- A name and its casings. -/
structure Name where
  /-- As the blueprint has it. -/
  spelling : String
  pascal : String
  camel : String
  snake : String
  screaming : String
  deriving DecidableEq, Repr, Inhabited

namespace Name

/-- The letters and digits of a text, runs of other characters between them written as `_`.
`pending` tells whether such a run precedes, and `started` whether anything stands before it. -/
def collapse (started pending : Bool) : List Char → List Char
  | [] => []
  | c :: rest =>
    if isAlphanumeric c then
      if pending && started then '_' :: c :: collapse true false rest
      else c :: collapse true false rest
    else collapse started true rest

/-- The text that the casings are taken from. -/
def sanitize (cs : List Char) : List Char :=
  match collapse false false cs with
  | [] => "unnamed".toList
  | s => s

/-- A name in every casing. -/
def ofString (s : String) : Name :=
  let ws := words (sanitize s.toList)
  { spelling := s
    pascal := String.ofList (Text.pascal ws)
    camel := String.ofList (Text.camel ws)
    snake := String.ofList (Text.snake ws)
    screaming := String.ofList (Text.screaming ws) }

end Name

end Blueprint
