import Blueprint.Text.Basic

/-!
# HTTP methods

* `Method`: the methods that an action may have.
* `Method.ofString?`: the method of a name in any case, with blanks around it.
-/

namespace Blueprint

/-- The methods that an action may have. -/
inductive Method where
  | get | post | put | delete | patch | options | head | trace
  deriving DecidableEq, Repr

namespace Method

/-- The name of a method. -/
def name : Method → String
  | get => "GET"
  | post => "POST"
  | put => "PUT"
  | delete => "DELETE"
  | patch => "PATCH"
  | options => "OPTIONS"
  | head => "HEAD"
  | trace => "TRACE"

/-- Every method. -/
def all : List Method := [get, post, put, delete, patch, options, head, trace]

/-- The method of a name, whose ASCII letters may be small and which may stand between blanks. -/
def ofString? (s : String) : Option Method :=
  let wanted := (Text.trim s.toList).map Text.asciiUpper
  all.find? (·.name.toList = wanted)

end Method

end Blueprint
