import Blueprint.Text.Basic

/-!
# URI templates

A template is split into its path and the names of its query variables. A group `{?…}`, `{&…}` or
`{#…}` with something between mark and brace is no part of the path; `{?…}` and `{&…}` name query
variables, separated by commas.

* `Template.ofString`: path and query names of a template.
* `pathFrom`, `bodies`: two scans of a template, one for each.
-/

namespace Blueprint.Uri

/-- Whether a text starts with a group whose mark satisfies `mark`. -/
def opens (mark : Char → Bool) : List Char → Bool
  | b :: m :: c :: rest => b == '\x7b' && mark m && c != '\x7d' && (c :: rest).contains '\x7d'
  | _ => false

/-- The marks of groups that are no part of the path. -/
def isExpansionMark (c : Char) : Bool := c = '?' || c = '#' || c = '&'

/-- The marks of groups that name query variables. -/
def isQueryMark (c : Char) : Bool := c = '?' || c = '&'

/-- The characters outside of groups; `inside` tells whether a group is open. -/
def pathFrom (inside : Bool) : List Char → List Char
  | [] => []
  | c :: rest =>
    if inside then pathFrom (c != '\x7d') rest
    else if opens isExpansionMark (c :: rest) then pathFrom true rest
    else c :: pathFrom false rest

/-- Where a scan for groups stands. -/
inductive Place where
  | outside
  /-- Before the mark of a group. -/
  | mark
  /-- In a group, after `body`. -/
  | inside (body : List Char)
  deriving DecidableEq, Repr

/-- The bodies of the groups that name query variables. -/
def bodies : Place → List Char → List (List Char)
  | _, [] => []
  | .outside, c :: rest =>
    if opens isQueryMark (c :: rest) then bodies .mark rest else bodies .outside rest
  | .mark, _ :: rest => bodies (.inside []) rest
  | .inside body, c :: rest =>
    if c = '\x7d' then body :: bodies .outside rest else bodies (.inside (body ++ [c])) rest

/-- A name without blanks around it and without asterisks at its end. -/
def variableName (cs : List Char) : List Char :=
  ((Text.trim cs).reverse.dropWhile (· = '*')).reverse

/-- The names in the body of a group. -/
def namesIn (body : List Char) : List (List Char) :=
  ((Text.splitOn ',' body).map variableName).filter (· ≠ [])

/-- A template split into path and query names. -/
structure Template where
  path : String
  queryNames : List String
  deriving DecidableEq, Repr

/-- Splits a template. -/
def Template.ofString (s : String) : Template :=
  { path := String.ofList (pathFrom false s.toList)
    queryNames := ((bodies .outside s.toList).flatMap namesIn).map String.ofList }

end Blueprint.Uri
