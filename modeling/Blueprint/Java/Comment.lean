import Blueprint.Text.Basic

/-!
# Documentation comments

* `commentLines`: a text as the lines of a comment, which it cannot end.
* `withoutOptions`: a description without the lines that start with a plus sign.
-/

namespace Blueprint.Java

open Text

/-- A text in which a backslash splits every end of a comment. -/
def escapeEnds : List Char → List Char
  | '*' :: '/' :: rest => '*' :: '\\' :: '/' :: escapeEnds rest
  | c :: rest => c :: escapeEnds rest
  | [] => []

/-- A line of a comment; `pad` indents it. -/
def commentLine (pad line : List Char) : List Char :=
  match trimEnd line with
  | [] => pad ++ [' ', '*']
  | text => pad ++ ' ' :: '*' :: ' ' :: text

/-- The lines of a comment on a text, one at least. -/
def commentLines (indent : Nat) (s : String) : List String :=
  let pad := List.replicate indent ' '
  match (lines (trim (escapeEnds s.toList))).map (commentLine pad) with
  | [] => [String.ofList (pad ++ [' ', '*'])]
  | ls => ls.map String.ofList

/-- Whether a line of a description is written as an option. -/
def looksLikeOption (line : List Char) : Bool := (trimStart line).head? = some '+'

/-- A description without the lines that are written as options. -/
def withoutOptions (s : String) : String :=
  String.ofList
    (trim (joinWith ['\n'] ((lines s.toList).filter fun l => !looksLikeOption l)))

end Blueprint.Java
