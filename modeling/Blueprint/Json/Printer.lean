import Blueprint.Decimal.Shortest
import Blueprint.Json.Basic
import Blueprint.Json.Quoted

/-!
# Printing JSON

* `render`: a value without blanks.
* `pretty`: a value with one item or entry a line, indented by two blanks a level.
-/

namespace Blueprint.Json

/-- A number in decimal digits. -/
def Number.render : Number → List Char
  | .int n => Decimal.exponentText n
  | .float bits => Decimal.ofDouble bits

/-- A text in quotes. -/
def quote (s : String) : List Char := '"' :: Quoted.encode s.toList ++ ['"']

mutual

/-- A value without blanks. -/
def render : Json → List Char
  | .null => "null".toList
  | .bool true => "true".toList
  | .bool false => "false".toList
  | .number n => n.render
  | .string s => quote s
  | .array items => '[' :: renderItems items ++ [']']
  | .object entries => '\x7b' :: renderEntries entries ++ ['\x7d']

/-- Items with commas between them. -/
def renderItems : List Json → List Char
  | [] => []
  | [j] => render j
  | j :: k :: rest => render j ++ ',' :: renderItems (k :: rest)

/-- Entries with commas between them. -/
def renderEntries : List (String × Json) → List Char
  | [] => []
  | [(k, j)] => quote k ++ ':' :: render j
  | (k, j) :: e :: rest => quote k ++ ':' :: render j ++ ',' :: renderEntries (e :: rest)

end

/-- A line break and the indentation of a level. -/
def newLine (level : Nat) : List Char := '\n' :: List.replicate (2 * level) ' '

mutual

/-- A value with its parts on lines of their own. -/
def prettyAt (level : Nat) : Json → List Char
  | .array [] => "[]".toList
  | .array (j :: rest) =>
    '[' :: newLine (level + 1) ++ prettyAt (level + 1) j ++ prettyItems (level + 1) rest
      ++ newLine level ++ [']']
  | .object [] => ['\x7b', '\x7d']
  | .object ((k, j) :: rest) =>
    '\x7b' :: newLine (level + 1) ++ quote k ++ ": ".toList ++ prettyAt (level + 1) j
      ++ prettyEntries (level + 1) rest ++ newLine level ++ ['\x7d']
  | .null => "null".toList
  | .bool b => if b then "true".toList else "false".toList
  | .number n => n.render
  | .string s => quote s

/-- Further items, a comma and a line break before each. -/
def prettyItems (level : Nat) : List Json → List Char
  | [] => []
  | j :: rest => ',' :: newLine level ++ prettyAt level j ++ prettyItems level rest

/-- Further entries, a comma and a line break before each. -/
def prettyEntries (level : Nat) : List (String × Json) → List Char
  | [] => []
  | (k, j) :: rest =>
    ',' :: newLine level ++ quote k ++ ": ".toList ++ prettyAt level j ++ prettyEntries level rest

end

/-- A value with one item or entry a line. -/
def pretty (j : Json) : List Char := prettyAt 0 j

end Blueprint.Json
