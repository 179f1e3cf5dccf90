import Blueprint.Unicode.Property

/-!
# Text

Texts are strings; what looks inside one works on its list of characters.

* `trimStart`, `trimEnd`, `trim`: without the white space at one end or at both.
* `splitOn`, `splitWhere`: the pieces between separators, empty ones included.
* `lines`: the lines of a text, each without its line break.
* `joinWith`: pieces joined by a separator.
-/

namespace Blueprint.Text

open Unicode

/-- The characters from the first that is no white space. -/
def trimStart (cs : List Char) : List Char := cs.dropWhile isWhiteSpace

/-- The characters up to the last that is no white space. -/
def trimEnd (cs : List Char) : List Char := (cs.reverse.dropWhile isWhiteSpace).reverse

/-- The characters without the white space at both ends. -/
def trim (cs : List Char) : List Char := trimEnd (trimStart cs)

/-- `trim` on strings. -/
def trimmed (s : String) : String := String.ofList (trim s.toList)

/-- A text of white space alone. -/
def isBlank (s : String) : Bool := s.toList.all isWhiteSpace

/-- The pieces between the characters that satisfy `p`; a text without one is a single piece. -/
def splitWhere (p : Char → Bool) : List Char → List (List Char)
  | [] => [[]]
  | c :: rest =>
    if p c then [] :: splitWhere p rest
    else match splitWhere p rest with
      | [] => [[c]]
      | piece :: pieces => (c :: piece) :: pieces

/-- The pieces between the occurrences of `sep`. -/
def splitOn (sep : Char) : List Char → List (List Char) := splitWhere (· == sep)

/-- The lines of a text. A line ends with a line feed, which may follow one carriage return; both
are dropped, and what follows the last line feed is a line unless it is empty. -/
def lines : List Char → List (List Char)
  | [] => []
  | '\n' :: rest => [] :: lines rest
  | '\r' :: '\n' :: rest => [] :: lines rest
  | c :: rest =>
    match lines rest with
    | [] => [[c]]
    | l :: ls => (c :: l) :: ls

/-- Pieces joined by a separator. -/
def joinWith (sep : List Char) : List (List Char) → List Char
  | [] => []
  | [piece] => piece
  | piece :: rest => piece ++ sep ++ joinWith sep rest

/-- Strings joined by a separator. -/
def joined (sep : String) (pieces : List String) : String :=
  String.ofList (joinWith sep.toList (pieces.map String.toList))

/-- A number in decimal digits. -/
def decimal (n : Nat) : String := String.ofList (Nat.toDigits 10 n)

/-- Whether `needle` starts `cs`; if so, what follows it. -/
def dropStart? : List Char → List Char → Option (List Char)
  | [], cs => some cs
  | _ :: _, [] => none
  | n :: needle, c :: cs => if n = c then dropStart? needle cs else none

/-- Whether `needle` ends `cs`; if so, what stands before it. -/
def dropEnd? (needle cs : List Char) : Option (List Char) :=
  (dropStart? needle.reverse cs.reverse).map List.reverse

/-- An ASCII letter or digit. -/
def isAsciiAlphanumeric (c : Char) : Bool := c.isAlphanum

/-- The capital of an ASCII letter; other characters stay. -/
def asciiUpper (c : Char) : Char := c.toUpper

end Blueprint.Text
