import Blueprint.Text.Basic

/-!
# Java names, literals and types

How names, texts and types of an API are written in Java.

* `typeText`: a type, with wrapper classes for primitive type arguments.
* `identifier`: a name that is no reserved word.
* `literalBody`: a text between the quotes of a string literal.
-/

namespace Blueprint.Java

open Text

/-! ## Types -/

/-- The wrapper classes of the primitive types. -/
def wrappers : List (String × String) := [
  ("int", "Integer"), ("double", "Double"), ("boolean", "Boolean"), ("float", "Float"),
  ("long", "Long"), ("char", "Character"), ("byte", "Byte"), ("short", "Short")]

/-- A token with its wrapper class in place of a primitive type. -/
def boxed (token : List Char) : List Char :=
  match wrappers.find? (·.1.toList = token) with
  | some (_, w) => w.toList
  | none => token

/-- A character of a token: a letter, a digit, an underscore or a point. -/
def isTokenChar (c : Char) : Bool := Unicode.isAlphanumeric c || c = '_' || c = '.'

/-- A text with every token boxed; `token` is the part of a token read so far. -/
def boxTokens (token : List Char) : List Char → List Char
  | [] => boxed token
  | c :: rest =>
    if isTokenChar c then boxTokens (token ++ [c]) rest
    else boxed token ++ c :: boxTokens [] rest

/-- A type as it is declared. Type arguments cannot be primitive; the type itself may. -/
def typeText (s : String) : String :=
  String.ofList (s.toList.takeWhile (· != '<') ++ boxTokens [] (s.toList.dropWhile (· != '<')))

/-! ## Identifiers -/

/-- The reserved words. -/
def reserved : List String := [
  "abstract", "assert", "boolean", "break", "byte", "case", "catch", "char", "class", "const",
  "continue", "default", "do", "double", "else", "enum", "extends", "false", "final", "finally",
  "float", "for", "goto", "if", "implements", "import", "instanceof", "int", "interface", "long",
  "native", "new", "null", "package", "private", "protected", "public", "return", "short",
  "static", "strictfp", "super", "switch", "synchronized", "this", "throw", "throws",
  "transient", "true", "try", "void", "volatile", "while"]

/-- A name; a reserved word takes an underscore at its end. -/
def identifier (name : String) : String := if reserved.contains name then name ++ "_" else name

/-! ## String literals -/

/-- A character between the quotes of a string literal. -/
def literalChar (c : Char) : List Char :=
  if c = '\\' then ['\\', '\\'] else if c = '"' then ['\\', '"'] else [c]

/-- A text between the quotes of a string literal. -/
def literalBody (s : String) : String := String.ofList (s.toList.flatMap literalChar)

/-- A text as a string literal. -/
def literal (s : String) : String := "\"" ++ literalBody s ++ "\""

end Blueprint.Java
