import Blueprint.Json.Printer
import Blueprint.Yaml.Value

/-!
# Printing YAML

A value as blocks of lines. A text is plain where it then reads back as itself, in single quotes
where it would read as something else, in double quotes where it holds characters that need an
escape, and a block of lines where it has several.

* `chooseStyle`: how a text is written.
* `writeText`: a text in some style.
* `render`: a value.
-/

namespace Blueprint.Yaml

open Json (Number)

/-! ## The style of a text -/

/-- A line break of any system. -/
def isAnyBreak (c : Char) : Bool := isBreak c || c = '\r' || c = '\u0085'

/-- A character that needs no escape. -/
def isVerbatim (c : Char) : Bool :=
  let n := c.toNat
  n = 0x0A || (0x20 ≤ n && n ≤ 0x7E) || (0xA0 ≤ n && n ≤ 0xFFFD && n ≠ 0xFEFF) || 0x10000 ≤ n

/-- Whether a text ends here, or goes on with a blank, a line break or a null character. -/
def beforeGap : List Char → Bool
  | [] => true
  | c :: _ => isBlank c || isAnyBreak c || c = '\x00'

/-- Two characters in a row that satisfy `f` and `g`. -/
def hasPair (f g : Char → Bool) : List Char → Bool
  | c :: d :: rest => (f c && g d) || hasPair f g (d :: rest)
  | _ => false

/-- Whether a text starts so that it is no plain scalar. -/
def startsSpecially : List Char → Bool
  | [] => false
  | c :: rest =>
    "#,[]\x7b\x7d&*!|>'\"%@`".toList.contains c
      || ((c = '?' || c = ':' || c = '-') && beforeGap rest)

/-- Whether a text ends a plain scalar after its first character: by a colon before a gap, or by a
comment. -/
def breaksPlain : List Char → Bool
  | c :: d :: rest =>
    (d = ':' && beforeGap rest) || (d = '#' && beforeGap [c]) || breaksPlain (d :: rest)
  | _ => false

/-- How a text can be written. -/
structure Shape where
  multiline : Bool
  plain : Bool
  single : Bool
  block : Bool
  deriving DecidableEq, Repr

/-- How a text can be written: blanks at its ends or next to line breaks are kept only in quotes. -/
def shapeOf (cs : List Char) : Shape :=
  let isSpace := fun c => c = ' '
  let special := cs.any fun c => !isVerbatim c
  let multiline := cs.any isAnyBreak
  let spaceBreak := hasPair isSpace isAnyBreak cs
  let breakSpace := hasPair isAnyBreak isSpace cs
  let edge (c : Option Char) := c.any fun c => isSpace c || isAnyBreak c
  let marked := cs.take 3 = "---".toList || cs.take 3 = "...".toList
  { multiline
    plain := !(special || multiline || edge cs.head? || edge cs.getLast? || marked
      || startsSpecially cs || breaksPlain cs)
    single := !(special || spaceBreak || breakSpace)
    block := !(cs.isEmpty || special || spaceBreak || cs.getLast?.any isSpace) }

/-- How a text is written. -/
inductive Layout where
  | plain
  | single
  | double
  | block
  deriving DecidableEq, Repr

/-- Whether a plain scalar would not be read as the text it is. -/
def readsOtherwise (s : String) : Bool :=
  hasLeadingZero s.toList || match plainDatum s with
    | .ok (.text _) => false
    | _ => true

/-- How a text is written. -/
def chooseStyle (s : String) : Layout :=
  let cs := s.toList
  let shape := shapeOf cs
  if cs.contains '\n' then if shape.block then .block else .double
  else if shape.plain && !readsOtherwise s then .plain
  else if shape.single then .single
  else .double

/-! ## Texts -/

/-- A hexadecimal digit. -/
def upperHexDigit (n : Nat) : Char :=
  Char.ofNat (if n < 10 then '0'.toNat + n else 'A'.toNat + n - 10)

/-- The last `width` hexadecimal digits of a number. -/
def upperHex : Nat → Nat → List Char
  | 0, _ => []
  | width + 1, n => upperHex width (n / 16) ++ [upperHexDigit (n % 16)]

/-- The letters that stand for characters after a backslash in what is written. -/
def writtenEscapes : List (Char × Char) :=
  [('\x00', '0'), ('\x07', 'a'), ('\x08', 'b'), ('\t', 't'), ('\n', 'n'), ('\x0b', 'v'), ('\x0c', 'f'),
   ('\r', 'r'), ('\x1b', 'e'), ('"', '"'), ('\\', '\\'), ('\u0085', 'N'),
   ('\u2028', 'L'), ('\u2029', 'P')]

/-- A character in double quotes. -/
def escapeChar (c : Char) : List Char :=
  if isVerbatim c && !isAnyBreak c && c ≠ '"' && c ≠ '\\' then [c]
  else
    let n := c.toNat
    match writtenEscapes.lookup c with
    | some letter => ['\\', letter]
    | none =>
      if n ≤ 0xFF then '\\' :: 'x' :: upperHex 2 n
      else if n ≤ 0xFFFF then '\\' :: 'u' :: upperHex 4 n
      else '\\' :: 'U' :: upperHex 8 n

/-- Spaces at the start of a line. -/
def pad (indent : Nat) : List Char := List.replicate indent ' '

/-- Characters of which those at the start of a line are indented. `fresh` says whether a line starts
here. -/
def indentLines (indent : Nat) : Bool → List Char → List Char
  | _, [] => []
  | fresh, c :: rest =>
    if isAnyBreak c then c :: indentLines indent true rest
    else if fresh then pad indent ++ c :: indentLines indent false rest
    else c :: indentLines indent false rest

/-- The header of a block: its indentation if it starts with a space or a line break, and what
becomes of its last line breaks. -/
def blockMark (cs : List Char) : List Char :=
  let hint := if cs.head?.any fun c => c = ' ' || isAnyBreak c then ['2'] else []
  let chomp := match cs.reverse with
    | [] => ['-']
    | [c] => if isAnyBreak c then ['+'] else ['-']
    | c :: d :: _ => if !isAnyBreak c then ['-'] else if isAnyBreak d then ['+'] else []
  '|' :: hint ++ chomp

/-- A text in single quotes, where a quote is written twice. -/
def singleQuoted (indent : Nat) (cs : List Char) : List Char :=
  let doubled := cs.flatMap fun c => if c = '\'' then ['\'', '\''] else [c]
  let lines := indentLines indent false doubled
  '\'' :: lines ++ (if cs.getLast?.any isAnyBreak then pad indent else []) ++ ['\'']

/-- A text in some style. Further lines are indented by `indent` columns. -/
def writeText (indent : Nat) (style : Layout) (s : String) : List Char :=
  let cs := s.toList
  match style with
  | .plain => cs
  | .single => singleQuoted indent cs
  | .double => '"' :: cs.flatMap escapeChar ++ ['"']
  | .block => blockMark cs ++ '\n' :: indentLines indent true cs

/-! ## Values -/

/-- A line that is ended, unless it has ended already. -/
def endLine (cs : List Char) : List Char := if cs.getLast?.any isAnyBreak then cs else cs ++ ['\n']

/-- How many bytes a key may take that stands before its colon. -/
def shortKeyLimit : Nat := 128

/-- Whether a key stands before its colon, on the same line. -/
def isShortKey (k : String) : Bool :=
  !(shapeOf k.toList).multiline && k.utf8ByteSize ≤ shortKeyLimit

/-- A key in a record indented by `indent` columns, with the colon after it. -/
def writeKey (indent : Nat) (k : String) : List Char :=
  if isShortKey k then writeText indent (chooseStyle k) k ++ [':']
  else
    let text := writeText (indent + 2) (chooseStyle k) k
    '?' :: ' ' :: endLine text ++ pad indent ++ [':']

/-- A value without parts. -/
def writeScalar (indent : Nat) : Json → List Char
  | .null => "null".toList
  | .bool b => if b then "true".toList else "false".toList
  | .number n => n.render
  | .string s => writeText indent (chooseStyle s) s
  | .array _ => "[]".toList
  | .object _ => ['\x7b', '\x7d']

/-- Lines of which the first goes on an open line. -/
def unpadded (indent : Nat) (cs : List Char) : List Char := cs.drop indent

mutual

/-- The lines of the entries of a record. -/
def writeEntries (indent : Nat) : List (String × Json) → List Char
  | [] => []
  | (k, j) :: rest =>
    pad indent ++ writeKey indent k ++ writeValue indent j ++ writeEntries indent rest

/-- The value of an entry, after its colon. The items of a list stand below its key. -/
def writeValue (indent : Nat) : Json → List Char
  | .array (j :: rest) => '\n' :: writeItems indent (j :: rest)
  | .object (e :: rest) => '\n' :: writeEntries (indent + 2) (e :: rest)
  | j => ' ' :: endLine (writeScalar (indent + 2) j)

/-- The lines of the items of a list. -/
def writeItems (indent : Nat) : List Json → List Char
  | [] => []
  | j :: rest => pad indent ++ '-' :: ' ' :: writeItem indent j ++ writeItems indent rest

/-- An item, after its hyphen. -/
def writeItem (indent : Nat) : Json → List Char
  | .array (j :: rest) => unpadded (indent + 2) (writeItems (indent + 2) (j :: rest))
  | .object (e :: rest) => unpadded (indent + 2) (writeEntries (indent + 2) (e :: rest))
  | j => endLine (writeScalar (indent + 2) j)

end

/-- The lines of a value. -/
def render : Json → List Char
  | .array (j :: rest) => writeItems 0 (j :: rest)
  | .object (e :: rest) => writeEntries 0 (e :: rest)
  | j => endLine (writeScalar 0 j)

end Blueprint.Yaml
