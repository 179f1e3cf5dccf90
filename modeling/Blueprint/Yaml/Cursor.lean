/-!
# Places in a text

Where a reader of YAML stands: what is left of the text, and the line and column of its first
character. Line breaks of all systems are one character here.

* `Cursor`: a place in a text.
* `Cursor.ofString?`: the start of a text, if it holds permitted characters only.
* `isBreak`, `isBlank`, `isWordCharacter`: classes of characters.
-/

namespace Blueprint.Yaml

/-- A line break: a line feed, or one of the two Unicode separators. -/
def isBreak (c : Char) : Bool := c = '\n' || c = '\u2028' || c = '\u2029'

/-- A space or a tab. -/
def isBlank (c : Char) : Bool := c = ' ' || c = '\t'

/-- A blank or a line break. -/
def isGap (c : Char) : Bool := isBlank c || isBreak c

/-- A character of the names of anchors, tag handles and directives. -/
def isWordCharacter (c : Char) : Bool := c.isAlphanum || c = '_' || c = '-'

/-- Whether a text ends here, or goes on with a blank or a line break. -/
def atGap : List Char → Bool
  | [] => true
  | c :: _ => isGap c

/-- Whether a line ends here. -/
def atBreak : List Char → Bool
  | [] => true
  | c :: _ => isBreak c

/-- A character that a text may hold. Most control characters are not permitted. -/
def isPermitted (c : Char) : Bool :=
  let n := c.toNat
  n = 0x09 || n = 0x0A || n = 0x0D || (0x20 ≤ n && n ≤ 0x7E) || n = 0x85
    || (0xA0 ≤ n && n ≤ 0xFFFD) || 0x10000 ≤ n

/-- A text in which every line break but the Unicode separators is a line feed. -/
def normalizeBreaks : List Char → List Char
  | [] => []
  | '\r' :: '\n' :: rest => '\n' :: normalizeBreaks rest
  | c :: rest => (if c = '\r' || c = '\u0085' then '\n' else c) :: normalizeBreaks rest

/-- A place in a text. -/
structure Cursor where
  rest : List Char
  line : Nat := 0
  column : Nat := 0
  deriving Inhabited

namespace Cursor

/-- The place after the next character. -/
def next (p : Cursor) : Cursor :=
  match p.rest with
  | [] => p
  | c :: rest =>
    if isBreak c then { rest, line := p.line + 1 } else { p with rest, column := p.column + 1 }

/-- The place after a number of characters. -/
def skip (n : Nat) (p : Cursor) : Cursor :=
  match n with
  | 0 => p
  | n + 1 => p.next.skip n

/-- The place after all the next characters that satisfy `f`. -/
def skipWhile (f : Char → Bool) (p : Cursor) : Cursor := p.skip (p.rest.takeWhile f).length

/-- The next characters that satisfy `f`. -/
def run (f : Char → Bool) (p : Cursor) : List Char := p.rest.takeWhile f

/-- The place after a comment, if one starts here. -/
def skipComment (p : Cursor) : Cursor :=
  match p.rest with
  | '#' :: _ => p.skipWhile fun c => !isBreak c
  | _ => p

/-- The place after what may follow the header of a block or a directive on its line: blanks, a
comment and the line break. Nothing else may. -/
def finishLine? (p : Cursor) : Option Cursor :=
  let q := (p.skipWhile isBlank).skipComment
  if atBreak q.rest then some q.next else none

/-- Whether a line of three marks, which delimits documents, starts here. -/
def atMarker (mark : Char) (p : Cursor) : Bool :=
  p.column = 0 && match p.rest with
    | a :: b :: c :: after => a = mark && b = mark && c = mark && atGap after
    | _ => false

/-- Whether a document starts or ends here. -/
def atDocumentEdge (p : Cursor) : Bool := p.atMarker '-' || p.atMarker '.'

/-- The start of a text. A byte order mark is passed over but takes a column. -/
def ofString? (s : String) : Option Cursor :=
  let cs := s.toList
  if cs.all isPermitted then
    let start : Cursor := { rest := normalizeBreaks cs }
    some (if cs.head? = some '\uFEFF' then start.next else start)
  else none

end Cursor

end Blueprint.Yaml
