import Blueprint.Yaml.Cursor

/-!
# The text of scalars

A scalar is written plain, in quotes or as a block of lines. A single line break inside a plain or
quoted scalar stands for a space, and a longer gap for its further breaks.

* `foldBreaks`: what line breaks stand for.
* `plain`, `quoted`, `block`: the text of a scalar, and the place after it.
-/

namespace Blueprint.Yaml

/-! ## Gaps -/

/-- What the line breaks between two words stand for. A Unicode separator stays. -/
def foldBreaks : List Char → List Char
  | ['\n'] => [' ']
  | '\n' :: breaks => breaks
  | breaks => breaks

/-- The blanks and line breaks between two words. -/
structure Gap where
  /-- The blanks up to the first line break. -/
  blanks : List Char := []
  /-- The line breaks. -/
  breaks : List Char := []
  /-- Whether a tab stands in the indentation of a further line. -/
  tabbed : Bool := false

namespace Gap

/-- What a gap stands for. -/
def text (g : Gap) : List Char := if g.breaks.isEmpty then g.blanks else foldBreaks g.breaks

/-- Collects a gap. Further lines are indented by `indent` columns; `broken` says whether a line
break has been met. -/
def collect (indent : Int) : List Char → Cursor → Bool → Gap → Gap × Cursor
  | [], p, _, g => (g, p)
  | c :: rest, p, broken, g =>
    if isBreak c then
      collect indent rest p.next true { g with breaks := g.breaks ++ [c] }
    else if isBlank c then
      if broken then
        collect indent rest p.next true
          { g with tabbed := g.tabbed || (c = '\t' && p.column < indent) }
      else collect indent rest p.next false { g with blanks := g.blanks ++ [c] }
    else (g, p)

/-- The gap that starts here, and the place after it. -/
def scan (indent : Int) (p : Cursor) : Gap × Cursor := collect indent p.rest p false {}

end Gap

/-! ## Plain scalars -/

/-- A character that ends a plain scalar inside brackets or braces. -/
def isFlowIndicator (c : Char) : Bool :=
  c = ',' || c = '[' || c = ']' || c = '\x7b' || c = '\x7d'

/-- The characters of a plain scalar up to a gap or to its end. A colon ends it before a gap; inside
brackets or braces a colon must not stand before another indicator. -/
def plainWord? (inFlow : Bool) : List Char → Option (List Char)
  | [] => some []
  | c :: rest =>
    if isGap c then some []
    else if inFlow && c = ':' && rest.head?.any (fun d => isFlowIndicator d || d = '?') then none
    else if (c = ':' && atGap rest) || (inFlow && isFlowIndicator c) then some []
    else (plainWord? inFlow rest).map (c :: ·)

/-- A scalar, and the place after it. -/
structure Scanned where
  text : List Char
  after : Cursor
  /-- Whether a line break stands before that place. -/
  broken : Bool := false

/-- A scalar with more text in front. -/
def Scanned.prepend (text : List Char) (s : Scanned) : Scanned := { s with text := text ++ s.text }

/-- Reads the words of a plain scalar. `gap` is what stands before the next one. -/
def plainWords (inFlow : Bool) (indent : Int) : Nat → Gap → Cursor → Option Scanned
  | 0, _, _ => none
  | fuel + 1, gap, p =>
    let stop : Option Scanned := some ⟨[], p, !gap.breaks.isEmpty⟩
    if p.atDocumentEdge || p.rest.head? = some '#' then stop
    else do
      let word ← plainWord? inFlow p.rest
      if word.isEmpty then stop
      else
        let text := gap.text ++ word
        let p := p.skip word.length
        if p.rest.isEmpty || !atGap p.rest then return ⟨text, p, false⟩
        let (next, q) := Gap.scan indent p
        if next.tabbed then none
        else if !inFlow && q.column < indent then return ⟨text, q, !next.breaks.isEmpty⟩
        else return (← plainWords inFlow indent fuel next q).prepend text

/-- Reads a plain scalar. Its further lines are indented by `indent` columns. -/
def plain (inFlow : Bool) (indent : Int) (p : Cursor) : Option Scanned :=
  plainWords inFlow indent (p.rest.length + 1) {} p

/-! ## Scalars in quotes -/

/-- The value of a hexadecimal digit. -/
def hexDigit? (c : Char) : Option Nat :=
  if c.isDigit then some (c.toNat - '0'.toNat)
  else if 'a' ≤ c && c ≤ 'f' then some (c.toNat - 'a'.toNat + 10)
  else if 'A' ≤ c && c ≤ 'F' then some (c.toNat - 'A'.toNat + 10)
  else none

/-- The number of a run of hexadecimal digits. -/
def hexNumber? (cs : List Char) : Option Nat :=
  cs.foldlM (fun n c => (hexDigit? c).map (n * 16 + ·)) 0

/-- The characters that a letter after a backslash stands for. -/
def escapes : List (Char × Char) :=
  [('0', '\x00'), ('a', '\x07'), ('b', '\x08'), ('t', '\t'), ('\t', '\t'), ('n', '\n'), ('v', '\x0b'),
   ('f', '\x0c'), ('r', '\r'), ('e', '\x1b'), (' ', ' '), ('"', '"'), ('/', '/'), ('\\', '\\'),
   ('N', '\u0085'), ('_', '\u00a0'), ('L', '\u2028'), ('P', '\u2029')]

/-- How many digits follow a letter that stands for a character by its number. -/
def escapeDigits : List (Char × Nat) := [('x', 2), ('u', 4), ('U', 8)]

/-- The character of a number, if there is one. -/
def charOfNumber? (n : Nat) : Option Char := if n.isValidChar then some (Char.ofNat n) else none

/-- What follows a backslash: the character it stands for, and how many characters say so. -/
def escape? : List Char → Option (Char × Nat)
  | [] => none
  | c :: rest =>
    match escapes.lookup c, escapeDigits.lookup c with
    | some d, _ => some (d, 1)
    | none, some count => do
      let digits := rest.take count
      if digits.length = count then
        return (← charOfNumber? (← hexNumber? digits), count + 1)
      else none
    | none, none => none

/-- The next character of a word in quotes, and how many characters say so. There is none before a
gap, an escaped line break, the closing quote or the end of the text. -/
def quotedCharacter (single : Bool) : List Char → Option (Option (Char × Nat))
  | [] => some none
  | c :: rest =>
    if isGap c then some none
    else if single then
      if c ≠ '\'' then some (some (c, 1))
      else if rest.head? = some '\'' then some (some (c, 2))
      else some none
    else if c = '"' then some none
    else if c ≠ '\\' then some (some (c, 1))
    else if rest.head?.any isBreak then some none
    else (escape? rest).map fun (d, count) => some (d, count + 1)

/-- The word in quotes that starts here, and the place after it. -/
def quotedWord (single : Bool) : Nat → Cursor → Option (List Char × Cursor)
  | 0, _ => none
  | fuel + 1, p => do
    match ← quotedCharacter single p.rest with
    | none => return ([], p)
    | some (c, count) =>
      let (word, q) ← quotedWord single fuel (p.skip count)
      return (c :: word, q)

/-- Reads the words of a quoted scalar up to its closing quote. -/
def quotedWords (single : Bool) : Nat → Cursor → Option Scanned
  | 0, _ => none
  | fuel + 1, p =>
    if p.atDocumentEdge then none
    else do
      let (word, p) ← quotedWord single (fuel + 1) p
      match p.rest with
      | [] => none
      | c :: rest =>
        if isGap c then
          let (gap, q) := Gap.scan 0 p
          return (← quotedWords single fuel q).prepend (word ++ gap.text)
        else if c = '\\' then
          let p := p.skip 2
          if rest[1]? = some '"' then return ⟨word, p.next, false⟩
          else
            let gap := p.run isGap
            let s ← quotedWords single fuel (p.skip gap.length)
            return s.prepend (word ++ gap.filter isBreak)
        else return ⟨word, p.next, false⟩

/-- Reads a scalar in single or double quotes. -/
def quoted (single : Bool) (p : Cursor) : Option Scanned :=
  quotedWords single (p.rest.length + 1) p.next

/-! ## Blocks of lines -/

/-- What becomes of the line breaks at the end of a block. -/
inductive Chomping where
  | strip
  | clip
  | keep
  deriving DecidableEq, Repr

/-- The mark of a chomping. -/
def Chomping.ofChar? (c : Char) : Option Chomping :=
  if c = '+' then some .keep else if c = '-' then some .strip else none

/-- Reads the header of a block after its first character: a chomping and a width of indentation,
in either order. A width of zero is refused. -/
def blockHeader (p : Cursor) : Option (Chomping × Option Nat × Cursor) :=
  let chomping (p : Cursor) : Option Chomping × Cursor :=
    match p.rest.head?.bind Chomping.ofChar? with
    | some c => (some c, p.next)
    | none => (none, p)
  let width (p : Cursor) : Option Nat × Cursor :=
    match p.rest.head? with
    | some c => if c.isDigit then (some (c.toNat - '0'.toNat), p.next) else (none, p)
    | none => (none, p)
  let (first, p) := chomping p
  let (digits, p) := width p
  let (second, p) := if first.isNone && digits.isSome then chomping p else (none, p)
  if digits = some 0 then none
  else some ((first.or second).getD .clip, digits, p)

/-- The empty lines at a place of a block. -/
structure EmptyLines where
  breaks : List Char
  /-- The largest column met. -/
  width : Nat
  after : Cursor

/-- Passes over empty lines. Without a known indentation all spaces belong to it. A tab in the
indentation is refused. -/
def emptyLines (indent : Option Nat) : Nat → EmptyLines → Option EmptyLines
  | 0, _ => none
  | fuel + 1, e =>
    let spaces := e.after.run (· = ' ')
    let p := e.after.skip (match indent with
      | none => spaces.length
      | some n => min spaces.length (n - e.after.column))
    let e := { e with width := max e.width p.column, after := p }
    let inside := indent.all (p.column < ·)
    match p.rest with
    | [] => some e
    | c :: _ =>
      if inside && c = '\t' then none
      else if isBreak c then emptyLines indent fuel { e with breaks := e.breaks ++ [c], after := p.next }
      else some e

/-- Passes over the empty lines at a place of a block. -/
def EmptyLines.scan (indent : Option Nat) (p : Cursor) : Option EmptyLines :=
  emptyLines indent (p.rest.length + 1) ⟨[], 0, p⟩

/-- The lines of a block read so far. -/
structure Lines where
  text : List Char := []
  /-- The line break after the last line. -/
  ending : List Char := []
  /-- The breaks of the empty lines after it. -/
  empty : List Char := []
  /-- Whether the last line starts with a blank. -/
  indented : Bool := false

/-- What stands between the lines read and a further one. In a folded block a line break between
two lines without an indentation of their own stands for a space. -/
def Lines.separator (l : Lines) (literal indented : Bool) : List Char :=
  if !literal && l.ending = ['\n'] && !l.indented && !indented then
    if l.empty.isEmpty then [' '] else l.empty
  else l.ending ++ l.empty

/-- Reads the lines of a block. -/
def blockLines (literal : Bool) (indent : Nat) : Nat → Lines → Cursor → Option (Lines × Cursor)
  | 0, _, _ => none
  | fuel + 1, l, p =>
    if p.column ≠ indent || p.rest.isEmpty then some (l, p)
    else do
      let indented := p.rest.head?.any isBlank
      let line := p.run fun c => !isBreak c
      let p := p.skip line.length
      let ending := p.rest.take 1
      let e ← EmptyLines.scan (some indent) p.next
      blockLines literal indent fuel
        { text := l.text ++ l.separator literal indented ++ line
          ending := ending
          empty := e.breaks
          indented := indented }
        e.after

/-- Reads a block of lines in a collection indented by `parent` columns, or outside of all with
`-1`. -/
def block (literal : Bool) (parent : Int) (p : Cursor) : Option Scanned := do
  let (chomping, width, p) ← blockHeader p.next
  let p ← p.finishLine?
  let known := width.map fun n => (max parent 0).toNat + n
  let e ← EmptyLines.scan known p
  let indent := known.getD (max (max e.width (parent + 1).toNat) 1)
  let (l, after) ← blockLines literal indent (e.after.rest.length + 1) { empty := e.breaks } e.after
  let text := match chomping with
    | .strip => l.text
    | .clip => l.text ++ l.ending
    | .keep => l.text ++ l.ending ++ l.empty
  return ⟨text, after, false⟩

end Blueprint.Yaml
