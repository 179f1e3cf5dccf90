import Blueprint.Yaml.Tag

/-!
# Tokens

A text as a sequence of tokens. Blocks are told apart by indentation: a collection opens where an
entry stands further to the right than those around it, and closes before the first token that does
not. A key without a mark of its own is known only by the colon after it, so its place is kept until
the colon comes or can no longer come.

* `Token`: a token.
* `Tokens.ofString?`: the tokens of a text.
-/

namespace Blueprint.Yaml

/-- How a scalar is written. -/
inductive Style where
  | plain
  | quoted
  | literal
  | folded
  deriving DecidableEq, Repr

/-- A token. -/
inductive Token where
  | directive (d : Directive)
  | documentStart
  | documentEnd
  | blockList
  | blockMap
  | blockEnd
  | flowList
  | flowListEnd
  | flowMap
  | flowMapEnd
  /-- The hyphen before an item of a block. -/
  | item
  | comma
  | key
  | value
  | alias (name : String)
  | anchor (name : String)
  | tag (t : Tag)
  | scalar (text : String) (style : Style)
  deriving DecidableEq, Repr

/-- A place where a key may have started. -/
structure Candidate where
  /-- How many tokens stand before it. -/
  position : Nat
  line : Nat
  column : Nat
  /-- Whether nothing but a key may stand there. -/
  required : Bool
  deriving DecidableEq, Repr

/-- The tokens read so far, and what the next one depends on. -/
structure Tokens where
  place : Cursor
  /-- The tokens, the last one first. -/
  read : List Token := []
  /-- The columns of the open blocks, the innermost first. -/
  indents : List Nat := []
  /-- Whether a key, an item or a block may start at this place. -/
  fresh : Bool := true
  /-- Where a key may have started outside of brackets and braces. -/
  outer : Option Candidate := none
  /-- The same inside each open bracket or brace, the innermost first. -/
  inner : List (Option Candidate) := []

namespace Tokens

/-- Whether the place is inside brackets or braces. -/
def inFlow (t : Tokens) : Bool := !t.inner.isEmpty

/-- The column of the innermost block, or `-1` outside of all. -/
def indent (t : Tokens) : Int :=
  match t.indents with
  | [] => -1
  | n :: _ => n

/-- Where a key may have started. -/
def candidate (t : Tokens) : Option Candidate := t.inner.headD t.outer

/-- A new place where a key may have started, or none. -/
def setCandidate (c : Option Candidate) (t : Tokens) : Tokens :=
  match t.inner with
  | [] => { t with outer := c }
  | _ :: rest => { t with inner := c :: rest }

/-- A further token. -/
def push (k : Token) (t : Tokens) : Tokens := { t with read := k :: t.read }

/-- A further token before which `position` tokens stand. -/
def insert (position : Nat) (k : Token) (t : Tokens) : Tokens :=
  { t with read := t.read.insertIdx (t.read.length - position) k }

/-- Passes over characters. -/
def skip (n : Nat) (t : Tokens) : Tokens := { t with place := t.place.skip n }

/-- A token of `n` characters. -/
def take (n : Nat) (k : Token) (t : Tokens) : Tokens := (t.push k).skip n

/-! ## Keys -/

/-- Gives up the place where a key may have started, unless a key has to be there. -/
def dropCandidate (t : Tokens) : Option Tokens :=
  if t.candidate.any (·.required) then none else some (t.setCandidate none)

/-- Takes note that a key may start here. -/
def noteCandidate (t : Tokens) : Option Tokens :=
  if t.fresh then do
    let t ← t.dropCandidate
    return t.setCandidate (some
      { position := t.read.length
        line := t.place.line
        column := t.place.column
        required := !t.inFlow && t.indent = t.place.column })
  else some t

/-- How many characters a key may take. -/
def keyLimit : Nat := 1024

/-- Whether the colon after a key can no longer come: a key ends on its line. -/
def Candidate.isStale (p : Cursor) (c : Candidate) : Bool :=
  c.line < p.line || c.column + keyLimit < p.column

/-- Gives up all places where a key can no longer have started. -/
def dropStale (t : Tokens) : Option Tokens :=
  let stale := Option.any (Candidate.isStale t.place)
  if (t.outer :: t.inner).any fun c => stale c && c.any (·.required) then none
  else
    let fade (c : Option Candidate) := if stale c then none else c
    some { t with outer := fade t.outer, inner := t.inner.map fade }

/-! ## Blocks -/

/-- Opens a block at a column, before which `position` tokens stand, if it is not open. -/
def openBlock (column position : Nat) (k : Token) (t : Tokens) : Tokens :=
  if !t.inFlow && t.indent < column then
    { t.insert position k with indents := column :: t.indents }
  else t

/-- Closes the blocks of a list to the right of a column. -/
def closeIndents (column : Int) : List Nat → List Token → List Nat × List Token
  | [], read => ([], read)
  | n :: rest, read =>
    if column < n then closeIndents column rest (.blockEnd :: read) else (n :: rest, read)

/-- Closes the blocks to the right of a column. -/
def closeBlocks (column : Int) (t : Tokens) : Tokens :=
  if t.inFlow then t
  else
    let (indents, read) := closeIndents column t.indents t.read
    { t with indents, read }

/-- Closes all blocks, and lets no key start here. -/
def closeAll (t : Tokens) : Option Tokens := do
  let t ← (t.closeBlocks (-1)).dropCandidate
  return { t with fresh := false }

/-! ## Single tokens -/

/-- Passes over blanks, comments and line breaks. A tab is a blank only where no block may start. -/
def skipGap : Nat → Tokens → Tokens
  | 0, t => t
  | fuel + 1, t =>
    let tabs := t.inFlow || !t.fresh
    let p := (t.place.skipWhile fun c => c = ' ' || (tabs && c = '\t')).skipComment
    if p.rest.head?.any isBreak then
      skipGap fuel { t with place := p.next, fresh := t.fresh || !t.inFlow }
    else { t with place := p }

/-- Reads an opening bracket or brace. -/
def openFlow (k : Token) (t : Tokens) : Option Tokens := do
  let t ← t.noteCandidate
  return { t.take 1 k with inner := none :: t.inner, fresh := true }

/-- Reads a closing bracket or brace. -/
def closeFlow (k : Token) (t : Tokens) : Option Tokens := do
  let t ← t.dropCandidate
  return { t.take 1 k with inner := t.inner.drop 1, fresh := false }

/-- Reads a comma. -/
def comma (t : Tokens) : Option Tokens := do
  let t ← t.dropCandidate
  return { t.take 1 .comma with fresh := true }

/-- Opens a block here, outside of brackets and braces. -/
def openHere (k : Token) (t : Tokens) : Option Tokens :=
  if t.inFlow then some t
  else if t.fresh then some (t.openBlock t.place.column t.read.length k)
  else none

/-- Reads the hyphen before an item. -/
def item (t : Tokens) : Option Tokens := do
  let t ← (← t.openHere .blockList).dropCandidate
  return { t.take 1 .item with fresh := true }

/-- Reads the mark of a key. -/
def key (t : Tokens) : Option Tokens := do
  let t ← (← t.openHere .blockMap).dropCandidate
  return { t.take 1 .key with fresh := !t.inFlow }

/-- Reads the colon before a value. -/
def value (t : Tokens) : Option Tokens :=
  match t.candidate with
  | some c =>
    let t := (t.insert c.position .key).openBlock c.column c.position .blockMap
    some { (t.setCandidate none).take 1 .value with fresh := false }
  | none => do
    let t ← t.openHere .blockMap
    return { t.take 1 .value with fresh := !t.inFlow }

/-- Reads a token that may be a key or start one. -/
def content (scan : Cursor → Option (Token × Cursor)) (t : Tokens) : Option Tokens := do
  let t ← t.noteCandidate
  let (k, p) ← scan t.place
  return { t.push k with place := p, fresh := false }

/-- Reads the name of an anchor as a token. -/
def named (make : String → Token) (p : Cursor) : Option (Token × Cursor) :=
  (anchorName p.next).map fun (name, q) => (make name, q)

/-- Reads a scalar in quotes. -/
def quotedScalar (single : Bool) (p : Cursor) : Option (Token × Cursor) :=
  (quoted single p).map fun s => (.scalar (String.ofList s.text) .quoted, s.after)

/-- Reads a plain scalar. A key may start after it if a line break does not belong to it. -/
def plainScalar (t : Tokens) : Option Tokens := do
  let t ← t.noteCandidate
  let s ← plain t.inFlow (t.indent + 1) t.place
  return { t.push (.scalar (String.ofList s.text) .plain) with place := s.after, fresh := s.broken }

/-- Reads a block of lines. -/
def blockScalar (literal : Bool) (t : Tokens) : Option Tokens := do
  let t ← t.dropCandidate
  let s ← block literal t.indent t.place
  let style := if literal then .literal else .folded
  return { t.push (.scalar (String.ofList s.text) style) with place := s.after, fresh := true }

/-- Reads a directive. -/
def directive (t : Tokens) : Option Tokens := do
  let t ← t.closeAll
  let (d, p) ← Directive.scan t.place
  return { t.push (.directive d) with place := p }

/-- Reads the edge of a document. -/
def documentEdge (k : Token) (t : Tokens) : Option Tokens := do
  let t ← t.closeAll
  return t.take 3 k

/-- A character that has a meaning of its own where a token starts. -/
def isIndicator (c : Char) : Bool := "-?:,[]\x7b\x7d#&*!|>'\"%@`".toList.contains c

/-- Whether a plain scalar may start with a character before others. A hyphen starts one unless a
blank follows; so do a question mark and a colon outside of brackets and braces. -/
def startsPlain (inFlow : Bool) (c : Char) (rest : List Char) : Bool :=
  (!isGap c && !isIndicator c)
    || (c = '-' && !rest.head?.any isBlank)
    || (!inFlow && (c = '?' || c = ':') && !atGap rest)

/-- Reads the token that starts with a character. -/
def token (c : Char) (rest : List Char) (t : Tokens) : Option Tokens :=
  let spaced := atGap rest
  if t.place.column = 0 && c = '%' then t.directive
  else if t.place.atMarker '-' then t.documentEdge .documentStart
  else if t.place.atMarker '.' then t.documentEdge .documentEnd
  else if c = '[' then t.openFlow .flowList
  else if c = '\x7b' then t.openFlow .flowMap
  else if c = ']' then t.closeFlow .flowListEnd
  else if c = '\x7d' then t.closeFlow .flowMapEnd
  else if c = ',' then t.comma
  else if c = '-' && spaced then t.item
  else if c = '?' && (t.inFlow || spaced) then t.key
  else if c = ':' && (t.inFlow || spaced) then t.value
  else if c = '*' then t.content (named .alias)
  else if c = '&' then t.content (named .anchor)
  else if c = '!' then
    t.content fun p => (Tag.scan t.inFlow p).map fun (tag, q) => (.tag tag, q)
  else if c = '|' && !t.inFlow then t.blockScalar true
  else if c = '>' && !t.inFlow then t.blockScalar false
  else if c = '\'' then t.content (quotedScalar true)
  else if c = '"' then t.content (quotedScalar false)
  else if startsPlain t.inFlow c rest then t.plainScalar
  else none

/-- Reads the rest of a text. Every token but those of blocks takes a character. -/
def readAll : Nat → Tokens → Option Tokens
  | 0, _ => none
  | fuel + 1, t => do
    let t ← (t.skipGap (fuel + 1)).dropStale
    let t := t.closeBlocks t.place.column
    match t.place.rest with
    | [] => t.closeAll
    | c :: rest => readAll fuel (← t.token c rest)

/-- The tokens of a text. -/
def ofString? (s : String) : Option (List Token) := do
  let p ← Cursor.ofString? s
  let t ← readAll (p.rest.length + 1) { place := p }
  return t.read.reverse

end Tokens

end Blueprint.Yaml
