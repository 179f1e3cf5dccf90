import Blueprint.Yaml.ScalarText

/-!
# Anchors, tags and directives

* `anchorName`: the name after `&` or `*`.
* `Tag`: a tag as it is written, by a handle and what follows it.
* `Tag.scan`: reads a tag.
* `Directive.scan`: reads a line that sets the version or the meaning of a handle.
* `Tag.resolve?`: the tag that a written one stands for.
-/

namespace Blueprint.Yaml

/-- Reads the name of an anchor. A gap or one of a few indicators must follow. -/
def anchorName (p : Cursor) : Option (String × Cursor) :=
  let name := p.run isWordCharacter
  let q := p.skip name.length
  let ends := match q.rest with
    | [] => true
    | c :: _ => isGap c || "?:,]\x7d%@`".toList.contains c
  if name.isEmpty || !ends then none else some (String.ofList name, q)

/-- A tag as it is written. One given in full has no handle. -/
structure Tag where
  handle : String
  suffix : String
  deriving DecidableEq, Repr

namespace Tag

/-- A character of a tag that is no letter, digit, hyphen or underscore. -/
def isMark (c : Char) : Bool := ";/?:@&=+$.%!~*'()".toList.contains c

/-- A character of a tag. Only one that is given in full, between angle brackets or in a directive,
holds commas and brackets. -/
def isCharacter (full : Bool) (c : Char) : Bool :=
  isWordCharacter c || isMark c || (full && (c = ',' || c = '[' || c = ']'))

/-- How many bytes a character has whose first byte is `b`. -/
def byteCount? (b : Nat) : Option Nat :=
  if b < 0x80 then some 1
  else if b / 0x20 = 6 then some 2
  else if b / 0x10 = 14 then some 3
  else if b / 0x08 = 30 then some 4
  else none

/-- A byte that is written as a percent sign and two digits. -/
def percentByte? : List Char → Option Nat
  | '%' :: a :: b :: _ => hexNumber? [a, b]
  | _ => none

/-- Reads further bytes of a character. -/
def percentTail : Nat → Nat → List Char → Option Nat
  | 0, value, _ => some value
  | n + 1, value, cs => do
    let b ← percentByte? cs
    if b / 0x40 = 2 then percentTail n (value * 0x40 + b % 0x40) (cs.drop 3) else none

/-- Reads a character that is written by its bytes, and says how many characters that takes. -/
def percentCharacter? (cs : List Char) : Option (Char × Nat) := do
  let first ← percentByte? cs
  let count ← byteCount? first
  let lead := if count = 1 then first else first % Nat.pow 2 (7 - count)
  let value ← percentTail (count - 1) lead (cs.drop 3)
  return (Char.ofNat value, 3 * count)

/-- Reads the characters of a tag. -/
def characters (full : Bool) : Nat → Cursor → Option (List Char × Cursor)
  | 0, _ => none
  | fuel + 1, p =>
    match p.rest with
    | [] => some ([], p)
    | c :: _ =>
      if !isCharacter full c then some ([], p)
      else do
        let (d, count) ← if c = '%' then percentCharacter? p.rest else some (c, 1)
        let (rest, q) ← characters full fuel (p.skip count)
        return (d :: rest, q)

/-- Reads the characters of a tag; there must be some. -/
def someCharacters (full : Bool) (p : Cursor) : Option (List Char × Cursor) := do
  let (cs, q) ← characters full (p.rest.length + 1) p
  if cs.isEmpty then none else some (cs, q)

/-- Reads a handle: a word between exclamation marks, the second of which may be missing. -/
def scanHandle (p : Cursor) : Option (List Char × Cursor) :=
  if p.rest.head? = some '!' then
    let word := p.next.run isWordCharacter
    let q := p.next.skip word.length
    if q.rest.head? = some '!' then some ('!' :: word ++ ['!'], q.next) else some ('!' :: word, q)
  else none

/-- Reads a tag up to what follows it. -/
def scanParts (p : Cursor) : Option (Tag × Cursor) :=
  if p.rest[1]? = some '<' then do
    let (cs, q) ← someCharacters true (p.skip 2)
    if q.rest.head? = some '>' then return (⟨"", String.ofList cs⟩, q.next) else none
  else do
    let (handle, q) ← scanHandle p
    if 2 ≤ handle.length && handle.getLast? = some '!' then
      let (cs, q) ← someCharacters false q
      return (⟨String.ofList handle, String.ofList cs⟩, q)
    else
      let (cs, q) ← characters false (q.rest.length + 1) q
      let suffix := handle.drop 1 ++ cs
      return (if suffix.isEmpty then ⟨"", "!"⟩ else ⟨"!", String.ofList suffix⟩, q)

/-- Reads a tag. A gap must follow it, or a comma inside brackets or braces. -/
def scan (inFlow : Bool) (p : Cursor) : Option (Tag × Cursor) := do
  let (tag, q) ← scanParts p
  if atGap q.rest || (inFlow && q.rest.head? = some ',') then return (tag, q) else none

/-- The meanings that handles have without a directive. -/
def defaultHandles : List (String × String) := [("!", "!"), ("!!", "tag:yaml.org,2002:")]

/-- The tag that a written one stands for. A handle without a meaning is refused. -/
def resolve? (handles : List (String × String)) (t : Tag) : Option String :=
  if t.handle.isEmpty then some t.suffix
  else ((handles ++ defaultHandles).lookup t.handle).map (· ++ t.suffix)

end Tag

/-- A line at the start of a document that says how to read it. -/
inductive Directive where
  | version (major minor : Nat)
  | handle (name meaning : String)
  deriving DecidableEq, Repr

namespace Directive

/-- Reads a number of at most nine digits. -/
def scanNumber (p : Cursor) : Option (Nat × Cursor) :=
  let digits := p.run Char.isDigit
  if digits.isEmpty || 9 < digits.length then none
  else some (digits.foldl (fun n c => n * 10 + (c.toNat - '0'.toNat)) 0, p.skip digits.length)

/-- Reads a version. -/
def scanVersion (p : Cursor) : Option (Directive × Cursor) := do
  let (major, q) ← scanNumber (p.skipWhile isBlank)
  if q.rest.head? = some '.' then
    let (minor, q) ← scanNumber q.next
    return (.version major minor, q)
  else none

/-- Reads a handle and its meaning. -/
def scanMeaning (p : Cursor) : Option (Directive × Cursor) := do
  let (name, q) ← Tag.scanHandle (p.skipWhile isBlank)
  if name.length ≠ 1 && name.getLast? ≠ some '!' then none
  else if !q.rest.head?.any isBlank then none
  else
    let (meaning, q) ← Tag.someCharacters true (q.skipWhile isBlank)
    if atGap q.rest then return (.handle (String.ofList name) (String.ofList meaning), q) else none

/-- Reads a directive. -/
def scan (p : Cursor) : Option (Directive × Cursor) := do
  let name := p.next.run isWordCharacter
  let q := p.next.skip name.length
  if name.isEmpty || !atGap q.rest then none
  else
    let (d, q) ←
      if name = "YAML".toList then scanVersion q
      else if name = "TAG".toList then scanMeaning q
      else none
    return (d, ← q.finishLine?)

/-- The meanings of handles that directives set. Two directives on one handle, two versions and a
version other than 1.1 and 1.2 are refused. -/
def handles? (versioned : Bool) (set : List (String × String)) :
    List Directive → Option (List (String × String))
  | [] => some set
  | .version major minor :: rest =>
    if versioned || major ≠ 1 || (minor ≠ 1 && minor ≠ 2) then none else handles? true set rest
  | .handle name meaning :: rest =>
    if (set.lookup name).isSome then none else handles? versioned ((name, meaning) :: set) rest

end Directive

end Blueprint.Yaml
