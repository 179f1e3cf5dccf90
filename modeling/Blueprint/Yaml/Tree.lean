import Blueprint.Yaml.Token

/-!
# Trees

The one document of a text, as a tree of scalars, lists and maps. Aliases are not yet followed.

* `Tree`: a document.
* `Tree.ofString?`: the document of a text.
-/

namespace Blueprint.Yaml

/-- The anchor and the tag before a node. -/
structure Marks where
  anchor : Option String := none
  tag : Option String := none
  deriving DecidableEq, Repr

/-- A document. -/
inductive Tree where
  | scalar (marks : Marks) (text : String) (style : Style)
  | list (marks : Marks) (items : List Tree)
  | map (marks : Marks) (entries : List (Tree × Tree))
  | alias (name : String)
  deriving Repr

namespace Tree

/-- What is not there: a plain scalar without text. -/
def empty : Tree := .scalar {} "" .plain

/-- Whether one of some tokens comes next. -/
def startsWith (ks : List Token) (ts : List Token) : Bool := ts.head?.any ks.contains

/-- Reads the anchor and the tag before a node, in either order. -/
def marks (handles : List (String × String)) : List Token → Option (Marks × List Token)
  | .anchor a :: .tag t :: ts => do return (⟨some a, ← t.resolve? handles⟩, ts)
  | .anchor a :: ts => some (⟨some a, none⟩, ts)
  | .tag t :: .anchor a :: ts => do return (⟨some a, ← t.resolve? handles⟩, ts)
  | .tag t :: ts => do return (⟨none, ← t.resolve? handles⟩, ts)
  | ts => some ({}, ts)

/-- The marks of a scalar. The tag that says nothing is left out. -/
def scalarMarks (m : Marks) : Marks := if m.tag = some "!" then { m with tag := none } else m

/-- Where a node stands, which decides how it may be written. -/
inductive Position where
  /-- Inside brackets or braces. -/
  | flow
  /-- In a block. -/
  | block
  /-- In a map that is a block: the items of a list may stand as far to the left as its key. -/
  | entry
  deriving DecidableEq, Repr

mutual

/-- Reads a node. Every token is passed in a few steps, so a multiple of their number is fuel
enough. -/
def node (hs : List (String × String)) : Nat → Position → List Token → Option (Tree × List Token)
  | 0, _, _ => none
  | fuel + 1, position, ts =>
    match ts with
    | .alias name :: rest => some (.alias name, rest)
    | _ => do
      let (m, ts) ← marks hs ts
      match ts with
      | .scalar text style :: rest => return (.scalar (scalarMarks m) text style, rest)
      | .flowList :: rest =>
        let (items, rest) ← flowItems hs fuel true rest
        return (.list m items, rest)
      | .flowMap :: rest =>
        let (entries, rest) ← flowEntries hs fuel true rest
        return (.map m entries, rest)
      | _ =>
        if position = .entry && startsWith [.item] ts then
          let (items, rest) ← looseItems hs fuel ts
          return (.list m items, rest)
        else if position ≠ .flow && startsWith [.blockList] ts then
          let (items, rest) ← blockItems hs fuel (ts.drop 1)
          return (.list m items, rest)
        else if position ≠ .flow && startsWith [.blockMap] ts then
          let (entries, rest) ← blockEntries hs fuel (ts.drop 1)
          return (.map m entries, rest)
        else if m.anchor.isSome || m.tag.isSome then return (.scalar m "" .plain, ts)
        else none

/-- Reads a node, or nothing before one of the tokens that end it. -/
def nodeUnless (hs : List (String × String)) :
    Nat → List Token → Position → List Token → Option (Tree × List Token)
  | 0, _, _, _ => none
  | fuel + 1, ends, position, ts =>
    if startsWith ends ts then some (empty, ts) else node hs fuel position ts

/-- Reads the items of a list that is a block of its own. -/
def blockItems (hs : List (String × String)) : Nat → List Token → Option (List Tree × List Token)
  | 0, _ => none
  | fuel + 1, ts =>
    match ts with
    | .item :: rest => do
      let (first, rest) ← nodeUnless hs fuel [.item, .blockEnd] .block rest
      let (others, rest) ← blockItems hs fuel rest
      return (first :: others, rest)
    | .blockEnd :: rest => some ([], rest)
    | _ => none

/-- Reads the items of a list that is no block of its own. -/
def looseItems (hs : List (String × String)) : Nat → List Token → Option (List Tree × List Token)
  | 0, _ => none
  | fuel + 1, ts =>
    match ts with
    | .item :: rest => do
      let (first, rest) ← nodeUnless hs fuel [.item, .key, .value, .blockEnd] .block rest
      let (others, rest) ← looseItems hs fuel rest
      return (first :: others, rest)
    | _ => some ([], ts)

/-- Reads the entries of a map that is a block. A key or a value may be missing. -/
def blockEntries (hs : List (String × String)) :
    Nat → List Token → Option (List (Tree × Tree) × List Token)
  | 0, _ => none
  | fuel + 1, ts =>
    match ts with
    | .blockEnd :: rest => some ([], rest)
    | .key :: rest => do
      let (k, rest) ← nodeUnless hs fuel [.key, .value, .blockEnd] .entry rest
      let (v, rest) ← blockValue hs fuel rest
      let (others, rest) ← blockEntries hs fuel rest
      return ((k, v) :: others, rest)
    | _ => none

/-- Reads the value of an entry in a block. -/
def blockValue (hs : List (String × String)) : Nat → List Token → Option (Tree × List Token)
  | 0, _ => none
  | fuel + 1, ts =>
    match ts with
    | .value :: rest => nodeUnless hs fuel [.key, .value, .blockEnd] .entry rest
    | _ => some (empty, ts)

/-- Reads the items of a list in brackets. A key with its value is an item of its own. -/
def flowItems (hs : List (String × String)) :
    Nat → Bool → List Token → Option (List Tree × List Token)
  | 0, _, _ => none
  | fuel + 1, first, ts =>
    if startsWith [.flowListEnd] ts then some ([], ts.drop 1)
    else if !first && !startsWith [.comma] ts then none
    else
      let ts := if first then ts else ts.drop 1
      match ts with
      | .flowListEnd :: rest => some ([], rest)
      | .key :: rest => do
        let (entry, rest) ← flowPair hs fuel rest
        let (others, rest) ← flowItems hs fuel false rest
        return (.map {} [entry] :: others, rest)
      | _ => do
        let (n, rest) ← node hs fuel .flow ts
        let (others, rest) ← flowItems hs fuel false rest
        return (n :: others, rest)

/-- Reads a key with its value in a list in brackets. The token after a missing key is passed
over. -/
def flowPair (hs : List (String × String)) : Nat → List Token → Option ((Tree × Tree) × List Token)
  | 0, _ => none
  | fuel + 1, ts => do
    let (k, ts) ←
      if startsWith [.value, .comma, .flowListEnd] ts then some (empty, ts.drop 1)
      else node hs fuel .flow ts
    let (v, ts) ← flowValue hs fuel [.comma, .flowListEnd] ts
    return ((k, v), ts)

/-- Reads the value of an entry in brackets or braces. -/
def flowValue (hs : List (String × String)) :
    Nat → List Token → List Token → Option (Tree × List Token)
  | 0, _, _ => none
  | fuel + 1, ends, ts =>
    match ts with
    | .value :: rest => nodeUnless hs fuel ends .flow rest
    | _ => some (empty, ts)

/-- Reads the entries of a map in braces. A node without a mark of a key is a key without value. -/
def flowEntries (hs : List (String × String)) :
    Nat → Bool → List Token → Option (List (Tree × Tree) × List Token)
  | 0, _, _ => none
  | fuel + 1, first, ts =>
    if startsWith [.flowMapEnd] ts then some ([], ts.drop 1)
    else if !first && !startsWith [.comma] ts then none
    else
      let ts := if first then ts else ts.drop 1
      match ts with
      | .flowMapEnd :: rest => some ([], rest)
      | .key :: rest => do
        let (k, rest) ← nodeUnless hs fuel [.value, .comma, .flowMapEnd] .flow rest
        let (v, rest) ← flowValue hs fuel [.comma, .flowMapEnd] rest
        let (others, rest) ← flowEntries hs fuel false rest
        return ((k, v) :: others, rest)
      | _ => do
        let (k, rest) ← node hs fuel .flow ts
        let (others, rest) ← flowEntries hs fuel false rest
        return ((k, empty) :: others, rest)

end

/-- The directives at the start of a document, and the tokens after them. -/
def directives : List Token → List Directive × List Token
  | .directive d :: ts =>
    let (ds, rest) := directives ts
    (d :: ds, rest)
  | ts => ([], ts)

/-- Reads a document and the mark of its end, if there is one. A document after directives starts
with a mark. -/
def document (ts : List Token) : Option (Tree × List Token) := do
  let fuel := 4 * ts.length + 4
  let (ds, rest) := directives ts
  let hs ← Directive.handles? false [] ds
  let (t, rest) ←
    match rest with
    | [] => if ds.isEmpty then some (empty, []) else none
    | .documentStart :: rest =>
      match rest with
      | [] | .directive _ :: _ | .documentStart :: _ | .documentEnd :: _ => some (empty, rest)
      | _ => node hs fuel .block rest
    | _ => if ds.isEmpty then node hs fuel .block rest else none
  return (t, rest.dropWhile (· = .documentEnd))

/-- The document of a text, which must hold no other. -/
def ofTokens? (ts : List Token) : Option Tree := do
  let (t, rest) ← document ts
  if rest.isEmpty then some t else none

/-- The document of a text. -/
def ofString? (s : String) : Option Tree := do ofTokens? (← Tokens.ofString? s)

end Tree

end Blueprint.Yaml
