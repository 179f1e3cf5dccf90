import Blueprint.Json.Numeral
import Blueprint.Json.Quoted
import Blueprint.Source.Node

/-!
# Reading JSON

A JSON text as a node. The text may break off anywhere; the node then ends in the faults that a
reader meets there. Numbers are converted and surrogates paired only by those who read them.

* `Text.ofChars`: the node of a text, and whether anything follows it.
-/

namespace Blueprint.Json

/-- A text as a node, and whether anything but blanks follows the value. -/
structure Text where
  root : Node
  trailing : Bool

namespace Text

/-- The blanks between tokens. -/
def isGap (c : Char) : Bool := c = ' ' || c = '\n' || c = '\t' || c = '\r'

/-- A text without the blanks at its start. -/
def skipGap (cs : List Char) : List Char := cs.dropWhile isGap

/-- A node, and what follows it if the text did not break off. -/
abbrev Partial := Node × Option (List Char)

/-- A node that stops every reader. -/
def stopped (f : Fault) : Node := .broken f (some f)

/-- The fault of a text with the wrong character, or with none. -/
def unexpected : List Char → Fault
  | [] => .incomplete
  | _ :: _ => .malformed

/-- Reads the rest of a word that stands for a value. -/
def word (value : Scalar) : List Char → List Char → Partial
  | [], cs => (.scalar value, some cs)
  | _ :: _, [] => (stopped .incomplete, none)
  | w :: ws, c :: cs => if w = c then word value ws cs else (stopped .malformed, none)

/-- Reads a numeral. -/
def numeral (cs : List Char) : Partial :=
  match Numeral.scan cs with
  | .ok (n, rest) => (.scalar (.ofNumber n.toNumber), some rest)
  | .error stop => (.broken stop.onRead (some stop.onSkip), none)

/-- Reads a string whose opening quote has been read. -/
def quoted (cs : List Char) : Partial :=
  let s := Quoted.scan cs
  match s.rest with
  | .ok rest => (.scalar (.ofString (s.text.map String.ofList)), some rest)
  | .error f =>
    match s.text with
    | .error g => (.broken g (some f), none)
    | .ok _ => (stopped f, none)

/-- Reads the key of an entry and the colon after it. -/
def key (cs : List Char) : Node × Except Fault (List Char) :=
  match cs with
  | [] => (stopped .incomplete, .error .incomplete)
  | c :: rest =>
    if c ≠ '"' then (stopped .malformed, .error .malformed)
    else match quoted rest with
      | (n, none) => (n, .error .malformed)
      | (n, some after) =>
        match skipGap after with
        | [] => (n, .error .incomplete)
        | d :: value => if d = ':' then (n, .ok value) else (n, .error .malformed)

/-- Items or entries, how they end, and what follows if the text did not break off. -/
structure Group (α : Type) where
  items : List α
  close : Close
  rest : Option (List Char)

/-- A further item in front. -/
def Group.cons {α : Type} (a : α) (g : Group α) : Group α := { g with items := a :: g.items }

/-- A group that ends properly. -/
def Group.done {α : Type} (rest : List Char) : Group α := ⟨[], {}, some rest⟩

/-- A group that ends in a fault after its last item. -/
def Group.fault {α : Type} (f : Fault) : Group α := ⟨[], { fault := some f }, none⟩

/-- A group whose last item breaks off. -/
def Group.last {α : Type} (a : α) : Group α := ⟨[a], {}, none⟩

mutual

/-- Reads a value. Every value takes a character, so the length of the text is fuel enough. -/
def value : Nat → List Char → Partial
  | 0, _ => (stopped .malformed, none)
  | fuel + 1, cs =>
    match skipGap cs with
    | [] => (stopped .incomplete, none)
    | c :: rest =>
      if c = '"' then quoted rest
      else if c = '[' then
        let g := firstItem fuel (skipGap rest)
        (.list g.items g.close, g.rest)
      else if c = '\x7b' then
        let g := firstEntry fuel (skipGap rest)
        (.record g.items g.close, g.rest)
      else if c = 'n' then word .null "ull".toList rest
      else if c = 't' then word (.ofBool true) "rue".toList rest
      else if c = 'f' then word (.ofBool false) "alse".toList rest
      else if c = '-' ∨ c.isDigit then numeral (c :: rest)
      else (stopped .malformed, none)

/-- Reads what follows an opening bracket. -/
def firstItem : Nat → List Char → Group Node
  | 0, _ => .fault .malformed
  | fuel + 1, cs =>
    match cs with
    | [] => .fault .incomplete
    | c :: rest => if c = ']' then .done rest else item fuel (c :: rest)

/-- Reads an item and what follows it. -/
def item : Nat → List Char → Group Node
  | 0, _ => .fault .malformed
  | fuel + 1, cs =>
    match value fuel cs with
    | (n, none) => .last n
    | (n, some rest) => (moreItems fuel (skipGap rest)).cons n

/-- Reads what follows an item. -/
def moreItems : Nat → List Char → Group Node
  | 0, _ => .fault .malformed
  | fuel + 1, cs =>
    match cs with
    | [] => .fault .incomplete
    | c :: rest =>
      if c = ']' then .done rest
      else if c = ',' then
        match skipGap rest with
        | [] => .last (stopped .incomplete)
        | d :: after =>
          if d = ']' then .last (stopped .malformed) else item fuel (d :: after)
      else .fault .malformed

/-- Reads what follows an opening brace. -/
def firstEntry : Nat → List Char → Group (Node × Node)
  | 0, _ => .fault .malformed
  | fuel + 1, cs =>
    match cs with
    | [] => .fault .incomplete
    | c :: rest => if c = '\x7d' then .done rest else entry fuel (c :: rest)

/-- Reads an entry and what follows it. -/
def entry : Nat → List Char → Group (Node × Node)
  | 0, _ => .fault .malformed
  | fuel + 1, cs =>
    match key cs with
    | (k, .error f) => .last (k, stopped f)
    | (k, .ok rest) =>
      match value fuel rest with
      | (n, none) => .last (k, n)
      | (n, some rest) => (moreEntries fuel (skipGap rest)).cons (k, n)

/-- Reads what follows an entry. -/
def moreEntries : Nat → List Char → Group (Node × Node)
  | 0, _ => .fault .malformed
  | fuel + 1, cs =>
    match cs with
    | [] => .fault .incomplete
    | c :: rest =>
      if c = '\x7d' then .done rest
      else if c = ',' then entry fuel (skipGap rest)
      else .fault .malformed

end

/-- The node of a text. -/
def ofChars (cs : List Char) : Text :=
  match value (3 * cs.length + 3) cs with
  | (n, none) => ⟨n, false⟩
  | (n, some rest) => ⟨n, !(skipGap rest).isEmpty⟩

end Text

end Blueprint.Json
