import Blueprint.Unicode.CaseFolding
import Blueprint.Unicode.Property

/-!
# Patterns

Regular expressions over characters. A pattern matches a text when some part of the text, which
may be empty, belongs to it; assertions look at the characters on both sides of a position.

* `CharSet`: a set of characters.
* `Node`: a regular expression.
* `Node.run`: the positions that an expression reaches from a position.
* `Node.weight`: the size of the automaton of an expression.
* `isMatch`: whether a text has a part that belongs to an expression.
-/

namespace Blueprint.Pattern

open Unicode

/-! ## Sets of characters -/

/-- A set of characters, and the bytes that an automaton takes to test for it. -/
structure CharSet where
  member : Char → Bool
  weight : Nat

namespace CharSet

/-- The bytes of a state of an automaton. -/
def stateWeight : Nat := 32

/-- The bytes of a range of characters beyond ASCII, spelled in several units. -/
def rangeWeight : Nat := 72

/-- The set without members. -/
def empty : CharSet := ⟨fun _ => false, stateWeight⟩

/-- A single character. -/
def single (c : Char) : CharSet := ⟨fun d => d = c, stateWeight * c.utf8Size⟩

/-- The characters from `a` to `b`. -/
def range (a b : Char) : CharSet :=
  ⟨fun d => a ≤ d && d ≤ b, if b.toNat < 128 then stateWeight + 8 else rangeWeight * 2⟩

/-- The characters in ascending ranges of code points. -/
def ofRanges (rs : List (Nat × Nat)) : CharSet :=
  ⟨fun d => inRanges rs d.toNat, stateWeight + rangeWeight * rs.length⟩

def union (a b : CharSet) : CharSet := ⟨fun c => a.member c || b.member c, a.weight + b.weight⟩

def inter (a b : CharSet) : CharSet := ⟨fun c => a.member c && b.member c, max a.weight b.weight⟩

def diff (a b : CharSet) : CharSet := ⟨fun c => a.member c && !b.member c, a.weight + b.weight⟩

def symmDiff (a b : CharSet) : CharSet := ⟨fun c => a.member c != b.member c, a.weight + b.weight⟩

def compl (a : CharSet) : CharSet := ⟨fun c => !a.member c, a.weight + 7 * rangeWeight⟩

/-- The characters that equal a member when case is ignored. -/
def fold (a : CharSet) : CharSet :=
  ⟨fun c => a.member c || (caseVariants c).any a.member, 2 * a.weight⟩

end CharSet

/-! ## Assertions -/

/-- The assertions about words. -/
inductive Edge where
  | boundary | inside | start | stop | startHalf | stopHalf
  deriving DecidableEq, Repr

/-- The assertions about a position. -/
inductive Look where
  | textStart
  | textEnd
  /-- Next to the text's end or a line feed; `crlf` counts carriage returns too. -/
  | lineStart (crlf : Bool)
  | lineEnd (crlf : Bool)
  | edge (e : Edge) (ascii : Bool)
  deriving DecidableEq, Repr

/-- An ASCII letter, digit or underscore. -/
def isAsciiWord (c : Char) : Bool := c.isAlphanum || c = '_'

/-- A place in a text: the character before it and the text after it. -/
structure Position where
  before : Option Char
  after : List Char
  deriving DecidableEq, Repr

/-- Whether an assertion holds of words on the left and on the right. -/
def Edge.holds (left right : Bool) : Edge → Bool
  | boundary => left != right
  | inside => left == right
  | start => !left && right
  | stop => left && !right
  | startHalf => !left
  | stopHalf => !right

/-- Whether an assertion holds at a position. -/
def Look.holds (p : Position) : Look → Bool
  | textStart => p.before.isNone
  | textEnd => p.after.isEmpty
  | lineStart false => p.before.isNone || p.before = some '\n'
  | lineStart true =>
    p.before.isNone || p.before = some '\n' ||
      (p.before = some '\r' && p.after.head? != some '\n')
  | lineEnd false => p.after.isEmpty || p.after.head? = some '\n'
  | lineEnd true =>
    p.after.isEmpty || p.after.head? = some '\r' ||
      (p.after.head? = some '\n' && p.before != some '\r')
  | edge e ascii =>
    let word := if ascii then isAsciiWord else isWord
    e.holds (p.before.any word) (p.after.head?.any word)

/-! ## Expressions -/

/-- A regular expression. -/
inductive Node where
  | empty
  | set (s : CharSet)
  | look (l : Look)
  | group (n : Node)
  | seq (a b : Node)
  | alt (a b : Node)
  | repeated (n : Node) (min : Nat) (max : Option Nat)

/-- The positions of both lists, each once. -/
def merge (ps : List Position) : List Position → List Position
  | [] => ps
  | q :: rest =>
    if ps.any (·.after.length = q.after.length) then merge ps rest else merge (ps ++ [q]) rest

/-- The positions one step away, each once. -/
def advance (step : Position → List Position) (ps : List Position) : List Position :=
  merge [] (ps.flatMap step)

/-- The positions `n` steps away. Steps never lead back, so that the positions reached either run
out or stay the same after as many steps as the text is long. -/
def iterate (step : Position → List Position) : Nat → List Position → List Position
  | 0, ps => ps
  | n + 1, ps =>
    let qs := advance step ps
    if qs.isEmpty then []
    else if (merge ps qs).length = ps.length ∧ qs.length = ps.length then qs
    else iterate step n qs

/-- The positions at most `n` steps away from `frontier`, added to those seen. -/
def closure (step : Position → List Position) :
    Nat → List Position → List Position → List Position
  | 0, seen, _ => seen
  | n + 1, seen, frontier =>
    let all := merge seen (frontier.flatMap step)
    if all.length = seen.length then seen
    else closure step n all (all.drop seen.length)

/-- The positions that an expression reaches from a position of the same text. -/
def Node.run : Node → Position → List Position
  | .empty, p => [p]
  | .set s, p =>
    match p.after with
    | [] => []
    | c :: rest => if s.member c then [⟨some c, rest⟩] else []
  | .look l, p => if l.holds p then [p] else []
  | .group n, p => n.run p
  | .seq a b, p => advance b.run (a.run p)
  | .alt a b, p => merge (a.run p) (b.run p)
  | .repeated n least most, p =>
    let start := iterate n.run least [p]
    let bound := p.after.length + 1
    closure n.run (match most with
      | none => bound
      | some m => min (m - least) bound) start start

/-- The bytes of an expression's automaton. -/
def Node.weight : Node → Nat
  | .empty => CharSet.stateWeight
  | .set s => s.weight
  | .look _ => CharSet.stateWeight
  | .group n => n.weight + 2 * CharSet.stateWeight
  | .seq a b => a.weight + b.weight
  | .alt a b => a.weight + b.weight + 8
  | .repeated n least none => max 1 least * n.weight + 2 * CharSet.stateWeight
  | .repeated n least (some most) =>
    least * n.weight + (most - least) * (n.weight + CharSet.stateWeight + 8)
      + CharSet.stateWeight

/-- The positions of a text, from its start on. -/
def positionsFrom (before : Option Char) : List Char → List Position
  | [] => [⟨before, []⟩]
  | c :: rest => ⟨before, c :: rest⟩ :: positionsFrom (some c) rest

/-- Whether a text has a part that belongs to an expression. -/
def isMatch (n : Node) (s : String) : Bool :=
  (positionsFrom none s.toList).any fun p => !(n.run p).isEmpty

end Blueprint.Pattern
