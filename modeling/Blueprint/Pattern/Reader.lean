import Blueprint.Pattern.Class

/-!
# Reading patterns

The notation of patterns: literals and escapes, classes with set operations, groups with flags,
alternatives and repetitions. There are no references to earlier groups and no assertions on what
follows or precedes. Expressions may nest 250 deep, and their automaton may take ten mebibytes.

* `compile?`: the expression of a pattern; a pattern that breaks the rules has none.
* `test?`: the test of a text that a pattern stands for.
-/

namespace Blueprint.Pattern

open Unicode

/-- What the flags in force ask for. -/
structure Flags where
  ignoreCase : Bool := false
  multiLine : Bool := false
  dotAll : Bool := false
  unicode : Bool := true
  crlf : Bool := false
  /-- Blanks and comments are no part of the pattern. -/
  verbose : Bool := false
  deriving DecidableEq, Repr

/-- The text of a pattern that is left, the flags in force and the names of groups so far. -/
structure Cursor where
  rest : List Char
  flags : Flags := {}
  names : List (List Char) := []

/-- A part of an expression and how deeply it nests. -/
structure Part (α : Type) where
  value : α
  depth : Nat

/-! ## Blanks and numbers -/

/-- A text without blanks and comments at its start. -/
def skipVerbose (inComment : Bool) : List Char → List Char
  | [] => []
  | c :: rest =>
    if inComment then skipVerbose (c != '\n') rest
    else if isWhiteSpace c then skipVerbose false rest
    else if c = '#' then skipVerbose true rest
    else c :: rest

/-- A text without what the flags say is no part of the pattern. -/
def skipIgnored (fl : Flags) (cs : List Char) : List Char :=
  if fl.verbose then skipVerbose false cs else cs

/-- The decimal digits at the start of a text, which ignored characters may separate. -/
def takeDigits (fl : Flags) : Nat → List Char → List Char × List Char
  | 0, cs => ([], cs)
  | fuel + 1, c :: rest =>
    if c.isDigit then
      let (ds, after) := takeDigits fl fuel (skipIgnored fl rest)
      (c :: ds, after)
    else ([], c :: rest)
  | _ + 1, [] => ([], [])

/-- A decimal number of 32 bits, between blanks. -/
def decimal? (fl : Flags) (cs : List Char) : Option (Nat × List Char) :=
  let start := cs.dropWhile isWhiteSpace
  let (ds, after) := takeDigits fl start.length start
  let n := ds.foldl (fun n d => n * 10 + (d.toNat - '0'.toNat)) 0
  if ds.isEmpty || 0x100000000 ≤ n then none
  else some (n, skipIgnored fl (after.dropWhile isWhiteSpace))

/-- The value of a hexadecimal digit. -/
def hexDigit? (c : Char) : Option Nat :=
  if c.isDigit then some (c.toNat - '0'.toNat)
  else if 'a' ≤ c && c ≤ 'f' then some (c.toNat - 'a'.toNat + 10)
  else if 'A' ≤ c && c ≤ 'F' then some (c.toNat - 'A'.toNat + 10)
  else none

/-- The character of a code point. -/
def charOf? (n : Nat) : Option Char := if n.isValidChar then some (Char.ofNat n) else none

/-- Exactly `n` hexadecimal digits. -/
def hexDigits? (fl : Flags) : Nat → Nat → List Char → Option (Nat × List Char)
  | 0, acc, cs => some (acc, cs)
  | n + 1, acc, c :: rest => do
    hexDigits? fl n (acc * 16 + (← hexDigit? c)) (skipIgnored fl rest)
  | _ + 1, _, [] => none

/-- Hexadecimal digits up to a closing brace, one at least. -/
def hexBraced? (fl : Flags) : Nat → Option Nat → List Char → Option (Nat × List Char)
  | 0, _, _ => none
  | fuel + 1, acc, c :: rest =>
    if c = '\x7d' then acc.map (·, skipIgnored fl rest)
    else do
      let d ← hexDigit? c
      hexBraced? fl fuel (some (min (acc.getD 0 * 16 + d) 0x110000)) (skipIgnored fl rest)
  | _ + 1, _, [] => none

/-! ## Escapes -/

/-- What stands at one place of a pattern. -/
inductive Prim where
  /-- A character; `byte` marks one given by two hexadecimal digits. -/
  | literal (c : Char) (byte : Bool)
  | set (s : CharSet)
  | look (l : Look)

/-- Characters with a meaning of their own. -/
def isMeta (c : Char) : Bool := "\\.+*?()|[]\x7b\x7d^$#&-~".toList.contains c

/-- Characters that a backslash may precede without need. -/
def isEscapable (c : Char) : Bool :=
  isMeta c || (c.toNat < 128 && !c.isAlphanum && c != '<' && c != '>')

/-- The set or its complement. Without Unicode a complement would hold parts of characters. -/
def negate? (fl : Flags) (negated : Bool) (s : CharSet) : Option CharSet :=
  if !negated then some s else if fl.unicode then some s.compl else none

/-- The set as it is under the flags. -/
def folded (fl : Flags) (s : CharSet) : CharSet :=
  if !fl.ignoreCase then s
  else if fl.unicode then s.fold
  else ⟨fun c => s.member c || s.member c.toLower || s.member c.toUpper, 2 * s.weight⟩

/-- Up to the first character that satisfies `p`: what precedes it and what follows it. -/
def breakAt? (p : Char → Bool) : List Char → Option (List Char × List Char)
  | [] => none
  | c :: rest => if p c then some ([], rest) else (breakAt? p rest).map fun (a, b) => (c :: a, b)

/-- The set of a property between braces, and whether it is meant negated. -/
def bracedProperty? (body : List Char) : Option (CharSet × Bool) :=
  let unequal := (List.range body.length).find? fun i =>
    body[i]? = some '!' && body[i + 1]? = some '='
  match unequal with
  | some i => do return (← propertyValue? (body.take i) (body.drop (i + 2)), true)
  | none =>
    match (breakAt? (· = ':') body).or (breakAt? (· = '=') body) with
    | some (name, value) => do return (← propertyValue? name value, false)
    | none => do return (← property? body, false)

/-- A Unicode property after `\p` or `\P`. -/
def unicodeProperty? (fl : Flags) (negated : Bool) (cs : List Char) :
    Option (Prim × List Char) := do
  if !fl.unicode then none
  match cs with
  | [] => none
  | c :: rest =>
    if c = '\x7b' then
      let (body, after) ← breakAt? (· = '\x7d') rest
      let body := if fl.verbose then body.filter (fun c => !isWhiteSpace c) else body
      let (s, unequal) ← bracedProperty? body
      return (.set (← negate? fl (negated != unequal) (folded fl s)), after)
    else if c = '\\' then none
    else
      let s ← property? [c]
      return (.set (← negate? fl negated (folded fl s)), skipIgnored fl rest)

/-- A class of one letter. -/
def letterClass? (fl : Flags) (c : Char) : Option CharSet :=
  let ascii := !fl.unicode
  if c = 'd' then some (digits ascii)
  else if c = 's' then some (blanks ascii)
  else if c = 'w' then some (wordChars ascii)
  else if c = 'D' then negate? fl true (digits ascii)
  else if c = 'S' then negate? fl true (blanks ascii)
  else if c = 'W' then negate? fl true (wordChars ascii)
  else none

/-- The assertions about words under their names. -/
def namedEdge? (name : List Char) : Option Edge :=
  [("start", Edge.start), ("end", .stop), ("start-half", .startHalf), ("end-half", .stopHalf)].lookup
    (String.ofList name)

/-- Letters and hyphens at the start of a text, which ignored characters may separate. -/
def takeEdgeName (fl : Flags) : Nat → List Char → List Char × List Char
  | 0, cs => ([], cs)
  | fuel + 1, c :: rest =>
    if c.isAlpha || c = '-' then
      let (ds, after) := takeEdgeName fl fuel (skipIgnored fl rest)
      (c :: ds, after)
    else ([], c :: rest)
  | _ + 1, [] => ([], [])

/-- The assertion of `\b`, which a name in braces may follow. Braces that hold no name are left. -/
def wordEdge? (fl : Flags) (cs : List Char) : Option (Prim × List Char) :=
  let plain := some (Prim.look (.edge .boundary (!fl.unicode)), cs)
  match cs with
  | [] => plain
  | b :: rest =>
    if b ≠ '\x7b' then plain
    else
      let inner := skipIgnored fl rest
      match inner with
      | [] => none
      | c :: _ =>
        if !(c.isAlpha || c = '-') then plain
        else
          match takeEdgeName fl inner.length inner with
          | (name, d :: after) =>
            if d = '\x7d' then
              (namedEdge? name).map fun e => (.look (.edge e (!fl.unicode)), after)
            else none
          | (_, []) => none

/-- A hexadecimal escape after its letter, with `n` digits unless it has braces. -/
def hexEscape? (fl : Flags) (n : Nat) (cs : List Char) : Option (Prim × List Char) := do
  match skipIgnored fl cs with
  | [] => none
  | c :: rest =>
    if c = '\x7b' then
      let (v, after) ← hexBraced? fl (rest.length + 1) none (skipIgnored fl rest)
      return (.literal (← charOf? v) false, after)
    else
      let (v, after) ← hexDigits? fl n 0 (c :: rest)
      return (.literal (← charOf? v) (n = 2), after)

/-- What an escape stands for, after its backslash. -/
def escape? (fl : Flags) : List Char → Option (Prim × List Char)
  | [] => none
  | c :: rest =>
    if c.isDigit then none
    else if c = 'x' then hexEscape? fl 2 rest
    else if c = 'u' then hexEscape? fl 4 rest
    else if c = 'U' then hexEscape? fl 8 rest
    else if c = 'p' || c = 'P' then unicodeProperty? fl (c = 'P') (skipIgnored fl rest)
    else if "dswDSW".toList.contains c then (letterClass? fl c).map fun s => (.set s, rest)
    else if isEscapable c then some (.literal c false, rest)
    else if c = 'a' then some (.literal '\x07' false, rest)
    else if c = 'f' then some (.literal '\x0c' false, rest)
    else if c = 't' then some (.literal '\t' false, rest)
    else if c = 'n' then some (.literal '\n' false, rest)
    else if c = 'r' then some (.literal '\r' false, rest)
    else if c = 'v' then some (.literal '\x0b' false, rest)
    else if c = 'A' then some (.look .textStart, rest)
    else if c = 'z' then some (.look .textEnd, rest)
    else if c = 'b' then wordEdge? fl rest
    else if c = 'B' then some (.look (.edge .inside (!fl.unicode)), rest)
    else if c = '<' then some (.look (.edge .start (!fl.unicode)), rest)
    else if c = '>' then some (.look (.edge .stop (!fl.unicode)), rest)
    else none

/-! ## Classes in brackets -/

/-- A character of a class, an escape included. -/
def classItem? (fl : Flags) : List Char → Option (Prim × List Char)
  | [] => none
  | c :: rest => if c = '\\' then escape? fl rest else some (.literal c false, rest)

/-- The character that a bound of a range stands for. -/
def bound? (fl : Flags) : Prim → Option Char
  | .literal c _ => if fl.unicode || c.toNat < 128 then some c else none
  | _ => none

/-- The set that a single item of a class stands for. -/
def itemSet? (fl : Flags) (p : Prim) : Option CharSet :=
  match p with
  | .set s => some s
  | .literal _ _ => (bound? fl p).map .single
  | .look _ => none

/-- An item or a range of a class. -/
def classRange? (fl : Flags) (cs : List Char) : Option (CharSet × List Char) := do
  let (first, after) ← classItem? fl cs
  let after := skipIgnored fl after
  match after with
  | [] => none
  | c :: rest =>
    let next := (skipIgnored fl rest).head?
    if c ≠ '-' ∨ next = some ']' ∨ next = some '-' then return (← itemSet? fl first, after)
    else
      let (last, after) ← classItem? fl (skipIgnored fl rest)
      let a ← bound? fl first
      let b ← bound? fl last
      if a ≤ b then return (.range a b, after) else none

/-- A class in brackets and colons, after its bracket. -/
def colonClass? (cs : List Char) : Option (CharSet × Bool × List Char) := do
  match cs with
  | ':' :: rest =>
    let (negated, rest) := match rest with
      | '^' :: more => (true, more)
      | _ => (false, rest)
    let (name, after) ← breakAt? (· = ':') rest
    match after with
    | ']' :: after => return (← asciiClass? (String.ofList name), negated, after)
    | _ => none
  | _ => none

/-- The operations on sets. -/
inductive SetOp where
  | inter | diff | symmDiff
  deriving DecidableEq, Repr

/-- The operation of a doubled character. -/
def setOp? : List Char → Option (SetOp × List Char)
  | '&' :: '&' :: rest => some (.inter, rest)
  | '-' :: '-' :: rest => some (.diff, rest)
  | '~' :: '~' :: rest => some (.symmDiff, rest)
  | _ => none

/-- Two sets joined by an operation. -/
def SetOp.apply (a b : CharSet) : SetOp → CharSet
  | inter => a.inter b
  | diff => a.diff b
  | symmDiff => a.symmDiff b

/-- The items of a class read so far: their union, their number and how deeply they nest. -/
structure Items where
  set : CharSet := .empty
  count : Nat := 0
  depth : Nat := 0

/-- A further item. -/
def Items.add (u : Items) (s : CharSet) (depth : Nat := 0) : Items :=
  ⟨if u.count = 0 then s else u.set.union s, u.count + 1, max u.depth depth⟩

/-- The items as one set. -/
def Items.part (u : Items) : Part CharSet :=
  ⟨u.set, if u.count ≤ 1 then u.depth else u.depth + 1⟩

/-- The set left of an operation joined with the items right of it. -/
def joinLeft (fl : Flags) (left : Option (SetOp × Part CharSet)) (u : Items) : Part CharSet :=
  match left with
  | none => u.part
  | some (op, l) =>
    let r := u.part
    ⟨op.apply (folded fl l.value) (folded fl r.value), max l.depth r.depth + 1⟩

/-- The hyphens at the start of a class, and what follows them. -/
def leadingHyphens (fl : Flags) : Nat → Items → List Char → Items × List Char
  | 0, u, cs => (u, cs)
  | fuel + 1, u, c :: rest =>
    if c = '-' then leadingHyphens fl fuel (u.add (.single '-')) (skipIgnored fl rest)
    else (u, c :: rest)
  | _ + 1, u, [] => (u, [])

/-- What opens a class: whether it is negated, and the items that need no escape there. -/
def classOpening (fl : Flags) (cs : List Char) : Bool × Items × List Char :=
  let (negated, cs) := match skipIgnored fl cs with
    | '^' :: rest => (true, skipIgnored fl rest)
    | cs => (false, cs)
  let (u, cs) := leadingHyphens fl cs.length {} cs
  match u.count, cs with
  | 0, ']' :: rest => (negated, u.add (.single ']'), skipIgnored fl rest)
  | _, _ => (negated, u, cs)

/-- Reads a class after its items so far, up to its closing bracket. -/
def classRest? (fl : Flags) : Nat → Bool → Option (SetOp × Part CharSet) → Items → List Char →
    Option (Part CharSet × List Char)
  | 0, _, _, _, _ => none
  | fuel + 1, negated, left, u, cs =>
    match skipIgnored fl cs with
    | [] => none
    | c :: rest =>
      if c = '[' then
        match colonClass? rest with
        | some (s, inverse, after) => do
          let s ← negate? fl inverse (folded fl s)
          classRest? fl fuel negated left (u.add s) after
        | none => do
          let (n, start, after) := classOpening fl rest
          let (inner, after) ← classRest? fl fuel n none start after
          classRest? fl fuel negated left (u.add inner.value inner.depth) after
      else if c = ']' then do
        let whole := joinLeft fl left u
        return (⟨← negate? fl negated (folded fl whole.value), whole.depth + 1⟩, rest)
      else
        match setOp? (c :: rest) with
        | some (op, after) =>
          classRest? fl fuel negated (some (op, joinLeft fl left u)) {} after
        | none => do
          let (s, after) ← classRange? fl (c :: rest)
          classRest? fl fuel negated left (u.add s) after

/-- Reads a class after its opening bracket. -/
def class? (fl : Flags) (cs : List Char) : Option (Part CharSet × List Char) :=
  let (negated, u, after) := classOpening fl cs
  classRest? fl (cs.length + 1) negated none u after

/-! ## Groups -/

/-- The flags of a letter. -/
def Flags.set? (fl : Flags) (c : Char) (on : Bool) : Option Flags :=
  if c = 'i' then some { fl with ignoreCase := on }
  else if c = 'm' then some { fl with multiLine := on }
  else if c = 's' then some { fl with dotAll := on }
  else if c = 'U' then some fl
  else if c = 'u' then some { fl with unicode := on }
  else if c = 'R' then some { fl with crlf := on }
  else if c = 'x' then some { fl with verbose := on }
  else none

/-- Reads flags up to a colon or a closing parenthesis, which is returned with what follows it.
Each letter may occur once, and one must follow a hyphen. -/
def flags? (fl : Flags) (seen : List Char) :
    List Char → Option (Flags × List Char × Char × List Char)
  | [] => none
  | c :: rest =>
    if c = ':' ∨ c = ')' then
      if seen.head? = some '-' then none else some (fl, seen, c, rest)
    else if seen.contains c then none
    else if c = '-' then flags? fl ('-' :: seen) rest
    else do flags? (← fl.set? c (!seen.contains '-')) (c :: seen) rest

/-- Whether a character may stand in the name of a group. -/
def isNameChar (first : Bool) (c : Char) : Bool :=
  c = '_' || if first then isAlphabetic c
    else isAlphanumeric c || c = '.' || c = '[' || c = ']'

/-- A name up to its angle bracket. -/
def groupName? (cs : List Char) : Option (List Char × List Char) := do
  let (name, after) ← breakAt? (· = '>') cs
  match name with
  | [] => none
  | c :: more =>
    if isNameChar true c && more.all (isNameChar false) then some (name, after) else none

/-- What an opening parenthesis starts. -/
inductive Opening where
  /-- Flags for the rest of the group around it. -/
  | flags (fl : Flags)
  | group (captures : Bool) (inner : Cursor)

/-- Reads what follows an opening parenthesis. -/
def opening? (c : Cursor) : Option (Opening × Cursor) :=
  let cs := skipIgnored c.flags c.rest
  let named := fun (after : List Char) => do
    let (name, after) ← groupName? after
    if c.names.contains name then none
    let inner := { c with rest := after, names := name :: c.names }
    some (Opening.group true inner, inner)
  match cs with
  | '?' :: '=' :: _ | '?' :: '!' :: _ => none
  | '?' :: '<' :: '=' :: _ | '?' :: '<' :: '!' :: _ => none
  | '?' :: 'P' :: '<' :: after => named after
  | '?' :: '<' :: after => named after
  | '?' :: after => do
    let (fl, seen, close, rest) ← flags? c.flags [] after
    if close = ')' then
      if seen.isEmpty then none
      else
        let next := { c with rest, flags := fl }
        some (.flags fl, next)
    else
      let inner := { c with rest, flags := fl }
      some (.group false inner, inner)
  | _ =>
    let inner := { c with rest := cs }
    some (.group true inner, inner)

/-! ## Expressions -/

/-- How deeply expressions may nest. -/
def depthLimit : Nat := 250

/-- An expression for a place of a pattern. -/
def primNode? (fl : Flags) : Prim → Option Node
  | .look l => some (.look l)
  | .set s => some (.set s)
  | .literal c byte =>
    if !fl.unicode && byte && 128 ≤ c.toNat then none
    else if fl.ignoreCase && (fl.unicode || c.toNat < 128) then
      if fl.unicode && (caseVariants c).isEmpty then some (.set (.single c))
      else some (.set (folded fl (.single c)))
    else some (.set (.single c))

/-- The expression of a point. -/
def dot? (fl : Flags) : Option Node :=
  if !fl.unicode then none
  else
    let w := 7 * CharSet.rangeWeight
    some (.set (if fl.dotAll then ⟨fun _ => true, w⟩
      else if fl.crlf then ⟨fun c => c != '\n' && c != '\r', w⟩
      else ⟨(· != '\n'), w⟩))

/-- The bounds of a repetition in braces, after the opening one. -/
def bounds? (fl : Flags) (cs : List Char) : Option (Nat × Option Nat × List Char) := do
  let cs := skipIgnored fl cs
  let (least, after) ← decimal? fl cs
  match after with
  | ',' :: rest =>
    match skipIgnored fl rest with
    | '\x7d' :: rest => return (least, none, rest)
    | rest =>
      let (most, after) ← decimal? fl rest
      match after with
      | '\x7d' :: rest => if least ≤ most then return (least, some most, rest) else none
      | _ => none
  | '\x7d' :: rest => return (least, some least, rest)
  | _ => none

/-- A text without the question mark that makes a repetition lazy. -/
def dropLazy : List Char → List Char
  | '?' :: rest => rest
  | cs => cs

/-- Reads a repetition operator, if one follows: its bounds and what follows it. -/
def repetition? (fl : Flags) : List Char → Option (Option (Nat × Option Nat × List Char))
  | [] => some none
  | c :: rest =>
    if c = '?' then some (some (0, some 1, dropLazy rest))
    else if c = '*' then some (some (0, none, dropLazy rest))
    else if c = '+' then some (some (1, none, dropLazy rest))
    else if c = '\x7b' then do
      let (least, most, after) ← bounds? fl rest
      return some (least, most, dropLazy (skipIgnored fl after))
    else some none

/-- An item of a sequence; nothing stands for flags, which cannot be repeated. -/
abbrev Item := Option (Part Node)

/-- The expression of a sequence, whose items are given last first. -/
def sequence (items : List Item) : Part Node :=
  let nodes := items.reverse.filterMap id
  let depth := nodes.foldl (fun d p => max d p.depth) 0
  ⟨match nodes.map (·.value) with
    | [] => .empty
    | n :: rest => rest.foldl .seq n,
   if items.length ≤ 1 then depth else depth + 1⟩

/-- The expression of alternatives, given last first. -/
def alternatives (branches : List (Part Node)) : Part Node :=
  let depth := branches.foldl (fun d p => max d p.depth) 0
  match branches.reverse with
  | [] => ⟨.empty, 0⟩
  | [b] => b
  | b :: rest => ⟨(rest.map (·.value)).foldl .alt b.value, depth + 1⟩

/-- Reads alternatives up to a closing parenthesis or the end of the pattern. `items` are those of
the current alternative and `branches` the alternatives before it, last first. -/
def expression? : Nat → Cursor → List Item → List (Part Node) → Option (Part Node × Cursor)
  | 0, _, _, _ => none
  | fuel + 1, c, items, branches =>
    let fl := c.flags
    let whole := fun (_ : Unit) => alternatives (sequence items :: branches)
    let push := fun (p : Part Node) (c : Cursor) =>
      if depthLimit < p.depth then none else expression? fuel c (some p :: items) branches
    match skipIgnored fl c.rest with
    | [] => some (whole (), { c with rest := [] })
    | d :: rest =>
      if d = ')' then some (whole (), { c with rest := d :: rest })
      else if d = '|' then
        expression? fuel { c with rest } [] (sequence items :: branches)
      else if d = '(' then do
        match ← opening? { c with rest } with
        | (.flags _, next) => expression? fuel next (none :: items) branches
        | (.group captures inner, _) =>
          let (body, after) ← expression? fuel inner [] []
          match after.rest with
          | ')' :: rest =>
            push ⟨if captures then .group body.value else body.value, body.depth + 1⟩
              { after with rest, flags := fl }
          | _ => none
      else if d = '[' then do
        let (s, rest) ← class? fl rest
        push ⟨.set s.value, s.depth⟩ { c with rest }
      else if d = '?' ∨ d = '*' ∨ d = '+' ∨ d = '\x7b' then do
        match items, ← repetition? fl (d :: rest) with
        | some p :: before, some (least, most, rest) =>
          let repeated : Part Node := ⟨.repeated p.value least most, p.depth + 1⟩
          if depthLimit < repeated.depth then failure
          expression? fuel { c with rest } (some repeated :: before) branches
        | _, _ => none
      else if d = '\\' then do
        let (p, rest) ← escape? fl rest
        push ⟨← primNode? fl p, 0⟩ { c with rest }
      else if d = '.' then do push ⟨← dot? fl, 0⟩ { c with rest }
      else if d = '^' then
        push ⟨.look (if fl.multiLine then .lineStart fl.crlf else .textStart), 0⟩ { c with rest }
      else if d = '$' then
        push ⟨.look (if fl.multiLine then .lineEnd fl.crlf else .textEnd), 0⟩ { c with rest }
      else do push ⟨← primNode? fl (.literal d false), 0⟩ { c with rest }

/-- How many bytes an automaton may take. -/
def weightLimit : Nat := 10 * 0x100000

/-- The expression of a pattern. -/
def compile? (s : String) : Option Node := do
  let cs := s.toList
  let (n, after) ← expression? (2 * cs.length + 2) { rest := cs } [] []
  if !after.rest.isEmpty then none
  else if depthLimit < n.depth ∨ weightLimit < n.value.weight then none
  else some n.value

/-- The test of a text that a pattern stands for. -/
def test? (pattern : String) : Option (String → Bool) := (compile? pattern).map isMatch

end Blueprint.Pattern
