import Blueprint.Source.Reader
import Blueprint.Yaml.Value

/-!
# Reading YAML

A document as a node, in which every alias is replaced by what its anchor marks. An alias inside of
what it stands for has no end, so aliases are followed a limited number of times.

* `Linked.ofTree?`: a tree whose aliases are known by number, and what the numbers stand for.
* `Linked.expand`: the node of a tree.
* `decode`: reads a value of a wanted type from a text.
-/

namespace Blueprint.Yaml

open Source

/-- A tree whose aliases are given by number. -/
inductive Linked where
  | scalar (s : Scalar)
  | list (tagged : Bool) (items : List Linked)
  | map (tagged : Bool) (entries : List (Linked × Linked))
  | alias (number : Nat)

/-- A part of a document that an anchor marks. -/
structure Target where
  number : Nat
  /-- How many anchors stand before it in the document. -/
  rank : Nat
  tree : Linked

/-- The anchors met so far. The number of an anchor is how many names were in use before it, so a
name that is used again can leave two anchors with one number. -/
structure Anchors where
  /-- The names, each with its last number. -/
  names : List (String × Nat) := []
  /-- How many anchors there were. -/
  count : Nat := 0
  targets : List Target := []

namespace Anchors

/-- Takes note of the anchor before a node, if there is one. -/
def enter (a : Anchors) (anchor : Option String) : Anchors :=
  match anchor with
  | none => a
  | some name =>
    { a with
      names := (name, a.names.length) :: a.names.filter (·.1 ≠ name)
      count := a.count + 1 }

/-- Keeps a node whose anchor was noted when the anchors were `before`. -/
def leave (a before : Anchors) (anchor : Option String) (tree : Linked) : Anchors :=
  match anchor with
  | none => a
  | some _ => { a with targets := ⟨before.names.length, before.count, tree⟩ :: a.targets }

/-- What a number stands for. Of two anchors with one number the later counts. -/
def target? (a : Anchors) (number : Nat) : Option Linked :=
  let found := (a.targets.filter (·.number = number)).foldl
    (fun (best : Option Target) t =>
      if best.all (·.rank < t.rank) then some t else best) none
  found.map (·.tree)

end Anchors

namespace Linked

/-- Whether a collection has a tag that belongs to the document alone. -/
def isTagged (m : Marks) : Bool := m.tag.any isLocalTag

mutual

/-- A tree whose aliases are known by number. An alias without an anchor before it is refused. -/
def ofTree? : Tree → Anchors → Option (Linked × Anchors)
  | .alias name, a => (a.names.lookup name).map fun n => (.alias n, a)
  | .scalar m text style, a =>
    let tree := .scalar (scalarOf m.tag text style)
    some (tree, (a.enter m.anchor).leave a m.anchor tree)
  | .list m items, a => do
    let (items, b) ← ofItems? items (a.enter m.anchor)
    let tree := .list (isTagged m) items
    return (tree, b.leave a m.anchor tree)
  | .map m entries, a => do
    let (entries, b) ← ofEntries? entries (a.enter m.anchor)
    let tree := .map (isTagged m) entries
    return (tree, b.leave a m.anchor tree)

/-- Items whose aliases are known by number. -/
def ofItems? : List Tree → Anchors → Option (List Linked × Anchors)
  | [], a => some ([], a)
  | t :: rest, a => do
    let (first, a) ← ofTree? t a
    let (others, a) ← ofItems? rest a
    return (first :: others, a)

/-- Entries whose aliases are known by number. -/
def ofEntries? : List (Tree × Tree) → Anchors → Option (List (Linked × Linked) × Anchors)
  | [], a => some ([], a)
  | (k, v) :: rest, a => do
    let (key, a) ← ofTree? k a
    let (value, a) ← ofTree? v a
    let (others, a) ← ofEntries? rest a
    return ((key, value) :: others, a)

end

mutual

/-- How many parts a tree has; a collection has a start and an end. -/
def size : Linked → Nat
  | .scalar _ => 1
  | .alias _ => 1
  | .list _ items => sizeItems items + 2
  | .map _ entries => sizeEntries entries + 2

/-- How many parts items have. -/
def sizeItems : List Linked → Nat
  | [] => 0
  | t :: rest => size t + sizeItems rest

/-- How many parts entries have. -/
def sizeEntries : List (Linked × Linked) → Nat
  | [] => 0
  | (k, v) :: rest => size k + size v + sizeEntries rest

end

/-- What stands for an alias that is not followed: nobody can read it, but it can be skipped. -/
def unfollowed : Node := .broken .malformed none

mutual

/-- The node of a tree. `follow` gives the node of an alias; it takes and returns how many more
aliases may be followed. -/
def expandWith (follow : Nat → Nat → Node × Nat) : Linked → Nat → Node × Nat
  | .scalar s, left => (.scalar s, left)
  | .alias n, left => follow n left
  | .list tagged items, left =>
    let (items, left) := expandItems follow items left
    (.list items { tagged }, left)
  | .map tagged entries, left =>
    let (entries, left) := expandEntries follow entries left
    (.record entries { tagged }, left)

/-- The nodes of items. -/
def expandItems (follow : Nat → Nat → Node × Nat) : List Linked → Nat → List Node × Nat
  | [], left => ([], left)
  | t :: rest, left =>
    let (first, left) := expandWith follow t left
    let (others, left) := expandItems follow rest left
    (first :: others, left)

/-- The nodes of entries. -/
def expandEntries (follow : Nat → Nat → Node × Nat) :
    List (Linked × Linked) → Nat → List (Node × Node) × Nat
  | [], left => ([], left)
  | (k, v) :: rest, left =>
    let (key, left) := expandWith follow k left
    let (value, left) := expandWith follow v left
    let (others, left) := expandEntries follow rest left
    ((key, value) :: others, left)

end

/-- The node of an alias. Aliases lie at most `depth` deep in what other aliases stand for, and at
most `left` of them are followed. -/
def follow (a : Anchors) : Nat → Nat → Nat → Node × Nat
  | 0, _, left => (unfollowed, left)
  | _ + 1, _, 0 => (unfollowed, 0)
  | depth + 1, n, left + 1 =>
    match a.target? n with
    | none => (unfollowed, left)
    | some t => expandWith (follow a depth) t left

/-- How deeply lists and maps may be nested. -/
def levels : Nat := 128

/-- The node of a document. A hundred aliases may be followed for each part of the document. -/
def expand (a : Anchors) (t : Linked) : Node :=
  (expandWith (fun n left => ((follow a (levels + 1) n (100 * t.size)).1, left)) t 0).1

end Linked

/-- The node of a text. A text without a document reads as an empty one. -/
def nodeOf? (s : String) : Option Node := do
  let (t, anchors) ← Linked.ofTree? (← Tree.ofString? s) {}
  return t.expand anchors

/-- A record is written with its keys. -/
def textFrame : Frame := { levels := Linked.levels, positional := false }

/-- Reads a value of a wanted type from a text. -/
def decode {α : Type} (r : Reader α) (s : String) : Except Fault α :=
  match nodeOf? s with
  | none => .error .malformed
  | some n => r textFrame n

end Blueprint.Yaml
