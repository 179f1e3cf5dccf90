import Blueprint.Source.Node

/-!
# Readers

Reading values of a wanted type from a node. A reader enters lists and records down to a depth
that the notation allows; what is only skipped may lie deeper.

* `Reader`: a reader of one type.
* `text`, `flag`, `optional`, `list`: readers of a wanted type.
* `datum`: the reader of any value.
* `skip`: passes over a value.
-/

namespace Blueprint.Source

/-- The rules of a notation at one place of a text. -/
structure Frame where
  /-- How many more lists and records may be entered. -/
  levels : Nat
  /-- Whether a record may be written as the list of its fields. -/
  positional : Bool
  deriving DecidableEq, Repr

/-- The frame inside a list or record. -/
def Frame.enter (fr : Frame) : Except Fault Frame :=
  match fr.levels with
  | 0 => .error .malformed
  | n + 1 => .ok { fr with levels := n }

/-- A reader of one type. -/
abbrev Reader (α : Type) := Frame → Node → Except Fault α

/-- The fault met at the end of a collection, if any. -/
def checkClose (c : Close) : Except Fault Unit :=
  match c.fault with
  | none => .ok ()
  | some f => .error f

/-- Reads a text. -/
def text : Reader String
  | _, .scalar s => s.text
  | _, .broken f _ => .error f
  | _, _ => .error .mismatch

/-- Reads a truth value. -/
def flag : Reader Bool
  | _, .scalar s => s.flag
  | _, .broken f _ => .error f
  | _, _ => .error .mismatch

/-- Reads a value that may be missing. -/
def optional {α : Type} (r : Reader α) : Reader (Option α)
  | fr, .scalar s => do if ← s.absent then return none else return some (← r fr (.scalar s))
  | fr, n => do return some (← r fr n)

/-- Reads all items. -/
def items {α : Type} (r : Reader α) (fr : Frame) : List Node → Except Fault (List α)
  | [] => .ok []
  | n :: rest => do
    let first ← r fr n
    return first :: (← items r fr rest)

/-- Reads a list. -/
def list {α : Type} (r : Reader α) : Reader (List α)
  | fr, .list ns c => do
    let read ← items r (← fr.enter) ns
    checkClose c
    return read
  | _, .scalar s => if s.blank then .ok [] else .error s.mismatch
  | _, .record _ _ => .error .mismatch
  | _, .broken f _ => .error f

mutual

/-- Reads any value. -/
def datum : Reader Datum
  | _, .scalar s => s.datum
  | fr, .list ns c => do
    let inner ← fr.enter
    if c.tagged then throw .mismatch
    let read ← datumItems inner ns
    checkClose c
    return .list read
  | fr, .record es c => do
    let inner ← fr.enter
    if c.tagged then throw .mismatch
    let read ← datumEntries inner es
    checkClose c
    return .map read
  | _, .broken f _ => .error f

/-- Reads any values. -/
def datumItems : Frame → List Node → Except Fault (List Datum)
  | _, [] => .ok []
  | fr, n :: rest => do
    let first ← datum fr n
    return first :: (← datumItems fr rest)

/-- Reads any entries. -/
def datumEntries : Frame → List (Node × Node) → Except Fault (List (Datum.Key × Datum))
  | _, [] => .ok []
  | fr, (k, n) :: rest => do
    let key ← datum fr k
    let value ← datum fr n
    return (key.toKey, value) :: (← datumEntries fr rest)

end

mutual

/-- Passes over a value. -/
def skip : Node → Except Fault Unit
  | .scalar _ => .ok ()
  | .list ns c => do
    skipItems ns
    checkClose c
  | .record es c => do
    skipEntries es
    checkClose c
  | .broken _ none => .ok ()
  | .broken _ (some f) => .error f

/-- Passes over values. -/
def skipItems : List Node → Except Fault Unit
  | [] => .ok ()
  | n :: rest => do
    skip n
    skipItems rest

/-- Passes over entries. -/
def skipEntries : List (Node × Node) → Except Fault Unit
  | [] => .ok ()
  | (k, n) :: rest => do
    skip k
    skip n
    skipEntries rest

end

end Blueprint.Source
