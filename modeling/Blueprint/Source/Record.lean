import Blueprint.Source.Reader

/-!
# Records

A record type is described once, by its fields in order: their keys, how each is read into a record
and how it is written. A record is read from entries in any order, unknown ones being skipped, or
from the list of its fields where the notation allows that.

* `Field`: a field of a record type.
* `record`: the reader of a record type.
* `write`: the JSON object of a record.
-/

namespace Blueprint.Source

/-- When a field may be missing. -/
inductive Presence where
  /-- It never may. -/
  | required
  /-- Among entries it may, but it has its place in a list. -/
  | optional
  /-- It may, also at the end of a list. -/
  | defaulted
  deriving DecidableEq, Repr

/-- A field of the record type `σ`. -/
structure Field (σ : Type) where
  key : String
  presence : Presence
  /-- Reads the field into a record. -/
  read : Frame → Node → σ → Except Fault σ
  /-- The value of the field, unless it is left out. -/
  write : σ → Option Json

variable {σ : Type}

/-- Reads entries into a record. A known key may occur once; values of unknown keys are skipped.
The keys seen are returned with the record. -/
def readEntries (fields : List (Field σ)) (fr : Frame) (acc : σ) (seen : List String) :
    List (Node × Node) → Except Fault (σ × List String)
  | [] => .ok (acc, seen)
  | (k, v) :: rest => do
    let key ← text fr k
    match fields.find? (·.key == key) with
    | none =>
      skip v
      readEntries fields fr acc seen rest
    | some f =>
      if seen.contains key then throw .mismatch
      let acc ← f.read fr v acc
      readEntries fields fr acc (key :: seen) rest

/-- Reads the items of a list into the fields of a record, in order. Further items are refused as
what follows the end of a text would be. -/
def readPositions (fr : Frame) (close : Close) (acc : σ) :
    List (Field σ) → List Node → Except Fault σ
  | [], [] => do
    checkClose close
    return acc
  | [], _ :: _ => .error .malformed
  | f :: fields, [] => do
    checkClose close
    if f.presence = .defaulted then readPositions fr close acc fields [] else throw .mismatch
  | f :: fields, v :: rest => do
    let acc ← f.read fr v acc
    readPositions fr close acc fields rest

/-- Reads a record. Fields that are missing keep the value they have in `initial`. -/
def record (initial : σ) (fields : List (Field σ)) : Reader σ
  | fr, .record es c => do
    let (r, seen) ← readEntries fields (← fr.enter) initial [] es
    checkClose c
    if fields.any fun f => f.presence = .required && !seen.contains f.key then throw .mismatch
    return r
  | fr, .list ns c => do
    if fr.positional then readPositions (← fr.enter) c initial fields ns else throw .mismatch
  | _, .scalar s =>
    if s.blank then
      if fields.any (·.presence = .required) then .error .mismatch else .ok initial
    else .error s.mismatch
  | _, .broken f _ => .error f

/-- The JSON object of a record. -/
def write (fields : List (Field σ)) (r : σ) : Json :=
  .object (fields.filterMap fun f => (f.write r).map (f.key, ·))

/-- A field that is always written. -/
def field {α : Type} (key : String) (presence : Presence) (r : Reader α) (set : α → σ → σ)
    (get : σ → Json) : Field σ where
  key := key
  presence := presence
  read fr n acc := do return set (← r fr n) acc
  write acc := some (get acc)

end Blueprint.Source
