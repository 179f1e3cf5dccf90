import Blueprint.Json.Basic

/-!
# Nodes

A text in a data notation, as far as it could be read. A reader of records walks a node in the
order of the text and meets a fault where the text has it, so of two faults the first one counts.

* `Fault`: what stops a reader; `Fault.exists_of_bind_eq_ok`: two steps go well only if both do.
* `Datum`: a value read without a wanted type.
* `Scalar`: what a scalar reads as, for each type that may be wanted.
* `Node`: scalars, lists and records, and the places where the text breaks off.
-/

namespace Blueprint

/-! ## Faults -/

/-- What stops a reader of a text. -/
inductive Fault where
  /-- The text ended early. -/
  | incomplete
  /-- The text breaks the rules of its notation. -/
  | malformed
  /-- The text is sound, but holds something other than what was wanted. -/
  | mismatch
  deriving DecidableEq, Repr, Inhabited

namespace Fault

variable {ε α β : Type}

@[simp] theorem ok_bind (a : α) (f : α → Except ε β) : (Except.ok a >>= f) = f a := rfl

@[simp] theorem pure_eq_ok (a : α) : (pure a : Except ε α) = .ok a := rfl

theorem exists_of_bind_eq_ok {x : Except ε α} {f : α → Except ε β} {b : β}
    (h : (x >>= f) = .ok b) : ∃ a, x = .ok a ∧ f a = .ok b := by
  cases x with
  | error e => exact nomatch h
  | ok a => exact ⟨a, rfl, h⟩

end Fault

/-! ## Data and nodes -/

/-- The key of an entry: a text, a position among the fields of a record, or neither. -/
inductive Datum.Key where
  | text (s : String)
  | position (n : Nat)
  | other
  deriving DecidableEq, Repr

/-- A value read without a wanted type: its entries as written, repetitions included. -/
inductive Datum where
  | null
  | bool (value : Bool)
  | number (value : Json.Number)
  | text (s : String)
  | list (items : List Datum)
  | map (entries : List (Datum.Key × Datum))
  deriving Repr, Inhabited

/-- The key that a value is read as. -/
def Datum.toKey : Datum → Datum.Key
  | .text s => .text s
  | .number (.int (.ofNat n)) => .position n
  | _ => .other

mutual

/-- The JSON value of a datum. Every key must be a text; an infinite double is null. -/
def Datum.toJson? : Datum → Option Json
  | .null => some .null
  | .bool b => some (.bool b)
  | .number (.int n) => some (.number (.int n))
  | .number (.float bits) => some (if isFiniteDouble bits then .number (.float bits) else .null)
  | .text s => some (.string s)
  | .list items => (Datum.itemsToJson? items).map .array
  | .map entries => (Datum.entriesToJson? entries).map Json.ofEntries

/-- The JSON values of all items. -/
def Datum.itemsToJson? : List Datum → Option (List Json)
  | [] => some []
  | d :: rest => do return (← d.toJson?) :: (← Datum.itemsToJson? rest)

/-- The JSON values of all entries. -/
def Datum.entriesToJson? : List (Datum.Key × Datum) → Option (List (String × Json))
  | [] => some []
  | (.text k, d) :: rest => do return (k, ← d.toJson?) :: (← Datum.entriesToJson? rest)
  | _ :: _ => none

end

/-- What a scalar reads as. -/
structure Scalar where
  /-- Where a text is wanted. -/
  text : Except Fault String
  /-- Where a truth value is wanted. -/
  flag : Except Fault Bool
  /-- Whether it stands for no value where a value may be missing. -/
  absent : Except Fault Bool
  /-- Whether it stands for a list or a record without content. -/
  blank : Bool
  /-- Where any value is wanted. -/
  datum : Except Fault Datum

/-- The fault of a scalar that is not of the wanted type. -/
def Scalar.mismatch (s : Scalar) : Fault :=
  match s.datum with
  | .error f => f
  | .ok _ => .mismatch

/-- What stands at the end of a list or record. -/
structure Close where
  /-- The fault met there by every reader. -/
  fault : Option Fault := none
  /-- Whether the collection has a type of its own, which no reader of any value accepts. -/
  tagged : Bool := false
  deriving DecidableEq, Repr, Inhabited

/-- A part of a text. -/
inductive Node where
  | scalar (s : Scalar)
  | list (items : List Node) (close : Close)
  | record (entries : List (Node × Node)) (close : Close)
  /-- A part that no reader gets past, though one that only skips may. -/
  | broken (onRead : Fault) (onSkip : Option Fault)

namespace Scalar

/-- A scalar of one value, which is not a text, a truth value or null. -/
def ofDatum (d : Except Fault Datum) : Scalar :=
  let wrong : Fault := match d with
    | .error f => f
    | .ok _ => .mismatch
  { text := .error wrong, flag := .error wrong, absent := .ok false, blank := false, datum := d }

/-- The null of JSON. -/
def null : Scalar := { ofDatum (.ok .null) with absent := .ok true }

/-- A truth value of JSON. -/
def ofBool (b : Bool) : Scalar := { ofDatum (.ok (.bool b)) with flag := .ok b }

/-- A number of JSON. -/
def ofNumber (n : Except Fault Json.Number) : Scalar := ofDatum (n.map .number)

/-- A string of JSON. -/
def ofString (s : Except Fault String) : Scalar := { ofDatum (s.map .text) with text := s }

end Scalar

end Blueprint
