/-!
# JSON values

A value as it is kept and printed. An object is a list of entries; one that was read from a text
lists them by ascending key, each key once.

* `Json.Number`: an integer, or a double given by its bits.
* `Json.insert`: a further entry of an object; the last value given for a key stays.
* `Json.ofEntries`: the object with given entries, in any order and with repetitions.
* `Json.sorted`: a value whose objects list their keys in ascending order.
-/

namespace Blueprint

/-- A number: an integer of at most 64 bits, or a finite double. -/
inductive Json.Number where
  | int (value : Int)
  | float (bits : UInt64)
  deriving DecidableEq, Repr, Inhabited

/-- A double that is a number and finite. -/
def isFiniteDouble (bits : UInt64) : Bool := bits.toNat / 0x10000000000000 % 0x800 != 0x7FF

/-- A JSON value. -/
inductive Json where
  | null
  | bool (value : Bool)
  | number (value : Json.Number)
  | string (value : String)
  | array (items : List Json)
  | object (entries : List (String × Json))
  deriving Repr, Inhabited

namespace Json

/-- An entry put into a list of entries with ascending keys; it replaces one of the same key. -/
def insert (key : String) (value : Json) : List (String × Json) → List (String × Json)
  | [] => [(key, value)]
  | (k, v) :: rest =>
    if key = k then (key, value) :: rest
    else if key < k then (key, value) :: (k, v) :: rest
    else (k, v) :: insert key value rest

/-- The entries by ascending key; of two entries with one key the later counts. -/
def sortEntries (entries : List (String × Json)) : List (String × Json) :=
  entries.foldl (fun sorted (k, v) => insert k v sorted) []

/-- The object with the given entries. -/
def ofEntries (entries : List (String × Json)) : Json := .object (sortEntries entries)

mutual

/-- A value with the keys of every object in ascending order. -/
def sorted : Json → Json
  | .array items => .array (sortedItems items)
  | .object entries => ofEntries (sortedEntries entries)
  | j => j

/-- Items with the keys of every object in ascending order. -/
def sortedItems : List Json → List Json
  | [] => []
  | j :: rest => sorted j :: sortedItems rest

/-- Entries with the keys of every object in their values in ascending order. -/
def sortedEntries : List (String × Json) → List (String × Json)
  | [] => []
  | (k, j) :: rest => (k, sorted j) :: sortedEntries rest

end

/-- The value of a key, if the value is an object that has it. -/
def get? (key : String) : Json → Option Json
  | .object entries => entries.lookup key
  | _ => none

/-- The text of a string. -/
def string? : Json → Option String
  | .string s => some s
  | _ => none

/-- The truth value of a boolean. -/
def bool? : Json → Option Bool
  | .bool b => some b
  | _ => none

/-- The value of a number that is not negative and has no fraction. -/
def nat? : Json → Option Nat
  | .number (.int (.ofNat n)) => some n
  | _ => none

/-- The items of an array. -/
def array? : Json → Option (List Json)
  | .array items => some items
  | _ => none

/-- A string, or null in the absence of one. -/
def ofOption (s : Option String) : Json := (s.map Json.string).getD .null

/-- A natural number. -/
def ofNat (n : Nat) : Json := .number (.int n)

/-- An array of strings. -/
def ofStrings (items : List String) : Json := .array (items.map .string)

end Json

end Blueprint
