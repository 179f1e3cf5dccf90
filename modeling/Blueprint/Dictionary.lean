/-!
# Dictionaries

A dictionary lists its entries by the first appearance of their keys.

* `Dictionary.put`: gives a key a value; a key that has one keeps its place.
* `Dictionary.get?`: the value of a key.
-/

namespace Blueprint

/-- Entries by first appearance of their keys. -/
abbrev Dictionary (α : Type) := List (String × α)

namespace Dictionary

variable {α : Type}

/-- Gives a key a value. A key that has one keeps its place, a further key comes last. -/
def put (key : String) (value : α) : Dictionary α → Dictionary α
  | [] => [(key, value)]
  | (k, v) :: rest => if k = key then (k, value) :: rest else (k, v) :: put key value rest

/-- Adds an entry unless the key has a value. -/
def putNew (key : String) (value : α) : Dictionary α → Dictionary α
  | [] => [(key, value)]
  | (k, v) :: rest => if k = key then (k, v) :: rest else (k, v) :: putNew key value rest

/-- The value of a key. -/
def get? (key : String) : Dictionary α → Option α
  | [] => none
  | (k, v) :: rest => if k = key then some v else get? key rest

/-- The keys, in order. -/
def keys (d : Dictionary α) : List String := d.map (·.1)

/-- The dictionary of a list of entries; of two with one key the later value counts. -/
def ofEntries (entries : List (String × α)) : Dictionary α :=
  entries.foldl (fun d (k, v) => put k v d) []

end Dictionary

end Blueprint
