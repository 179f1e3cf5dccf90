import Blueprint.Ast.Element
import Blueprint.Source.Record

/-!
# Reading elements

The name and the content of an element may take several forms. They are read as values of any type
first and then as the first form that they fit: a name as a text or a symbol, content as a list of
elements, as a member, and else as a plain value. A list with one item that is no element is a
plain value as a whole.

* `Element.ofDatum?`: the element that a value stands for.
* `Content.ofDatum?`: the content that a value stands for.
* `Element.reader`: elements read from a text.
-/

namespace Blueprint.Ast

open Source

/-! ## Fields of a value -/

/-- The fields of a record found in a value: by key, or by position in a list. -/
structure Slots (α : Type) where
  positional : Bool
  values : List (Option α)

/-- Whether a key names the field `name` at position `i`. -/
def namesField (name : String) (i : Nat) : Datum.Key → Bool
  | .text s => s == name
  | .position n => n == i
  | .other => false

/-- The fields found among entries; none if a key is neither a text nor a position, or if a field
occurs twice. -/
def Slots.ofEntries {α : Type} (names : List String) (entries : List (Datum.Key × α)) :
    Option (Slots α) := do
  if entries.any (·.1 = .other) then none
  let values ← names.zipIdx.mapM fun (name, i) =>
    match entries.filter (fun e => namesField name i e.1) with
    | [] => some none
    | [e] => some (some e.2)
    | _ => none
  return ⟨false, values⟩

/-- The fields given by the items of a list, which must not be longer than the record. -/
def Slots.ofItems {α : Type} (names : List String) (items : List α) : Option (Slots α) :=
  if items.length ≤ names.length then some ⟨true, items.map some⟩ else none

namespace Slots

variable {α β : Type}

/-- The field at position `i`, if it was found. -/
def get (s : Slots α) (i : Nat) : Option α := (s.values[i]?).join

/-- A field that may not be missing. -/
def required (s : Slots α) (i : Nat) (read : α → Option β) : Option β := (s.get i).bind read

/-- A field that may be missing among entries; `read` gives `some none` for null. -/
def optional (s : Slots α) (i : Nat) (read : α → Option (Option β)) : Option (Option β) :=
  match s.get i with
  | some a => read a
  | none => if s.positional then none else some none

/-- A field with a default, which may be missing also at the end of a list. -/
def defaulted (s : Slots α) (i : Nat) (default : β) (read : α → Option β) : Option β :=
  match s.get i with
  | some a => read a
  | none => some default

end Slots

/-- The fields found in a value. -/
def slots (names : List String) : Datum → Option (Slots Datum)
  | .map entries => Slots.ofEntries names entries
  | .list items => Slots.ofItems names items
  | _ => none

/-- The text of a value. -/
def textOf? : Datum → Option String
  | .text s => some s
  | _ => none

/-- The truth value of a value. -/
def flagOf? : Datum → Option Bool
  | .bool b => some b
  | _ => none

/-- A value that may be null. -/
def nullable {α : Type} (read : Datum → Option α) : Datum → Option (Option α)
  | .null => some none
  | d => (read d).map some

/-- The label that a value stands for. Unlike other records a symbol is not written as a list. -/
def Label.ofDatum? : Datum → Option Label
  | .text s => some (.literal s)
  | .map entries => do
    let s ← Slots.ofEntries ["literal", "variable"] entries
    return .symbol (← s.required 0 textOf?) (← s.defaulted 1 false flagOf?)
  | _ => none

/-- The metadata that a value stands for. -/
def Meta.ofDatum? (d : Datum) : Option Meta := do
  let s ← slots ["id", "description"] d
  return { id := ← s.optional 0 (nullable textOf?)
           description := ← s.optional 1 (nullable textOf?) }

/-! ## Elements -/

/-- A value together with the element and the content that it stands for. -/
structure Reading where
  datum : Datum
  element : Option Element
  /-- Null is absent content; a value that fits no form has none. -/
  content : Option (Content Element)

/-- The names of an element's fields. -/
def elementFields : List String := ["element", "name", "meta", "description", "content"]

/-- The element that fields stand for. -/
def elementOfSlots (s : Slots Reading) : Option Element := do
  return { kind := ← s.required 0 (fun r => textOf? r.datum)
           name := ← s.optional 1 (fun r => nullable Label.ofDatum? r.datum)
           «meta» := ← s.optional 2 (fun r => nullable Meta.ofDatum? r.datum)
           description := ← s.optional 3 (fun r => nullable textOf? r.datum)
           content := (← s.optional 4 (fun r => r.content.map some)).getD .absent }

/-- A value that is null or an element. -/
def elementOrNull (r : Reading) : Option (Option Element) :=
  match r.datum with
  | .null => some none
  | _ => r.element.map some

/-- The member that fields stand for. -/
def memberOfSlots (s : Slots Reading) : Option (Content Element) := do
  return .member (← s.required 0 Reading.element) (← s.defaulted 1 none elementOrNull)

/-- The names of a member's fields. -/
def memberFields : List String := ["key", "value"]

/-- The content of a value that is neither a list of elements nor a member. -/
def plainContent (d : Datum) : Option (Content Element) := d.toJson?.map .value

/-- The reading of a scalar: content, but no element. -/
def scalarReading (d : Datum) : Reading := ⟨d, none, plainContent d⟩

/-- The content that fields stand for: a member, or else the plain value `d`. -/
def memberOrPlain (d : Datum) (s : Option (Slots Reading)) : Option (Content Element) :=
  match s.bind memberOfSlots with
  | some c => some c
  | none => plainContent d

/-- The reading of a list `d` with the given readings of its items. -/
def listReading (d : Datum) (items : List Reading) : Reading :=
  { datum := d
    element := (Slots.ofItems elementFields items).bind elementOfSlots
    content :=
      match items.mapM Reading.element with
      | some es => some (.elements es)
      | none => memberOrPlain d (Slots.ofItems memberFields items) }

/-- The reading of a map `d` with the given readings of its values. -/
def mapReading (d : Datum) (entries : List (Datum.Key × Reading)) : Reading :=
  { datum := d
    element := (Slots.ofEntries elementFields entries).bind elementOfSlots
    content := memberOrPlain d (Slots.ofEntries memberFields entries) }

mutual

/-- The reading of a value, from the readings of its parts. -/
def Reading.ofDatum : Datum → Reading
  | .null => ⟨.null, none, some .absent⟩
  | .bool b => scalarReading (.bool b)
  | .number n => scalarReading (.number n)
  | .text s => scalarReading (.text s)
  | .list items => listReading (.list items) (Reading.ofItems items)
  | .map entries => mapReading (.map entries) (Reading.ofEntries entries)

/-- The readings of items. -/
def Reading.ofItems : List Datum → List Reading
  | [] => []
  | d :: rest => Reading.ofDatum d :: Reading.ofItems rest

/-- The readings of entries. -/
def Reading.ofEntries : List (Datum.Key × Datum) → List (Datum.Key × Reading)
  | [] => []
  | (k, d) :: rest => (k, Reading.ofDatum d) :: Reading.ofEntries rest

end

/-- The element that a value stands for. -/
def Element.ofDatum? (d : Datum) : Option Element := (Reading.ofDatum d).element

/-- The content that a value stands for. -/
def Content.ofDatum? (d : Datum) : Option (Content Element) := (Reading.ofDatum d).content

/-! ## Reading from a text -/

/-- A reader of any value that is then read as one of several forms. -/
def formed {α : Type} (form : Datum → Option α) : Reader α := fun fr n => do
  match form (← datum fr n) with
  | some a => return a
  | none => throw .mismatch

/-- The fields of an element's metadata. -/
def Meta.fields : List (Source.Field Meta) := [
  { key := "id", presence := .optional
    read := fun fr n m => do return { m with id := ← optional text fr n }
    write := fun m => m.id.map .string },
  { key := "description", presence := .optional
    read := fun fr n m => do return { m with description := ← optional text fr n }
    write := fun m => m.description.map .string }]

/-- The JSON value of a label. -/
def Label.toJson : Label → Json
  | .literal s => .string s
  | .symbol s v => .object [("literal", .string s), ("variable", .bool v)]

/-- An object with the entries that are given. -/
def objectOf (entries : List (String × Option Json)) : Json :=
  .object (entries.filterMap fun (k, v) => v.map (k, ·))

mutual

/-- The JSON value of an element. -/
def Element.toJson : Element → Json
  | ⟨kind, name, m, description, content⟩ =>
    objectOf [("element", some (.string kind)), ("name", name.map Label.toJson),
      ("meta", m.map (write Meta.fields)), ("description", description.map .string),
      ("content", contentToJson? content)]

/-- The JSON value of content, unless it is absent. -/
def contentToJson? : Content Element → Option Json
  | .absent => none
  | .elements items => some (.array (elementsToJson items))
  | .member key none => some (.object [("key", key.toJson)])
  | .member key (some value) => some (.object [("key", key.toJson), ("value", value.toJson)])
  | .value json => some json

/-- The JSON values of elements. -/
def elementsToJson : List Element → List Json
  | [] => []
  | e :: rest => e.toJson :: elementsToJson rest

end

/-- The fields of an element. -/
def Element.fields : List (Source.Field Element) := [
  field "element" .required text (fun s e => { e with kind := s }) (fun e => .string e.kind),
  { key := "name", presence := .optional
    read := fun fr n e => do
      return { e with name := ← optional (formed Label.ofDatum?) fr n }
    write := fun e => e.name.map Label.toJson },
  { key := "meta", presence := .optional
    read := fun fr n e => do
      return { e with «meta» := ← optional (record {} Meta.fields) fr n }
    write := fun e => e.meta.map (write Meta.fields) },
  { key := "description", presence := .optional
    read := fun fr n e => do return { e with description := ← optional text fr n }
    write := fun e => e.description.map .string },
  { key := "content", presence := .optional
    read := fun fr n e => do
      return { e with content := (← optional (formed Content.ofDatum?) fr n).getD .absent }
    write := fun e => contentToJson? e.content }]

/-- Reads an element. -/
def Element.reader : Reader Element := record (Element.ofKind "") Element.fields

end Blueprint.Ast
