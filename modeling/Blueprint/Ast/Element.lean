import Blueprint.Json.Basic

/-!
# Elements

The element tree of a blueprint: data structures with their members, values, and the categories
that group them.

* `Element`: a node of the tree.
* `Content`: what an element holds.
* `Element.children`, `Element.id`, `Element.stringValue`, …: views of an element.
-/

namespace Blueprint.Ast

/-- The name of an element: a text, or a symbol with its literal text. -/
inductive Label where
  | literal (text : String)
  | symbol (literal : String) (variable_ : Bool)
  deriving DecidableEq, Repr

/-- The text of a label. -/
def Label.text : Label → String
  | .literal s => s
  | .symbol s _ => s

/-- The metadata of an element; `id` names a data structure. -/
structure Meta where
  id : Option String := none
  description : Option String := none
  deriving DecidableEq, Repr

/-- What an element holds. -/
inductive Content (α : Type) where
  | absent
  /-- Child elements. -/
  | elements (items : List α)
  /-- The key and the value of a member. -/
  | member (key : α) (value : Option α)
  /-- A scalar, or any other value. -/
  | value (json : Json)
  deriving Repr

/-- A node of the element tree. -/
structure Element where
  kind : String
  name : Option Label := none
  «meta» : Option Meta := none
  description : Option String := none
  content : Content Element := .absent
  deriving Repr

namespace Element

/-- The kind of an element that wraps a data structure. -/
def dataStructure : String := "dataStructure"

/-- The kind of a member of an object. -/
def memberKind : String := "member"

/-- An element of a kind, without content. -/
def ofKind (kind : String) : Element := { kind }

/-- The element as the definition `id`. -/
def withId (e : Element) (id : String) : Element :=
  { e with «meta» := some { e.meta.getD {} with id := some id } }

/-- The element with the given children. -/
def withChildren (e : Element) (children : List Element) : Element :=
  { e with content := .elements children }

/-- The element with a plain value. -/
def withValue (e : Element) (json : Json) : Element := { e with content := .value json }

/-- A member with a string key. -/
def member (key : String) (value : Option Element) : Element :=
  { kind := memberKind, content := .member ((ofKind "string").withValue (.string key)) value }

/-- The child elements; none if the content is no list of elements. -/
def children (e : Element) : List Element :=
  match e.content with
  | .elements items => items
  | _ => []

/-- Whether the element wraps a data structure. -/
def isDataStructure (e : Element) : Bool := e.kind == dataStructure

/-- The text of the name. -/
def literalName (e : Element) : Option String := e.name.map Label.text

/-- The name of the definition, which is not empty. -/
def id (e : Element) : Option String :=
  (e.meta.bind (·.id)).filter (· != "")

/-- The description in the metadata, or else the one of the element itself. -/
def metaDescription (e : Element) : Option String :=
  (e.meta.bind (·.description)).or e.description

/-- The key and the value of a member. -/
def memberContent (e : Element) : Option (Element × Option Element) :=
  match e.content with
  | .member key value => some (key, value)
  | _ => none

/-- The string that the element holds. -/
def stringValue (e : Element) : Option String :=
  match e.content with
  | .value (.string s) => some s
  | _ => none

end Element

end Blueprint.Ast
