import Blueprint.Command.Files
import Blueprint.Command.Path

/-!
# File stores

Files and directories as a value, with a directory that paths start from.

* `Store`: files and directories by their names from the root.
* `Store.read`, `Store.isThere`, `Store.makeDirectories`, `Store.write`: what a command does.
* `Store.files`: a store as the files of a command.
-/

namespace Blueprint.Command

/-- What there may be at a path. -/
inductive Entry where
  | text (content : String)
  /-- A file that does not hold text. -/
  | binary
  | directory
  deriving DecidableEq, Repr

/-- The names that lead from the root to a file or directory. -/
abbrev Location := List (List Char)

/-- Files and directories. The directories that an entry lies in are there with it. -/
structure Store where
  entries : List (Location × Entry) := []
  /-- Where paths start that are not written from the root. -/
  home : Location := []
  deriving DecidableEq, Repr

namespace Store

/-- What there is at a location. -/
def entry? (s : Store) (l : Location) : Option Entry :=
  match s.entries.lookup l with
  | some e => some e
  | none =>
    if (s.home :: s.entries.map (·.1)).any l.isPrefixOf then some .directory else none

/-- A store with an entry at a location. -/
def set (s : Store) (l : Location) (e : Entry) : Store :=
  { s with entries := (l, e) :: s.entries.filter (·.1 ≠ l) }

/-! ## Finding locations -/

/-- How many bytes a name may take. -/
def nameLimit : Nat := 255

/-- The location that a name leads to. -/
def enter (l : Location) (name : List Char) : Except FileError Location :=
  if name = ['.', '.'] then .ok l.dropLast
  else if nameLimit < (String.ofList name).utf8ByteSize then .error .nameTooLong
  else .ok (l ++ [name])

/-- The location that names lead to. All but the last must lead to directories. -/
def follow (s : Store) : Location → List (List Char) → Except FileError Location
  | l, [] => .ok l
  | l, [name] => enter l name
  | l, name :: rest => do
    let next ← enter l name
    match s.entry? next with
    | none => .error .missing
    | some .directory => s.follow next rest
    | some _ => .error .notDirectory

/-- The location where a path starts. -/
def start (s : Store) (path : String) : Location := if isAbsolute path then [] else s.home

/-- The location of a path. -/
def locate (s : Store) (path : String) : Except FileError Location :=
  if path = "" then .error .missing
  else if path.toList.contains '\x00' then .error .nullInPath
  else s.follow (s.start path) (pathNames path)

/-- What there is at a path. -/
def find (s : Store) (path : String) : Except FileError Entry := do
  match s.entry? (← s.locate path) with
  | none => .error .missing
  | some .directory => .ok .directory
  | some e => if namesDirectory path then .error .notDirectory else .ok e

/-! ## Operations -/

/-- The text of a file. -/
def read (s : Store) (path : String) : Except FileError String := do
  match ← s.find path with
  | .text content => .ok content
  | .binary => .error .notText
  | .directory => .error .isDirectory

/-- Whether there is anything at a path. -/
def isThere (s : Store) (path : String) : Bool := (s.find path).isOk

/-- Makes a directory in one that is there. -/
def makeDirectory (s : Store) (l : Location) (names : List (List Char)) :
    Except FileError Store := do
  let target ← s.follow l names
  if (s.entry? target).isSome then .error .alreadyExists else .ok (s.set target .directory)

/-- Whether names lead to a directory. -/
def isDirectory (s : Store) (l : Location) (names : List (List Char)) : Bool :=
  match s.follow l names with
  | .ok target => s.entry? target = some .directory
  | .error _ => false

/-- Makes a directory in one that is there, unless the names lead to a directory already. -/
def makeUnlessThere (s : Store) (l : Location) (names : List (List Char)) :
    Except FileError Unit × Store :=
  match s.makeDirectory l names with
  | .ok t => (.ok (), t)
  | .error e => if s.isDirectory l names then (.ok (), s) else (.error e, s)

/-- Makes a directory and those that it lies in. The names are given from the inside out. Where a
directory cannot be made those around it stay. -/
def makeBelow (s : Store) (l : Location) : List (List Char) → Except FileError Unit × Store
  | [] => (.ok (), s)
  | name :: outer =>
    let names := (name :: outer).reverse
    match s.makeDirectory l names with
    | .error .missing =>
      match s.makeBelow l outer with
      | (.ok (), t) => t.makeUnlessThere l names
      | failed => failed
    | _ => s.makeUnlessThere l names

/-- Makes a directory and those that it lies in. -/
def makeDirectories (s : Store) (path : String) : Except FileError Unit × Store :=
  if path.toList.contains '\x00' then (.error .nullInPath, s)
  else s.makeBelow (s.start path) (pathNames path).reverse

/-- Makes a file of a text, or gives an existing one that text. -/
def write (s : Store) (path content : String) : Except FileError Store := do
  let l ← s.locate path
  if s.entry? l = some .directory then .error .isDirectory
  else if namesDirectory path then
    .error (if (s.entry? l).isSome then .notDirectory else .isDirectory)
  else .ok (s.set l (.text content))

/-- A change that keeps the store where it fails. -/
def attempt (change : Store → Except FileError Store) : StateM Store (Except FileError Unit) :=
  fun s => match change s with
    | .ok t => (.ok (), t)
    | .error e => (.error e, s)

/-- A store as the files of a command. -/
def files : Files (StateM Store) where
  read path := fun s => (s.read path, s)
  isThere path := fun s => (s.isThere path, s)
  makeDirectories path := (·.makeDirectories path)
  write path content := attempt (·.write path content)

end Store

end Blueprint.Command
