import Blueprint.Settings

/-!
# Arguments

What a command line asks for. Anything that is not understood makes the whole line a mistake.

* `Command`: a command with its own arguments.
* `Request.ofArguments?`: what a command line asks for.
-/

namespace Blueprint

/-- How the API model is printed. -/
inductive Format where
  | yaml
  | json
  deriving DecidableEq, Repr

/-- A command with its own arguments. Paths that are not given come from the configuration. -/
inductive Command where
  /-- Writes the sources of a blueprint. -/
  | generate (input output : Option String) (strict : Bool)
  /-- Says whether a blueprint reads without errors. -/
  | validate (input : Option String)
  /-- Prints the API model of a blueprint. -/
  | inspect (input : Option String) (format : Format)
  /-- Writes a first configuration. -/
  | configure (force : Bool)
  deriving DecidableEq, Repr

/-- What a command line asks for. -/
inductive Request where
  /-- A command under the configuration at a path. -/
  | run (config : String) (command : Command)
  /-- The version of the program. -/
  | version
  deriving DecidableEq, Repr

namespace Arguments

/-- An argument that goes by a name. -/
structure Switch where
  long : String
  short : Option Char := none
  /-- Whether a value follows. -/
  valued : Bool
  deriving DecidableEq, Repr

/-- The switches of a part of the command line, each with its value. One without has none. -/
abbrev Given := List (String × String)

/-- Whether an argument is a switch or ends all switches; a lone hyphen is neither. -/
def isSwitch (arg : String) : Bool :=
  match arg.toList with
  | '-' :: _ :: _ => true
  | _ => false

/-- A further switch. None may be repeated. -/
def give (s : Switch) (value : String) (given : Given) : Option Given :=
  if (given.lookup s.long).isSome then none else some ((s.long, value) :: given)

/-- The value that an argument holds after an equals sign. -/
def afterEquals : List Char → Option String
  | '=' :: value => some (String.ofList value)
  | _ => none

/-- A switch with its value in the same argument, or without one. -/
structure Named where
  switch : Switch
  value : Option String

/-- The switch of an argument. -/
def named? (known : List Switch) (arg : String) : Option Named :=
  match arg.toList with
  | '-' :: '-' :: cs => do
    let s ← known.find? (·.long = String.ofList (cs.takeWhile (· ≠ '=')))
    return ⟨s, afterEquals (cs.dropWhile (· ≠ '='))⟩
  | '-' :: c :: cs => do
    let s ← known.find? (·.short = some c)
    return ⟨s, if cs.isEmpty then none else (afterEquals cs).or (some (String.ofList cs))⟩
  | _ => none

/-- Reads switches up to the first argument that is none. -/
def readSwitches (known : List Switch) : List String → Given → Option (Given × List String)
  | [], given => some (given, [])
  | arg :: rest, given =>
    if !isSwitch arg then some (given, arg :: rest)
    else match named? known arg with
      | none => none
      | some ⟨s, some v⟩ =>
        if s.valued then (give s v given).bind (readSwitches known rest) else none
      | some ⟨s, none⟩ =>
        if !s.valued then (give s "" given).bind (readSwitches known rest)
        else match rest with
          | [] => none
          | v :: after =>
            if isSwitch v then none else (give s v given).bind (readSwitches known after)

/-- Reads the switches at the end of a command line, which two hyphens may close. -/
def readLast (known : List Switch) (args : List String) : Option Given := do
  let unclosed := if args.getLast? = some "--" then args.dropLast else args
  let (given, rest) ← readSwitches known unclosed []
  if rest.isEmpty then some given else none

/-- The path that a switch gives, if it gives one. No path is empty. -/
def path? (given : Given) (name : String) : Option (Option String) :=
  match given.lookup name with
  | some "" => none
  | other => some other

def configSwitch : Switch := { long := "config", short := some 'c', valued := true }
def inputSwitch : Switch := { long := "input", short := some 'i', valued := true }
def outputSwitch : Switch := { long := "output", short := some 'o', valued := true }
def strictSwitch : Switch := { long := "strict", valued := false }
def formatSwitch : Switch := { long := "format", valued := true }
def forceSwitch : Switch := { long := "force", valued := false }

/-- The format of a name; without one it is YAML. -/
def format? : Option String → Option Format
  | none => some .yaml
  | some name =>
    if name = "yaml" then some .yaml else if name = "json" then some .json else none

/-- Reads a command by its name. The configuration may be named among its switches. -/
def command? (name : String) (args : List String) : Option (Given × Command) :=
  if name = "generate" then do
    let given ← readLast [configSwitch, inputSwitch, outputSwitch, strictSwitch] args
    return (given, .generate (← path? given "input") (← path? given "output")
      (given.lookup "strict").isSome)
  else if name = "validate" then do
    let given ← readLast [configSwitch, inputSwitch] args
    return (given, .validate (← path? given "input"))
  else if name = "inspect" then do
    let given ← readLast [configSwitch, inputSwitch, formatSwitch] args
    return (given, .inspect (← path? given "input") (← format? (given.lookup "format")))
  else if name = "init" then do
    let given ← readLast [configSwitch, forceSwitch] args
    return (given, .configure (given.lookup "force").isSome)
  else none

end Arguments

/-- The name of the program and its version. -/
def Request.versionText : String := "apib 0.3.0"

open Arguments in
/-- What a command line asks for. A configuration named after the command counts before one named in
front of it. -/
def Request.ofArguments? (args : List String) : Option Request :=
  if args.head? = some "--version" ∨ args.head? = some "-V" then some .version
  else do
    let (before, rest) ← readSwitches [configSwitch] args []
    match rest with
    | [] => none
    | name :: rest =>
      let (after, c) ← command? name rest
      let outer ← path? before "config"
      let inner ← path? after "config"
      return .run ((inner.or outer).getD Settings.fileName) c

end Blueprint
