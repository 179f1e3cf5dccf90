import Blueprint.Command.Report
import Blueprint.Command.Store

/-!
# Running commands

A command reads all it needs, decides, and only then changes files.

* `Outcome`: what a command prints, and whether it failed.
* `run`: runs a command on files.
-/

namespace Blueprint.Command

/-- What a command prints. -/
structure Console where
  out : String := ""
  err : String := ""
  deriving DecidableEq, Repr

/-- A command on its way: what it has printed stays when it fails. -/
abbrev Session (m : Type → Type) := ExceptT Failure (StateT Console m)

variable {m : Type → Type} [Monad m]

/-- Prints to the standard output. -/
def print (text : String) : Session m Unit := modify fun c => { c with out := c.out ++ text }

/-- Prints a line beside the standard output. -/
def say (line : String) : Session m Unit := modify fun c => { c with err := c.err ++ line ++ "\n" }

/-- An action on files. -/
def onFiles {α : Type} (x : m α) : Session m α := ExceptT.lift (StateT.lift x)

/-- A change of files, and the failure that an error of it means. -/
def change (failure : FileError → Failure) (x : m (Except FileError Unit)) : Session m Unit := do
  match ← onFiles x with
  | .ok () => return
  | .error e => throw (failure e)

/-- A value, or the failure to get one. -/
def settle {α : Type} (x : Except Failure α) : Session m α := ExceptT.mk (pure x)

variable (fs : Files m)

/-! ## Reading -/

/-- Reads the configuration at a path. -/
def loadSettings (path : String) : Session m Settings := do
  if ← onFiles (fs.isThere path) then settle (readSettings path (some (← onFiles (fs.read path))))
  else settle (readSettings path none)

/-- Reads the document at a path and makes its API model. -/
def loadResult (s : Settings) (path : String) : Session m Result := do
  let d ← settle (readDocument path (← onFiles (fs.read path)))
  settle (Result.ofDocument? s d)

/-! ## Writing -/

/-- Writes a file below a directory. -/
def writeFile (directory : String) (f : Java.File) : Session m Unit := do
  let path := joinPath directory f.path
  change (.directoryUnmade (parentPath path)) (fs.makeDirectories (parentPath path))
  change (.unwritten path) (fs.write path f.content)
  say ("  wrote " ++ path)

/-- Writes sources below a directory. -/
def writeSources (directory : String) (sources : List Java.File) (notes : List Diagnostic) :
    Session m Unit := do
  say ("Generating Spring MVC sources → " ++ directory)
  change (.outputUnmade directory) (fs.makeDirectories directory)
  sources.forM (writeFile fs directory)
  say ("Generated " ++ Text.decimal sources.length ++ " files in " ++ directory ++ " ("
    ++ Text.decimal (Diagnostic.warnings notes) ++ " warnings, "
    ++ Text.decimal (Diagnostic.errors notes) ++ " errors)")

/-! ## Commands -/

/-- Writes the sources of a blueprint. -/
def generateSources (config : String) (input output : Option String) (strict : Bool) :
    Session m Unit := do
  let s ← loadSettings fs config
  let input := input.getD s.input
  let r ← loadResult fs s input
  -- nothing is written before all sources are there
  let files ← settle (sources s input strict r)
  writeSources fs (output.getD s.output) files r.notes

/-- Says whether a blueprint reads without errors. -/
def validateBlueprint (config : String) (input : Option String) : Session m Unit := do
  let s ← loadSettings fs config
  let r ← loadResult fs s (input.getD s.input)
  summary r |>.forM say
  settle (verdict r)
  say "Validation successful."

/-- Prints the API model of a blueprint. -/
def inspectBlueprint (config : String) (input : Option String) (f : Format) : Session m Unit := do
  let s ← loadSettings fs config
  let r ← loadResult fs s (input.getD s.input)
  print (inspection f r)

/-- Writes a first configuration. It replaces another only if forced to. -/
def configureProject (config : String) (force : Bool) : Session m Unit := do
  if (← onFiles (fs.isThere config)) && !force then throw (.configExists config)
  change (.unwritten config) (fs.write config Settings.sample)
  say ("Created " ++ config)

/-- A command under the configuration at a path. -/
def session (config : String) : Command → Session m Unit
  | .generate input output strict => generateSources fs config input output strict
  | .validate input => validateBlueprint fs config input
  | .inspect input f => inspectBlueprint fs config input f
  | .configure force => configureProject fs config force

/-- What a command prints, and whether it failed. -/
structure Outcome where
  failed : Bool
  console : Console
  deriving DecidableEq, Repr

/-- Runs a command on files. A failure is printed last. -/
def run (config : String) (c : Command) : m Outcome := do
  match ← (session fs config c).run.run {} with
  | (.ok (), printed) => return ⟨false, printed⟩
  | (.error f, printed) => return ⟨true, { printed with err := printed.err ++ f.report }⟩

end Blueprint.Command
