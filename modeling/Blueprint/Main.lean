import Blueprint.Command.Run

/-!
# The program

The command line on the files of the system.
-/

namespace Blueprint.Command

/-- The error of a file in the terms of the commands. -/
def fileErrorOf : IO.Error → FileError
  | .noFileOrDirectory .. => .missing
  | .alreadyExists .. => .alreadyExists
  | e => .other (toString e)

/-- An action on the files of the system, and the error that it may end in. -/
def attempted {α : Type} (action : IO α) : IO (Except FileError α) := do
  try return .ok (← action) catch e => return .error (fileErrorOf e)

/-- The files of the system. A directory can be opened, so opening tells whether a path leads
anywhere. -/
def systemFiles : Files IO where
  read path := attempted (IO.FS.readFile path)
  isThere path := do
    match ← attempted (IO.FS.Handle.mk path .read) with
    | .ok _ => return true
    | .error e => return e ≠ .missing
  makeDirectories path := attempted (if path = "" then pure () else IO.FS.createDirAll path)
  write path content := attempted (IO.FS.writeFile path content)

/-- How the program is called. -/
def usage : String :=
  "Usage: apib [-c <CONFIG>] <COMMAND>\n\n" ++
  "Commands:\n" ++
  "  generate [-i <INPUT>] [-o <OUTPUT>] [--strict]\n" ++
  "  validate [-i <INPUT>]\n" ++
  "  inspect [-i <INPUT>] [--format <yaml|json>]\n" ++
  "  init [--force]"

end Blueprint.Command

open Blueprint Command in
/-- Runs the command that the arguments ask for. -/
def main (args : List String) : IO UInt32 := do
  match Request.ofArguments? args with
  | none =>
    IO.eprintln usage
    return 2
  | some .version =>
    IO.println Request.versionText
    return 0
  | some (.run config command) =>
    let outcome ← run systemFiles config command
    IO.print outcome.console.out
    IO.eprint outcome.console.err
    return if outcome.failed then 1 else 0
