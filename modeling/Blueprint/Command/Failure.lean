import Blueprint.Command.Files

/-!
# Failures

Why a command stops.

* `Failure`: the reason.
* `Failure.message`, `Failure.cause`: its wording.
* `Failure.report`: what is printed of it.
-/

namespace Blueprint.Command

/-- Why a command stops. -/
inductive Failure where
  | configUnreadable (path : String) (e : FileError)
  | configInvalid (path : String)
  | configExists (path : String)
  | documentUnreadable (path : String) (e : FileError)
  | documentInvalid (language : String)
  | patternInvalid (pattern : String)
  /-- A strict run skipped items. -/
  | skipped (count : Nat) (path : String)
  /-- A run that only looks would skip items. -/
  | wouldSkip (count : Nat)
  | outputUnmade (path : String) (e : FileError)
  | directoryUnmade (path : String) (e : FileError)
  | unwritten (path : String) (e : FileError)
  deriving DecidableEq, Repr

namespace Failure

/-- The wording of a failure. -/
def message : Failure → String
  | configUnreadable path e => "failed to read config " ++ path ++ ": " ++ e.message
  | configInvalid path => "failed to parse config " ++ path
  | configExists path => path ++ " already exists. Use --force to overwrite."
  | documentUnreadable path _ => "failed to read " ++ path
  | documentInvalid n => "failed to parse AST " ++ n
  | patternInvalid pattern => "invalid resource modifier pattern `" ++ pattern ++ "`"
  | skipped count path =>
    String.ofList (Nat.toDigits 10 count) ++ " item(s) skipped while reading " ++ path
  | wouldSkip count =>
    "validation failed: " ++ String.ofList (Nat.toDigits 10 count) ++ " item(s) would be skipped"
  | outputUnmade path _ => "failed to create output directory " ++ path
  | directoryUnmade path _ => "failed to create directory " ++ path
  | unwritten path _ => "failed to write " ++ path

/-- The error of a file that a failure comes from. -/
def cause : Failure → Option FileError
  | configUnreadable _ e | documentUnreadable _ e | outputUnmade _ e | directoryUnmade _ e
  | unwritten _ e => some e
  | _ => none

/-- What is printed of a failure. -/
def report (f : Failure) : String :=
  "Error: " ++ f.message ++ "\n" ++
  match f.cause with
  | none => ""
  | some e => "\nCaused by:\n    " ++ e.message ++ "\n"

end Failure

end Blueprint.Command
